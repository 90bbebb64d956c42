import WhadLib.Encoding
import WhadLib.Transport.Progress

/-! Sending a message: encode it, free what it owns, queue the bytes. Whatever the callbacks report,
a message that is queued is queued whole, because the runtime measures every submessage before
it writes it. The text callbacks themselves are not honest on a stream that is nearly full. -/
namespace WhadLib
open Library

/-- `whad_phy_get_message_type`; 0 is `WHAD_PHY_UNKNOWN`. -/
def whadPhyGetMessageType (m : Message) : ℕ :=
  if whadGetMessageDomain m = .phy then m.phy.whichMsg else 0

/-- The list is released; the argument of the message stays as it is. -/
def whadPhyMessageFree (h : Heap) (m : Message) : Heap × Message :=
  if whadPhyGetMessageType m = PhyMessage.supportedFreqTag then
    match m.phy.supportedFreq with
    | .frequencyRange (some a) => (h.free a, m)
    | _ => (h, m)
  else (h, m)

def whadFreeMessageResources (h : Heap) (m : Message) : Heap × Message :=
  match whadGetMessageType m with
  | .domain =>
    match whadGetMessageDomain m with
    | .phy => whadPhyMessageFree h m
    | _ => (h, m)
  | _ => (h, m)

/-- What a call of `whad_send_message` leaves behind. -/
structure Sent where
  result : WhadResult
  heap : Heap
  message : Message
  transport : Transport

section
variable (pb : Nanopb) (boardFields : BoardMessage → Fields CallbackField)

/-- `pb_encode` into `g_tx_message_buf`. -/
def encodeMessage (h : Heap) (m : Message) : Bool × Sink UInt8 :=
  pb.encode (fun c => CallbackField.encode pb h c) (m.fields boardFields) ⟨[],some maxEncodedMessageSize⟩

def whadSendMessage (h : Heap) (m : Message) (t : Transport) : Sent :=
  let stream := encodeMessage pb boardFields h m
  if stream.1 then
    if 0 < stream.2.written.length then
      let freed := whadFreeMessageResources h m
      let queued := t.sendMessage (some fun i => stream.2.written.getD i 0) stream.2.written.length
      ⟨queued.1,freed.1,freed.2,queued.2⟩
    else ⟨.error,h,m,t⟩
  else ⟨.error,h,m,t⟩

end

/-- Reading the transmit buffer gives the bytes that were encoded. -/
theorem payloadOf_getD (bytes : List UInt8) :
    payloadOf (some fun i => bytes.getD i 0) bytes.length = bytes := by
  apply List.ext_getElem
  · simp [payloadOf]
  · intro i h₁ h₂
    simp [payloadOf, bytesAt, h₂]

section
variable {pb : Nanopb} (boardFields : BoardMessage → Fields CallbackField)

/-- A message is one submessage, or nothing when its tag is unknown. -/
theorem Message.fields_cases (m : Message) :
    m.fields boardFields = .nil ∨ ∃ field body, m.fields boardFields = .submessage field body .nil := by
  unfold Message.fields
  split
  all_goals first | exact .inr ⟨_,_,rfl⟩ | exact .inl rfl

/-- `pb_encode` writes the complete encoding of a message or reports that it does not fit. -/
theorem encodeMessage_emits (h : pb.Documented) (heap : Heap) (m : Message) {bytes : List UInt8}
    (hbytes : m.encoding boardFields heap = some bytes) :
    (pb.encode (fun c => CallbackField.encode pb heap c) (m.fields boardFields)).Emits bytes := by
  have hrun (c : CallbackField) : (c.encode pb heap).Completes (c.output heap) := c.encode_completes h heap
  rw [Message.encoding] at hbytes
  obtain hnil | ⟨field,body,hsub⟩ := m.fields_cases boardFields
  · rw [hnil] at hbytes ⊢
    obtain rfl : [] = bytes := by simpa [Fields.encoding] using hbytes
    rw [h.nil]
    exact Writer.emits_done
  · rw [hsub] at hbytes ⊢
    exact h.encode_emits hrun hbytes

/-- An encoding that fits the transmit buffer is queued, and the resources are freed first. -/
theorem whadSendMessage_of_fits (h : pb.Documented) (heap : Heap) (m : Message) (t : Transport)
    {bytes : List UInt8} (hbytes : m.encoding boardFields heap = some bytes) (hne : bytes ≠ [])
    (hfits : bytes.length ≤ maxEncodedMessageSize) :
    let queued := t.sendMessage (some fun i => bytes.getD i 0) bytes.length
    let freed := whadFreeMessageResources heap m
    whadSendMessage pb boardFields heap m t = ⟨queued.1,freed.1,freed.2,queued.2⟩ := by
  have hstream : encodeMessage pb boardFields heap m =
      (true, (⟨[],some maxEncodedMessageSize⟩ : Sink UInt8).write bytes) := by
    refine (encodeMessage_emits boardFields h heap m hbytes).completes _ fun n hn => ?_
    obtain rfl := Option.some.inj hn
    exact hfits
  simp only [whadSendMessage, hstream, Sink.write, List.nil_append, if_true, List.length_pos_iff.mpr hne]

/-- An empty queue takes every encoding that fits the transmit buffer. -/
theorem whadSendMessage_of_empty (h : pb.Documented) (heap : Heap) (m : Message) (t : Transport)
    {bytes : List UInt8} (hbytes : m.encoding boardFields heap = some bytes) (hne : bytes ≠ [])
    (hfits : bytes.length ≤ maxEncodedMessageSize) (hempty : t.txBuf.toList = []) :
    (whadSendMessage pb boardFields heap m t).result = .success := by
  rw [whadSendMessage_of_fits boardFields h heap m t hbytes hne hfits]
  have hfree := t.txBuf.toList_length_add_getFreeSize
  have hsum := maxEncodedMessageSize_add
  rw [hempty, List.length_nil] at hfree
  exact t.sendMessage_of_room ⟨by omega,by omega,nofun⟩ (by omega)

/-- Without such an encoding the call reports an error and changes nothing. -/
theorem whadSendMessage_of_not_fits (h : pb.Documented) (heap : Heap) (m : Message) (t : Transport)
    (hnot : ∀ bytes, m.encoding boardFields heap = some bytes → bytes ≠ [] →
      maxEncodedMessageSize < bytes.length) :
    whadSendMessage pb boardFields heap m t = ⟨.error,heap,m,t⟩ := by
  cases hbytes : m.encoding boardFields heap with
  | none =>
    have hfail : (encodeMessage pb boardFields heap m).1 = false := h.encode_refused hbytes _
    simp [whadSendMessage, hfail]
  | some bytes =>
    have hemits := encodeMessage_emits boardFields h heap m hbytes
    by_cases hne : bytes = []
    · subst hne
      have hstream := hemits.completes ⟨[],some maxEncodedMessageSize⟩ (Sink.fits_nil _)
      simp only [whadSendMessage, encodeMessage, hstream]
      simp
    · have hlong := hnot bytes hbytes hne
      have hfull : ¬(⟨[],some maxEncodedMessageSize⟩ : Sink UInt8).Fits bytes := by
        intro hfits
        have := hfits _ rfl
        omega
      have hfail : (encodeMessage pb boardFields heap m).1 = false := (hemits.full _ hfull).1
      simp [whadSendMessage, hfail]

/-- A call that succeeds has queued the frame of the complete encoding, behind what waiting for
space left in the queue; a message whose encoding does not fit the transmit buffer is an error
and nothing is queued. -/
def FaithfulSend (pb : Nanopb) (heap : Heap) (m : Message) (t : Transport) : Prop :=
  let sent := whadSendMessage pb boardFields heap m t
  (sent.result = .success → ∃ bytes, m.encoding boardFields heap = some bytes ∧
    bytes.length ≤ maxEncodedMessageSize ∧ ∃ t', (t' = t ∨ t.state = .idle ∧ t' = t.sendPending.2) ∧
      sent.transport.txBuf.toList = t'.txBuf.toList ++ frame bytes) ∧
  ((∀ bytes, m.encoding boardFields heap = some bytes → maxEncodedMessageSize < bytes.length) →
    sent.result = .error ∧ sent.transport = t)

theorem faithfulSend (h : pb.Documented) (heap : Heap) (m : Message) (t : Transport) :
    FaithfulSend boardFields pb heap m t := by
  constructor
  · intro hsuccess
    by_cases hfit : ∃ bytes, m.encoding boardFields heap = some bytes ∧ bytes ≠ [] ∧
        bytes.length ≤ maxEncodedMessageSize
    · obtain ⟨bytes,hbytes,hne,hle⟩ := hfit
      refine ⟨bytes,hbytes,hle,?_⟩
      rw [whadSendMessage_of_fits boardFields h heap m t hbytes hne hle] at hsuccess ⊢
      obtain ⟨hres,_⟩ | ⟨_,_,t',tx,hwait,hqueue,hnew⟩ :=
        t.sendMessage_cases (some fun i => bytes.getD i 0) bytes.length
      · exact absurd hsuccess hres
      · rw [payloadOf_getD] at hqueue
        simp only [hnew]
        exact ⟨t',hwait,hqueue⟩
    · have hnot : ∀ bytes, m.encoding boardFields heap = some bytes → bytes ≠ [] →
          maxEncodedMessageSize < bytes.length := by
        intro bytes hbytes hne
        by_contra hle
        exact hfit ⟨bytes,hbytes,hne,by omega⟩
      rw [whadSendMessage_of_not_fits boardFields h heap m t hnot] at hsuccess
      contradiction
  · intro hlong
    rw [whadSendMessage_of_not_fits boardFields h heap m t fun bytes hbytes _ => hlong bytes hbytes]
    exact ⟨rfl,rfl⟩

end

/-- The callback returns true only when its whole field was written. -/
def HonestCallback (pb : Nanopb) (heap : Heap) (c : CallbackField) (s : Sink UInt8) : Prop :=
  (c.encode pb heap s).1 = true → c.encode pb heap s = (true, s.write (c.output heap))

/-- The text of a callback field, with the tag its callback expects. -/
def CallbackField.text (c : CallbackField) : Option (List UInt8) :=
  match c.callback with
  | .verboseMsg text => if c.field.tag = verboseDataTag then some text else none
  | .debugMsg text => if c.field.tag = debugDataTag then some text else none
  | _ => none

/-- The stream has room for the tag of a text field, but not for its length and text. -/
def TextCut (c : CallbackField) (s : Sink UInt8) : Prop :=
  ∃ text, c.text = some text ∧ s.Fits (fieldKey c.field) ∧
    ¬s.Fits (fieldKey c.field ++ (varint text.length ++ text))

theorem honest_of_emits {pb : Nanopb} {heap : Heap} {c : CallbackField}
    (h : (c.encode pb heap).Emits (c.output heap)) (s : Sink UInt8) : HonestCallback pb heap c s := by
  intro hok
  by_cases hs : s.Fits (c.output heap)
  · exact h.completes s hs
  · rw [(h.full s hs).1] at hok
    contradiction

/-- With room for the tag, a text callback reports success whether or not the text fits. -/
theorem honest_textEncodeCb_iff {pb : Nanopb} (h : pb.Documented) (dataTag : ℕ) (field : PbField)
    (text : List UInt8) (s : Sink UInt8) (htag : field.tag = dataTag) :
    ((textEncodeCb dataTag pb field text s).1 = true →
        textEncodeCb dataTag pb field text s =
          (true, s.write (fieldKey field ++ (varint text.length ++ text)))) ↔
      ¬(s.Fits (fieldKey field) ∧ ¬s.Fits (fieldKey field ++ (varint text.length ++ text))) := by
  obtain ⟨hroom,hfull⟩ := textEncodeCb_of_tag h dataTag field text s htag
  by_cases hkey : s.Fits (fieldKey field)
  · obtain ⟨hok,hsink⟩ := hroom hkey
    by_cases hall : s.Fits (fieldKey field ++ (varint text.length ++ text))
    · have hcompletes := textEncodeCb_completes h dataTag field text
      rw [CallbackField.textOutput, if_pos htag] at hcompletes
      exact ⟨fun _ hcut => hcut.2 hall,fun _ _ => hcompletes s hall⟩
    · have htext : ¬(s.write (fieldKey field)).Fits (varint text.length ++ text) := fun hfits =>
        hall ((s.fits_append _ _).mpr ⟨hkey,hfits⟩)
      obtain ⟨_,ys,_,hlt,hys⟩ := (h.string text).full _ htext
      refine ⟨fun hhonest => absurd (hhonest hok) fun heq => ?_,fun hcut => absurd ⟨hkey,hall⟩ hcut⟩
      -- fewer bytes were written than the field has
      rw [heq, hys] at hsink
      have hlen := congrArg (fun x : Sink UInt8 => x.written.length) hsink
      simp only [Sink.write, List.length_append] at hlen hlt
      omega
  · refine ⟨fun _ hcut => hkey hcut.1,fun _ hok => ?_⟩
    rw [hfull hkey] at hok
    contradiction

theorem textCut_of_none {c : CallbackField} {s : Sink UInt8} (h : c.text = none) : ¬TextCut c s := by
  rintro ⟨text,htext,_⟩
  rw [h] at htext
  contradiction

theorem textCut_of_some {c : CallbackField} {s : Sink UInt8} {text : List UInt8} (h : c.text = some text) :
    TextCut c s ↔ s.Fits (fieldKey c.field) ∧ ¬s.Fits (fieldKey c.field ++ (varint text.length ++ text)) := by
  simp [TextCut, h]

/-- The callbacks are honest but for a text that is cut. -/
theorem honestCallback_iff {pb : Nanopb} (h : pb.Documented) (heap : Heap) (c : CallbackField)
    (s : Sink UInt8) : HonestCallback pb heap c s ↔ ¬TextCut c s := by
  cases htext : c.text with
  | some text =>
    rw [textCut_of_some htext]
    obtain ⟨field,callback⟩ := c
    cases callback with
    | verboseMsg msg =>
      obtain ⟨htag,rfl⟩ : field.tag = verboseDataTag ∧ msg = text := by simpa [CallbackField.text] using htext
      rw [← honest_textEncodeCb_iff h verboseDataTag field msg s htag]
      simp [HonestCallback, CallbackField.encode, CallbackField.output, CallbackField.textOutput, htag,
        whadVerboseMsgEncodeCb]
    | debugMsg msg =>
      obtain ⟨htag,rfl⟩ : field.tag = debugDataTag ∧ msg = text := by simpa [CallbackField.text] using htext
      rw [← honest_textEncodeCb_iff h debugDataTag field msg s htag]
      simp [HonestCallback, CallbackField.encode, CallbackField.output, CallbackField.textOutput, htag,
        whadDebugMsgEncodeCb]
    | unset => simp [CallbackField.text] at htext
    | enumCapabilities capabilities => simp [CallbackField.text] at htext
    | frequencyRange arg => simp [CallbackField.text] at htext
  | none =>
    refine iff_of_true (honest_of_emits ?_ s) (textCut_of_none htext)
    obtain ⟨field,callback⟩ := c
    cases callback with
    | unset => exact Writer.emits_done
    | verboseMsg msg =>
      have htag : field.tag ≠ verboseDataTag := by simpa [CallbackField.text] using htext
      exact textEncodeCb_emits_of_ne htag msg
    | debugMsg msg =>
      have htag : field.tag ≠ debugDataTag := by simpa [CallbackField.text] using htext
      exact textEncodeCb_emits_of_ne htag msg
    | enumCapabilities capabilities => exact capabilitiesCb_emits h field capabilities
    | frequencyRange arg => exact frequencyRangeCb_emits h field (heap.rangesAt arg)

/-- Faithful sending, for every message and every state of the queue, together with honest
callbacks, for every stream: this holds but for a text callback on a stream that has room for
the tag of its field and not for the rest. -/
theorem send_faithful_iff {pb : Nanopb} (h : pb.Documented) (boardFields : BoardMessage → Fields CallbackField)
    (heap : Heap) (m : Message) (t : Transport) (c : CallbackField) (s : Sink UInt8) :
    FaithfulSend boardFields pb heap m t ∧ HonestCallback pb heap c s ↔ ¬TextCut c s := by
  rw [honestCallback_iff h]
  exact and_iff_right (faithfulSend boardFields h heap m t)

/-- A heap without lists. -/
def Heap.empty : Heap := ⟨fun _ => ⟨[],false,0⟩,fun _ => []⟩

/-- A verbose message, and its callback with room for all of its field. -/
theorem send_faithful_iff_verbose :
    let c : CallbackField := ⟨⟨verboseDataTag,.len⟩,.verboseMsg [0x68,0x69]⟩
    let m : Message := { (default : Message) with
      whichMsg := Message.genericTag
      generic := { (default : GenericMessage) with whichMsg := 5, verbose := c.callback } }
    FaithfulSend (fun _ => .nil) Nanopb.plain Heap.empty m gwTransport ∧
      HonestCallback Nanopb.plain Heap.empty c ⟨[],some 4⟩ := by
  intro c m
  refine (send_faithful_iff Nanopb.plain_documented (fun _ => .nil) Heap.empty m gwTransport c _).mpr ?_
  have htext : c.text = some [0x68,0x69] := rfl
  rw [textCut_of_some htext]
  decide

/-- The same callback with room for three bytes: it writes the tag and the length, drops the text
and reports success. -/
theorem verboseMsg_reports_success_for_cut_text :
    let c : CallbackField := ⟨⟨verboseDataTag,.len⟩,.verboseMsg [0x68,0x69]⟩
    let written := c.encode Nanopb.plain Heap.empty ⟨[],some 3⟩
    written.1 = true ∧ written.2.written = [0x0A,2] ∧ c.output Heap.empty = [0x0A,2,0x68,0x69] ∧
      ¬HonestCallback Nanopb.plain Heap.empty c ⟨[],some 3⟩ := by
  intro c written
  have hwritten : written.2.written = [0x0A,2] := by decide
  refine ⟨by decide,hwritten,by decide,fun hhonest => ?_⟩
  have hall := congrArg (fun r : Bool × Sink UInt8 => r.2.written) (hhonest (by decide))
  simp only at hall
  rw [show (c.encode Nanopb.plain Heap.empty ⟨[],some 3⟩).2.written = [0x0A,2] from hwritten] at hall
  exact absurd hall (by decide)

end WhadLib
