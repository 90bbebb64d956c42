import WhadLib.Message

/-! Encoding a message: the encode callbacks of the library, the fields of a message in the order
in which `pb_encode` walks them, and what each callback field stands for, which is what its
callback writes into a stream without limit. -/
namespace WhadLib
open Library

/-- A block of the heap that holds a list of frequency ranges. -/
structure Block where
  ranges : List FrequencyRange
  live : Bool
  released : ℕ

/-- The heap, as far as lists of frequency ranges are concerned; `leftover` is what a block reads
as once it is released. -/
structure Heap where
  block : Address → Block
  leftover : Address → List FrequencyRange

namespace Heap

def read (h : Heap) (a : Address) : List FrequencyRange := (h.block a).ranges

/-- `malloc` answered with the address `a`, and the list was stored there. -/
def store (h : Heap) (a : Address) (ranges : List FrequencyRange) : Heap :=
  { h with block := Function.update h.block a ⟨ranges,true,0⟩ }

def free (h : Heap) (a : Address) : Heap :=
  { h with block := Function.update h.block a ⟨h.leftover a,false,(h.block a).released+1⟩ }

@[simp] theorem store_block (h : Heap) (a : Address) (ranges : List FrequencyRange) :
    (h.store a ranges).block a = ⟨ranges,true,0⟩ := Function.update_self _ _ _

@[simp] theorem free_block (h : Heap) (a : Address) :
    (h.free a).block a = ⟨h.leftover a,false,(h.block a).released+1⟩ := Function.update_self _ _ _

end Heap

/-! The bytes of single fields. A singular field that holds its default is left out. -/

def uint32Field (tag : ℕ) (v : UInt32) : List UInt8 :=
  if v = 0 then [] else fieldKey ⟨tag,.varint⟩ ++ varint v.toNat

def uint64Field (tag : ℕ) (v : UInt64) : List UInt8 :=
  if v = 0 then [] else fieldKey ⟨tag,.varint⟩ ++ varint v.toNat

/-- A size beyond the capacity is refused by the runtime. -/
def bytesField {n : ℕ} (tag : ℕ) (x : BytesArray n) : Option (List UInt8) :=
  if n < x.size then none
  else if x.size = 0 then some []
  else some (fieldKey ⟨tag,.len⟩ ++ varint x.size ++ x.bytes.toList.take x.size)

def fixedBytesField {n : ℕ} (tag : ℕ) (x : Vector UInt8 n) : List UInt8 :=
  fieldKey ⟨tag,.len⟩ ++ varint n ++ x.toList

/-! The encode callbacks. -/

/-- The two text callbacks of the library. The result of `pb_encode_string` is not looked at. -/
def textEncodeCb (dataTag : ℕ) (pb : Nanopb) (field : PbField) (text : List UInt8) : Writer UInt8 := fun s =>
  if field.tag = dataTag then
    match pb.encodeTagForField field s with
    | (false, s') => (false, s')
    | (true, s') => (true, (pb.encodeString text s').2)
  else (true, s)

/-- `generic_VerboseMsg_data_tag` and `generic_DebugMsg_data_tag`. -/
def verboseDataTag : ℕ := 1
def debugDataTag : ℕ := 2

def whadVerboseMsgEncodeCb : Nanopb → PbField → List UInt8 → Writer UInt8 := textEncodeCb verboseDataTag

def whadDebugMsgEncodeCb : Nanopb → PbField → List UInt8 → Writer UInt8 := textEncodeCb debugDataTag

/-- `discovery_DeviceInfoResp_capabilities_tag`. -/
def capabilitiesTag : ℕ := 10

/-- The loop of `whad_disc_enum_capabilities_cb`, up to the first entry with a zero in it. -/
def capabilitiesLoop (pb : Nanopb) (field : PbField) : List DomainDesc → Writer UInt8
  | [] => Writer.done
  | c :: cs =>
    if c.cap ≠ 0 ∧ c.domain ≠ 0 then
      (pb.encodeTagForField field).andThen
        ((pb.encodeVarint (c.domain ||| c.cap).toNat).andThen (capabilitiesLoop pb field cs))
    else Writer.done

def whadDiscEnumCapabilitiesCb (pb : Nanopb) (field : PbField) (capabilities : List DomainDesc) :
    Writer UInt8 :=
  if field.tag = capabilitiesTag then capabilitiesLoop pb field capabilities else Writer.done

/-- `phy_SupportedFrequencyRanges_frequency_ranges_tag`. -/
def frequencyRangesTag : ℕ := 1

/-- `phy_SupportedFrequencyRanges_FrequencyRange_fields`. -/
def FrequencyRange.fields (r : FrequencyRange) : Fields CallbackField :=
  .static (some (uint32Field 1 r.start)) (.static (some (uint32Field 2 r.stop)) .nil)

def FrequencyRange.bytes (r : FrequencyRange) : List UInt8 := uint32Field 1 r.start ++ uint32Field 2 r.stop

/-- The loop of `whad_phy_frequency_range_encode_cb`; a range has no callback field. -/
def frequencyRangeLoop (pb : Nanopb) (field : PbField) : List FrequencyRange → Writer UInt8
  | [] => Writer.done
  | r :: rs =>
    if r.start ≠ 0 ∧ r.stop ≠ 0 then
      (pb.encodeTagForField field).andThen
        ((pb.encodeSubmessage (pb.encode (fun _ => Writer.done) r.fields)).andThen
          (frequencyRangeLoop pb field rs))
    else Writer.done

def whadPhyFrequencyRangeEncodeCb (pb : Nanopb) (field : PbField) (ranges : List FrequencyRange) :
    Writer UInt8 :=
  if field.tag = frequencyRangesTag then frequencyRangeLoop pb field ranges else Writer.done

/-- The list an argument points to. -/
def Heap.rangesAt (h : Heap) : Option Address → List FrequencyRange
  | some a => h.read a
  | none => []

namespace CallbackField

/-- Call the encode function of a callback field; a field without one is left out. -/
def encode (pb : Nanopb) (h : Heap) (c : CallbackField) : Writer UInt8 :=
  match c.callback with
  | .unset => Writer.done
  | .verboseMsg text => whadVerboseMsgEncodeCb pb c.field text
  | .debugMsg text => whadDebugMsgEncodeCb pb c.field text
  | .enumCapabilities capabilities => whadDiscEnumCapabilitiesCb pb c.field capabilities
  | .frequencyRange arg => whadPhyFrequencyRangeEncodeCb pb c.field (h.rangesAt arg)

/-- What the text callbacks write when there is room. -/
def textOutput (dataTag : ℕ) (field : PbField) (text : List UInt8) : List UInt8 :=
  if field.tag = dataTag then fieldKey field ++ (varint text.length ++ text) else []

def capabilitiesOutput (field : PbField) (capabilities : List DomainDesc) : List UInt8 :=
  if field.tag = capabilitiesTag then
    (capabilities.takeWhile fun c => c.cap ≠ 0 ∧ c.domain ≠ 0).flatMap fun c =>
      fieldKey field ++ varint (c.domain ||| c.cap).toNat
  else []

def frequencyRangeOutput (field : PbField) (ranges : List FrequencyRange) : List UInt8 :=
  if field.tag = frequencyRangesTag then
    (ranges.takeWhile fun r => r.start ≠ 0 ∧ r.stop ≠ 0).flatMap fun r =>
      fieldKey field ++ (varint r.bytes.length ++ r.bytes)
  else []

/-- What a callback field stands for. -/
def output (h : Heap) (c : CallbackField) : List UInt8 :=
  match c.callback with
  | .unset => []
  | .verboseMsg text => textOutput verboseDataTag c.field text
  | .debugMsg text => textOutput debugDataTag c.field text
  | .enumCapabilities capabilities => capabilitiesOutput c.field capabilities
  | .frequencyRange arg => frequencyRangeOutput c.field (h.rangesAt arg)

end CallbackField

section
variable {pb : Nanopb}

theorem capabilitiesLoop_emits (h : pb.Documented) (field : PbField) (capabilities : List DomainDesc) :
    (capabilitiesLoop pb field capabilities).Emits
      ((capabilities.takeWhile fun c => c.cap ≠ 0 ∧ c.domain ≠ 0).flatMap fun c =>
        fieldKey field ++ varint (c.domain ||| c.cap).toNat) := by
  refine Writer.emits_takeWhile (fun c : DomainDesc => c.cap ≠ 0 ∧ c.domain ≠ 0)
    (fun c rest => (pb.encodeTagForField field).andThen
      ((pb.encodeVarint (c.domain ||| c.cap).toNat).andThen rest)) rfl (fun _ _ => rfl) ?_ capabilities
  intro c rest ys hrest
  rw [List.append_assoc]
  exact (h.tag field).andThen ((h.varint _).andThen hrest)

theorem FrequencyRange.fields_encoding (r : FrequencyRange) (output : CallbackField → List UInt8) :
    r.fields.encoding output = some r.bytes := by
  simp [FrequencyRange.fields, FrequencyRange.bytes, Fields.encoding]

theorem frequencyRangeLoop_emits (h : pb.Documented) (field : PbField) (ranges : List FrequencyRange) :
    (frequencyRangeLoop pb field ranges).Emits
      ((ranges.takeWhile fun r => r.start ≠ 0 ∧ r.stop ≠ 0).flatMap fun r =>
        fieldKey field ++ (varint r.bytes.length ++ r.bytes)) := by
  refine Writer.emits_takeWhile (fun r : FrequencyRange => r.start ≠ 0 ∧ r.stop ≠ 0)
    (fun r rest => (pb.encodeTagForField field).andThen
      ((pb.encodeSubmessage (pb.encode (fun _ => Writer.done) r.fields)).andThen rest)) rfl (fun _ _ => rfl) ?_ ranges
  intro r rest ys hrest
  have hbody : (pb.encode (fun _ => Writer.done) r.fields).Completes r.bytes :=
    h.encode_completes (fun _ => Writer.emits_done.completes) (r.fields_encoding fun _ => [])
  rw [List.append_assoc, h.submessage]
  exact (h.tag field).andThen ((Writer.emits_measured hbody (h.varint _)).andThen hrest)

/-- A text callback writes its field where there is room, and otherwise reports a failure only
when not even the tag fits. -/
theorem textEncodeCb_of_tag (h : pb.Documented) (dataTag : ℕ) (field : PbField) (text : List UInt8)
    (s : Sink UInt8) (htag : field.tag = dataTag) :
    (s.Fits (fieldKey field) → (textEncodeCb dataTag pb field text s).1 = true ∧
        (textEncodeCb dataTag pb field text s).2 = (pb.encodeString text (s.write (fieldKey field))).2) ∧
      (¬s.Fits (fieldKey field) → (textEncodeCb dataTag pb field text s).1 = false) := by
  constructor
  · intro hfits
    simp only [textEncodeCb, htag, if_true]
    rw [(h.tag field).completes s hfits]
    simp
  · intro hfull
    have hfail := ((h.tag field).full s hfull).1
    cases hres : pb.encodeTagForField field s with
    | mk ok s' =>
      rw [hres] at hfail
      simp only at hfail
      subst hfail
      simp [textEncodeCb, htag, hres]

theorem textEncodeCb_completes (h : pb.Documented) (dataTag : ℕ) (field : PbField) (text : List UInt8) :
    (textEncodeCb dataTag pb field text).Completes (CallbackField.textOutput dataTag field text) := by
  intro s hs
  by_cases htag : field.tag = dataTag
  · rw [CallbackField.textOutput, if_pos htag] at hs ⊢
    obtain ⟨hkey,htext⟩ := (s.fits_append _ _).mp hs
    obtain ⟨hok,hsink⟩ := (textEncodeCb_of_tag h dataTag field text s htag).1 hkey
    rw [(h.string text).completes _ htext, Sink.write_write] at hsink
    exact Prod.ext hok hsink
  · simp [textEncodeCb, CallbackField.textOutput, htag]

/-- For a field that is not its own, a text callback writes nothing. -/
theorem textEncodeCb_emits_of_ne {dataTag : ℕ} {field : PbField} (htag : field.tag ≠ dataTag)
    (text : List UInt8) :
    (textEncodeCb dataTag pb field text).Emits (CallbackField.textOutput dataTag field text) := by
  have hdone : textEncodeCb dataTag pb field text = Writer.done := by
    funext s
    simp [textEncodeCb, htag, Writer.done]
  rw [hdone, CallbackField.textOutput, if_neg htag]
  exact Writer.emits_done

theorem capabilitiesCb_emits (h : pb.Documented) (field : PbField) (capabilities : List DomainDesc) :
    (whadDiscEnumCapabilitiesCb pb field capabilities).Emits
      (CallbackField.capabilitiesOutput field capabilities) := by
  unfold whadDiscEnumCapabilitiesCb CallbackField.capabilitiesOutput
  split
  · exact capabilitiesLoop_emits h field capabilities
  · exact Writer.emits_done

theorem frequencyRangeCb_emits (h : pb.Documented) (field : PbField) (ranges : List FrequencyRange) :
    (whadPhyFrequencyRangeEncodeCb pb field ranges).Emits
      (CallbackField.frequencyRangeOutput field ranges) := by
  unfold whadPhyFrequencyRangeEncodeCb CallbackField.frequencyRangeOutput
  split
  · exact frequencyRangeLoop_emits h field ranges
  · exact Writer.emits_done

namespace CallbackField

/-- Every callback of the library writes its field wherever there is room for it. -/
theorem encode_completes (h : pb.Documented) (heap : Heap) (c : CallbackField) :
    (c.encode pb heap).Completes (c.output heap) := by
  obtain ⟨field,callback⟩ := c
  cases callback with
  | unset => exact Writer.emits_done.completes
  | verboseMsg text => exact textEncodeCb_completes h verboseDataTag field text
  | debugMsg text => exact textEncodeCb_completes h debugDataTag field text
  | enumCapabilities capabilities => exact (capabilitiesCb_emits h field capabilities).completes
  | frequencyRange arg => exact (frequencyRangeCb_emits h field (heap.rangesAt arg)).completes

end CallbackField
end

/-! The fields of a message. -/

def GenericMessage.fields (g : GenericMessage) : Fields CallbackField :=
  match g.whichMsg with
  | 1 => .static (some (fieldKey ⟨1,.varint⟩ ++ varint g.result.toNat)) .nil
  | 2 => .submessage ⟨2,.len⟩ (.static (some (uint32Field 1 g.cmdResult)) .nil) .nil
  | 3 => .submessage ⟨3,.len⟩ (.static (some (uint32Field 1 g.progress)) .nil) .nil
  | 4 => .submessage ⟨4,.len⟩ (.static (some (uint32Field 1 g.debug.level))
      (.callback ⟨⟨debugDataTag,.len⟩,g.debug.data⟩ .nil)) .nil
  | 5 => .submessage ⟨5,.len⟩ (.callback ⟨⟨verboseDataTag,.len⟩,g.verbose⟩ .nil) .nil
  | _ => .nil

def DeviceInfoResp.fields (r : DeviceInfoResp) : Fields CallbackField :=
  .static (some (uint32Field 1 r.type)) <| .static (some (fixedBytesField 2 r.devid)) <|
  .static (some (uint32Field 3 r.protoMinVer)) <| .static (some (uint32Field 4 r.maxSpeed)) <|
  .static (bytesField 5 r.fwAuthor) <| .static (bytesField 6 r.fwUrl) <|
  .static (some (uint32Field 7 r.fwVersionMajor)) <| .static (some (uint32Field 8 r.fwVersionMinor)) <|
  .static (some (uint32Field 9 r.fwVersionRev)) <|
  .callback ⟨⟨capabilitiesTag,.varint⟩,r.capabilities⟩ .nil

def DiscoveryMessage.fields (d : DiscoveryMessage) : Fields CallbackField :=
  match d.whichMsg with
  | 1 => .submessage ⟨1,.len⟩ .nil .nil
  | 2 => .submessage ⟨2,.len⟩ .nil .nil
  | 3 => .submessage ⟨3,.len⟩ (.static (some (uint32Field 1 d.infoQuery)) .nil) .nil
  | 4 => .submessage ⟨4,.len⟩ d.infoResp.fields .nil
  | 5 => .submessage ⟨5,.len⟩ (.static (some (uint32Field 1 d.domainQuery)) .nil) .nil
  | 6 => .submessage ⟨6,.len⟩ (.static (some (uint32Field 1 d.domainResp.domain))
      (.static (some (uint64Field 2 d.domainResp.supportedCommands)) .nil)) .nil
  | 7 => .submessage ⟨7,.len⟩ (.static (some (uint32Field 1 d.setSpeed)) .nil) .nil
  | _ => .nil

/-- `phy_Message_supported_freq_tag`. -/
def PhyMessage.supportedFreqTag : ℕ := 26

def PhyMessage.fields (p : PhyMessage) : Fields CallbackField :=
  if p.whichMsg = PhyMessage.supportedFreqTag then
    .submessage ⟨PhyMessage.supportedFreqTag,.len⟩
      (.callback ⟨⟨frequencyRangesTag,.len⟩,p.supportedFreq⟩ .nil) .nil
  else p.other p.whichMsg

/-- The field list of `board_Message` is a parameter: it has no callback. -/
def Message.fields (boardFields : BoardMessage → Fields CallbackField) (m : Message) : Fields CallbackField :=
  match m.whichMsg with
  | 1 => .submessage ⟨Message.genericTag,.len⟩ m.generic.fields .nil
  | 2 => .submessage ⟨Message.discoveryTag,.len⟩ m.discovery.fields .nil
  | 3 => .submessage ⟨Message.bleTag,.len⟩ m.ble .nil
  | 4 => .submessage ⟨Message.dot15d4Tag,.len⟩ m.dot15d4 .nil
  | 5 => .submessage ⟨Message.esbTag,.len⟩ m.esb .nil
  | 6 => .submessage ⟨Message.unifyingTag,.len⟩ m.unifying .nil
  | 7 => .submessage ⟨Message.phyTag,.len⟩ m.phy.fields .nil
  | 8 => .submessage ⟨Message.boardTag,.len⟩ (boardFields m.board) .nil
  | _ => .nil

/-- The complete protobuf encoding of a message; `none` when the runtime refuses one of its
values. -/
def Message.encoding (boardFields : BoardMessage → Fields CallbackField) (h : Heap) (m : Message) :
    Option (List UInt8) :=
  (m.fields boardFields).encoding fun c => c.output h

end WhadLib
