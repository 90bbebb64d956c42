import WhadLib.Ble.SequenceRoundTrip
import WhadLib.SizedFields
import WhadLib.Send

/-! The size of a prepared sequence on the wire. Every packet is checked alone, so that together they may be
more than the transmit buffer takes. -/
namespace WhadLib.Ble
open Library SizedFields

/- A builder is compared with its member and its body, not with what setting both comes to. -/
attribute [local irreducible] FullMessage.build

/-! The field lists, from the generated header. -/

def PendingPacket.fieldlist (p : PendingPacket) : SizedFields := .bytes 1 p.packet .nil

def ReceptionTrigger.fieldlist (p : ReceptionTrigger) : SizedFields :=
  .bytes 1 p.pattern <| .bytes 2 p.mask <| .uint32 3 p.offset .nil

def ConnectionEventTrigger.fieldlist (p : ConnectionEventTrigger) : SizedFields := .uint32 1 p.connectionEvent .nil

def Trigger.fieldlist (p : Trigger) : SizedFields :=
  match p.whichTrigger with
  | 1 => .message Trigger.receptionTag true p.reception.fieldlist .nil
  | 2 => .message Trigger.connectionEventTag true p.connectionEvent.fieldlist .nil
  | 3 => .message Trigger.manualTag true .nil .nil
  | _ => .nil

theorem packet_limit (packet : PendingPacket) (rest : SizedFields) :
    (message 4 true packet.fieldlist rest).limit = 261 + rest.limit := by
  have hpacket : packet.fieldlist.limit = 258 := by
    simp only [PendingPacket.fieldlist, bytes, static, nil]
    decide +kernel
  have hkey : keySize 4 .len = 1 := by decide
  have hlength : (varint 258).length = 2 := by decide +kernel
  simp only [message, hpacket, hkey, hlength]

def PrepareSequenceCmd.fieldlist (p : PrepareSequenceCmd) : SizedFields :=
  .message 1 p.trigger.has p.trigger.value.fieldlist <| .uint32 2 p.id <| .enum 3 p.direction <|
  .repeated p.sequence (fun packet => .message 4 true packet.fieldlist) 261 packet_limit .nil

/-- A message with a sequence, as `pb_encode` walks it. -/
def sequenceMessage (p : PrepareSequenceCmd) : Message :=
  { (default : Message) with
    whichMsg := Message.bleTag
    ble := .submessage ⟨BleKind.prepare.tag,.len⟩ p.fieldlist.fields .nil }

/-! Its size. -/

/-- The bytes of the trigger. -/
def SequenceTrigger.size : SequenceTrigger → ℕ
  | .manual => delimited Trigger.manualTag 0
  | .connEvt connectionEvent => delimited Trigger.connectionEventTag (uint32Field 1 connectionEvent).length

/-- The bytes of a packet of a given length: it is wrapped twice. -/
def packetSize (n : ℕ) : ℕ := delimited 4 (if n = 0 then 0 else delimited 1 n)

/-- The bytes of a message with packets of the given lengths. -/
def encodedSize (t : SequenceTrigger) (id : UInt32) (direction : EnumField BleDirection) (lengths : List ℕ) : ℕ :=
  delimited Message.bleTag <| delimited BleKind.prepare.tag <|
    delimited 1 t.size + ((uint32Field 2 id).length + ((enumField 3 direction).length + (lengths.map packetSize).sum))

/-- Packets of these lengths fit in the array, and their message in the transmit buffer. -/
structure LengthsFit (t : SequenceTrigger) (id : UInt32) (direction : EnumField BleDirection) (lengths : List ℕ) :
    Prop where
  count : lengths.length ≤ 25
  packets : ∀ n ∈ lengths, n ≤ 255
  encoded : encodedSize t id direction lengths ≤ maxEncodedMessageSize

/-- The lengths of the packets of a sequence. -/
def lengthsOf (x : RepeatedField PendingPacket 25) : List ℕ :=
  (List.range x.count).map fun i => if h : i < 25 then (x.items.get ⟨i,h⟩).packet.size else 0

/-- A call is defined, and it is refused or leaves a sequence within the array whose message can be sent. -/
def SequenceSendable (pb : Nanopb) (boardFields : BoardMessage → Fields CallbackField) (outcome : Outcome) : Prop :=
  ∃ result message, outcome = some (result,message) ∧ (result = .success → ∃ m', message = some m' ∧
    m'.Holds (.ble .prepare) ∧ (PrepareSequenceCmd.sequence (m'.msg (.ble .prepare))).count ≤ 25 ∧
    ∀ (heap : Heap) (t : Transport), let sent := sequenceMessage (m'.msg (.ble .prepare))
      (∃ bytes, sent.encoding boardFields heap = some bytes ∧ bytes.length ≤ maxEncodedMessageSize) ∧
        (t.txBuf.toList = [] → (whadSendMessage pb boardFields heap sent t).result = .success))

/-- The lengths that a call leaves in the message: without a packet to copy they are those that it had. -/
def storedLengths (p : PrepareSequenceCmd) (array : ℕ → PreparedPacket) (pktCount : ℤ) : List ℕ :=
  if 0 < pktCount then (List.range pktCount.toNat).map fun i => (array i).length.toNat
  else lengthsOf { p.sequence with count := sizeOf16 pktCount }

/-- The call is refused, or the lengths that it stores fit. -/
def SequenceFits (t : SequenceTrigger) (message : Option FullMessage) (id : UInt32)
    (direction : EnumField BleDirection) (pPackets : Option (ℕ → PreparedPacket)) (pktCount : ℤ) : Prop :=
  ∀ m ∈ message, ∀ array ∈ pPackets, Refused array 0 pktCount.toNat ∨
    LengthsFit t id direction (storedLengths (m.msg (.ble .prepare)) array pktCount)

section
variable {t : SequenceTrigger} {id : UInt32} {direction : EnumField BleDirection} {p : PrepareSequenceCmd}
  {x : RepeatedField PendingPacket 25} {pb : Nanopb} {boardFields : BoardMessage → Fields CallbackField}

theorem lengthsOf_eq (hcount : x.count ≤ 25) :
    lengthsOf x = (x.items.toList.take x.count).map fun packet => packet.packet.size := by
  apply List.ext_getElem
  · simp [lengthsOf, hcount]
  · intro i h₁ h₂
    have hi : i < 25 := by
      simp only [lengthsOf, List.length_map, List.length_range] at h₁
      omega
    simp [lengthsOf, hi, Vector.get]

theorem takes_trigger (t : SequenceTrigger) (id : UInt32) (direction : EnumField BleDirection)
    (p : PrepareSequenceCmd) : (t.head id direction p).trigger.value.fieldlist.Takes t.size := by
  cases t with
  | manual => exact takes_message takes_nil takes_nil
  | connEvt connectionEvent => exact takes_message (takes_uint32 _ takes_nil) takes_nil

theorem takes_packet {packet : PendingPacket} {rest : SizedFields} {k : ℕ} (h : packet.packet.size ≤ 255)
    (hrest : rest.Takes k) :
    (message 4 true packet.fieldlist rest).Takes (packetSize packet.packet.size + k) :=
  takes_message (takes_bytes h takes_nil) hrest

theorem takes_packets (hcount : x.count ≤ 25) (hlengths : ∀ n ∈ lengthsOf x, n ≤ 255) :
    (repeated x (fun packet => message 4 true packet.fieldlist) 261 packet_limit nil).Takes
      ((lengthsOf x).map packetSize).sum := by
  rw [lengthsOf_eq hcount] at hlengths ⊢
  rw [List.map_map]
  have hone (packet : PendingPacket) (hpacket : packet ∈ x.items.toList.take x.count) {rest : SizedFields} {k : ℕ}
      (hrest : rest.Takes k) :
      (message 4 true packet.fieldlist rest).Takes (packetSize packet.packet.size + k) :=
    takes_packet (hlengths _ (List.mem_map_of_mem hpacket)) hrest
  exact takes_repeated hcount hone takes_nil

theorem takes_delimited {tag n : ℕ} {body : SizedFields} (h : body.Takes n) :
    (message tag true body nil).Takes (delimited tag n) := takes_message h takes_nil

/-- The size of what a call with accepted packets encodes to. -/
theorem takes_sequence (hcount : x.count ≤ 25) (hlengths : ∀ n ∈ lengthsOf x, n ≤ 255) :
    (message Message.bleTag true (message BleKind.prepare.tag true
      (PrepareSequenceCmd.fieldlist { t.head id direction p with sequence := x }) nil) nil).Takes
        (encodedSize t id direction (lengthsOf x)) := by
  have hpackets := takes_packets hcount hlengths
  have hbehind : (uint32 2 id (enum 3 direction
      (repeated x (fun packet => message 4 true packet.fieldlist) 261 packet_limit nil))).Takes _ :=
    takes_uint32 id (takes_enum direction hpackets)
  have hfields : (message 1 true (t.head id direction p).trigger.value.fieldlist _).Takes _ :=
    takes_message (takes_trigger t id direction p) hbehind
  exact takes_delimited (takes_delimited hfields)

/-- A sequence that was encoded is within its array, and so are its packets. -/
theorem encoding_sequence {output : CallbackField → List UInt8} {encoded : List UInt8}
    (h : (message Message.bleTag true (message BleKind.prepare.tag true
      (PrepareSequenceCmd.fieldlist { t.head id direction p with sequence := x }) nil) nil).fields.encoding output =
        some encoded) : x.count ≤ 25 ∧ ∀ n ∈ lengthsOf x, n ≤ 255 := by
  obtain ⟨⟨_,hmessage⟩,-⟩ := encoding_message h
  obtain ⟨⟨_,hsequence⟩,-⟩ := encoding_message hmessage
  obtain ⟨-,_,hid⟩ := encoding_message hsequence
  obtain ⟨-,_,hdirection⟩ := encoding_static hid
  obtain ⟨-,_,hpackets⟩ := encoding_static hdirection
  have hone (packet : PendingPacket) (r : SizedFields) (encoded : List UInt8)
      (hpacket : (message 4 true packet.fieldlist r).fields.encoding output = some encoded) :
      packet.packet.size ≤ 255 ∧ ∃ b, r.fields.encoding output = some b := by
    obtain ⟨⟨_,hbytes⟩,hrest⟩ := encoding_message hpacket
    exact ⟨encoding_bytes hbytes,hrest⟩
  obtain ⟨hcount,hall⟩ := encoding_repeated hone hpackets
  refine ⟨hcount,?_⟩
  rw [lengthsOf_eq hcount]
  exact List.forall_mem_map.mpr hall

/-- A sequence can be encoded into the transmit buffer where its lengths fit. -/
theorem encoding_fits_iff (heap : Heap) :
    let sent := sequenceMessage { t.head id direction p with sequence := x }
    (∃ bytes, sent.encoding boardFields heap = some bytes ∧ bytes.length ≤ maxEncodedMessageSize) ↔
      LengthsFit t id direction (lengthsOf x) := by
  have hlength : (lengthsOf x).length = x.count := by rw [lengthsOf, List.length_map, List.length_range]
  constructor
  · rintro ⟨bytes,hbytes,hle⟩
    obtain ⟨hcount,hlengths⟩ := encoding_sequence hbytes
    refine ⟨hlength.trans_le hcount,hlengths,?_⟩
    exact ((takes_sequence hcount hlengths).length_le_iff _).mp ⟨bytes,hbytes,hle⟩
  · rintro ⟨hcount,hlengths,hencoded⟩
    exact ((takes_sequence (hlength.symm.trans_le hcount) hlengths).length_le_iff _).mpr hencoded

/-- A message that fits is sent when the queue is empty. -/
theorem send_of_encoding (hpb : pb.Documented) {heap : Heap} {transport : Transport}
    (h : ∃ bytes, (sequenceMessage p).encoding boardFields heap = some bytes ∧ bytes.length ≤ maxEncodedMessageSize)
    (hempty : transport.txBuf.toList = []) :
    (whadSendMessage pb boardFields heap (sequenceMessage p) transport).result = .success := by
  obtain ⟨bytes,hbytes,hle⟩ := h
  refine whadSendMessage_of_empty boardFields hpb heap _ transport hbytes ?_ hle hempty
  have hsubmessage : (Fields.submessage ⟨Message.bleTag,.len⟩ _ .nil).encoding _ = some bytes := hbytes
  exact Fields.encoding_submessage_ne_nil hsubmessage

variable {m : FullMessage} {array : ℕ → PreparedPacket} {pktCount : ℤ}

/-- What is left by a call that succeeds decides whether it can be sent. -/
theorem sequenceSendable_of_build (hpb : pb.Documented)
    (h : whadBleSequenceCopyPackets (some array) pktCount (t.head id direction (m.msg (.ble .prepare))) =
      some (.success, { t.head id direction p with sequence := x })) :
    SequenceSendable pb boardFields (t.build (some m) id direction (some array) pktCount) ↔
      LengthsFit t id direction (lengthsOf x) := by
  have hbuilt : t.build (some m) id direction (some array) pktCount = some (.success, some (m.put (.ble .prepare)
      { t.head id direction p with sequence := x })) := by
    rw [SequenceTrigger.build_eq]
    exact build_success h
  constructor
  · rintro ⟨result,message,houtcome,hsuccess⟩
    obtain ⟨rfl,rfl⟩ := Prod.mk.inj (Option.some.inj (hbuilt.symm.trans houtcome))
    obtain ⟨m',hm',-,-,hsend⟩ := hsuccess rfl
    obtain rfl := Option.some.inj hm'
    have hencoding := (hsend Heap.empty gwTransport).1
    rw [FullMessage.put_msg_self] at hencoding
    exact (encoding_fits_iff Heap.empty).mp hencoding
  · intro hfits
    refine ⟨_,_,hbuilt,fun _ => ⟨_,rfl,FullMessage.put_holds _ _ _,?_,fun heap transport => ?_⟩⟩
    · rw [FullMessage.put_msg_self]
      have hcount := hfits.count
      rwa [lengthsOf, List.length_map, List.length_range] at hcount
    · rw [FullMessage.put_msg_self]
      let sent := sequenceMessage { t.head id direction p with sequence := x }
      have hencoding : ∃ bytes, sent.encoding boardFields heap = some bytes ∧ bytes.length ≤ maxEncodedMessageSize :=
        (encoding_fits_iff heap).mpr hfits
      exact ⟨hencoding,send_of_encoding hpb hencoding⟩

/-- A call with accepted packets leaves them in the message. -/
theorem sequenceSendable_of_accepted (hpb : pb.Documented) (hpos : 0 < pktCount)
    (haccepted : Accepted array 0 pktCount.toNat) :
    SequenceSendable pb boardFields (t.build (some m) id direction (some array) pktCount) ↔
      LengthsFit t id direction (storedLengths (m.msg (.ble .prepare)) array pktCount) := by
  let p : PrepareSequenceCmd := m.msg (.ble .prepare)
  obtain ⟨items,hcopied,hitems⟩ := exists_sequenceCopyPackets (t.head id direction p) haccepted
  rw [Int.toNat_of_nonneg hpos.le] at hcopied
  rw [sequenceSendable_of_build hpb hcopied, storedLengths, if_pos hpos]
  have hcount : pktCount.toNat ≤ 25 := by
    have hplace := haccepted.1
    omega
  have hlengths : lengthsOf ⟨pktCount.toNat,items⟩ =
      (List.range pktCount.toNat).map fun i => (array i).length.toNat := by
    refine List.map_congr_left fun i hi => ?_
    have hlt : i < pktCount.toNat := List.mem_range.mp hi
    obtain ⟨-,hmax⟩ := haccepted.2 i (Nat.zero_le i) (by omega)
    have hnat : ((array i).length.toNat : ℤ) = (array i).length :=
      Int.toNat_of_nonneg (haccepted.2 i (Nat.zero_le i) (by omega)).1.le
    have hfill := hitems i (by omega) hlt
    rw [← hnat] at hfill
    rw [dif_pos (show i < 25 by omega)]
    exact (fill_sameBytes hfill (by decide)).1.size
  rw [hlengths]

/-- There is nothing to send after an error. -/
theorem sequenceSendable_of_error {outcome : Outcome} {message : Option FullMessage}
    (h : outcome = some (.error, message)) : SequenceSendable pb boardFields outcome :=
  ⟨.error,message,h,fun hsuccess => absurd hsuccess (by decide)⟩

/-- A packet that is refused fails the call. -/
theorem sequenceSendable_of_refused (hpos : 0 < pktCount) (hrefused : Refused array 0 pktCount.toNat) :
    SequenceSendable pb boardFields (t.build (some m) id direction (some array) pktCount) := by
  let p : PrepareSequenceCmd := t.head id direction (m.msg (.ble .prepare))
  obtain ⟨items,hitems⟩ := (copyPacketsFrom_error_iff (v := p.sequence.items)).mpr hrefused
  have hbody : whadBleSequenceCopyPackets (some array) pktCount p =
      some (.error, { p with sequence := ⟨sizeOf16 pktCount,items⟩ }) := by
    rw [whadBleSequenceCopyPackets_of_pos hpos, hitems]
    rfl
  have hbuilt : t.build (some m) id direction (some array) pktCount = some (.error, some (m.put (.ble .prepare)
      { p with sequence := ⟨sizeOf16 pktCount,items⟩ })) := by
    rw [SequenceTrigger.build_eq]
    exact FullMessage.build_eq_some_iff.mpr ⟨_,hbody,rfl⟩
  exact sequenceSendable_of_error hbuilt

/-- Packets that are neither accepted nor refused run over the array. -/
theorem accepted_or_refused_of_sendable (hpos : 0 < pktCount)
    (h : SequenceSendable pb boardFields (t.build (some m) id direction (some array) pktCount)) :
    Accepted array 0 pktCount.toNat ∨ Refused array 0 pktCount.toNat := by
  obtain ⟨result,message,hbuilt,-⟩ := h
  rw [SequenceTrigger.build_eq] at hbuilt
  obtain ⟨q,hq,-⟩ := FullMessage.build_eq_some_iff.mp hbuilt
  rw [whadBleSequenceCopyPackets_of_pos hpos] at hq
  obtain ⟨⟨copied,items⟩,hitems,-⟩ := Option.map_eq_some_iff.mp hq
  exact accepted_or_refused_of_copied hitems

/-- A call with packets is refused, or leaves a message that can be sent, where the lengths that it stores fit. -/
theorem sequenceSendable_iff (hpb : pb.Documented) :
    SequenceSendable pb boardFields (t.build (some m) id direction (some array) pktCount) ↔
      Refused array 0 pktCount.toNat ∨
        LengthsFit t id direction (storedLengths (m.msg (.ble .prepare)) array pktCount) := by
  let p : PrepareSequenceCmd := m.msg (.ble .prepare)
  by_cases hpos : 0 < pktCount
  · by_cases hrefused : Refused array 0 pktCount.toNat
    · exact iff_of_true (sequenceSendable_of_refused hpos hrefused) (.inl hrefused)
    · rw [or_iff_right hrefused]
      by_cases haccepted : Accepted array 0 pktCount.toNat
      · exact sequenceSendable_of_accepted hpb hpos haccepted
      · have hnot : ¬(Accepted array 0 pktCount.toNat ∨ Refused array 0 pktCount.toNat) :=
          not_or.mpr ⟨haccepted,hrefused⟩
        refine iff_of_false (fun h => hnot (accepted_or_refused_of_sendable hpos h)) fun hlengths => ?_
        have hcount := hlengths.count
        rw [storedLengths, if_pos hpos, List.length_map, List.length_range] at hcount
        exact hnot (accepted_or_refused (by omega))
  · have hcopied : whadBleSequenceCopyPackets (some array) pktCount (t.head id direction p) =
        done { t.head id direction p with sequence := { p.sequence with count := sizeOf16 pktCount } } :=
      whadBleSequenceCopyPackets_of_nonpos (not_lt.mp hpos)
    have hnot : ¬Refused array 0 pktCount.toNat := by
      rintro ⟨j,-,hj,-⟩
      omega
    rw [or_iff_right hnot, storedLengths, if_neg hpos]
    exact sequenceSendable_of_build hpb hcopied

/-- A pointer that is missing fails the call. -/
theorem SequenceTrigger.build_null {message : Option FullMessage} {pPackets : Option (ℕ → PreparedPacket)}
    (h : message = none ∨ pPackets = none) :
    t.build message id direction pPackets pktCount = some (.error, message) := by
  rcases h with rfl | rfl
  · cases t with
    | manual => rfl
    | connEvt connectionEvent => rfl
  · cases t with
    | manual => cases message <;> rfl
    | connEvt connectionEvent => cases message <;> rfl

/-- Whatever the call is given, what it leaves can be sent where the lengths that it stores fit. -/
theorem prepareSequence_sendable_iff (hpb : pb.Documented) (boardFields : BoardMessage → Fields CallbackField)
    (t : SequenceTrigger) (message : Option FullMessage) (id : UInt32) (direction : EnumField BleDirection)
    (pPackets : Option (ℕ → PreparedPacket)) (pktCount : ℤ) :
    SequenceSendable pb boardFields (t.build message id direction pPackets pktCount) ↔
      SequenceFits t message id direction pPackets pktCount := by
  cases message with
  | none =>
    exact iff_of_true (sequenceSendable_of_error (t.build_null (.inl rfl))) fun m hm =>
      absurd hm (Option.not_mem_none m)
  | some m =>
    cases pPackets with
    | none =>
      exact iff_of_true (sequenceSendable_of_error (t.build_null (.inr rfl))) fun _ _ array harray =>
        absurd harray (Option.not_mem_none array)
    | some array =>
      refine (sequenceSendable_iff hpb).trans ?_
      constructor
      · rintro h _ ⟨⟩ _ ⟨⟩
        exact h
      · intro h
        exact h m rfl array rfl

/-- One packet of three bytes. -/
theorem prepareSequence_sendable_one :
    SequenceSendable Nanopb.plain (fun _ => .nil)
      (SequenceTrigger.manual.build (some default) 1 ⟨1⟩ (some fun _ => ⟨fun _ => 0,3⟩) 1) := by
  refine (prepareSequence_sendable_iff Nanopb.plain_documented (fun _ => .nil) .manual (some default) 1 ⟨1⟩
    (some fun _ => ⟨fun _ => 0,3⟩) 1).mpr ?_
  rintro _ ⟨⟩ _ ⟨⟩
  exact .inr ⟨by decide,by decide,by decide +kernel⟩

/-- Four packets of 255 bytes. -/
theorem not_prepareSequence_sendable : ¬SequenceSendable Nanopb.plain (fun _ => .nil)
    (SequenceTrigger.manual.build (some default) 1 ⟨1⟩ (some fun _ => ⟨fun _ => 0,255⟩) 4) := by
  rw [sequenceSendable_iff Nanopb.plain_documented]
  rintro (⟨j,-,-,-,hfits,-⟩ | hlengths)
  · exact hfits ⟨show (0 : ℤ) < 255 by decide,le_refl (255 : ℤ)⟩
  · exact absurd hlengths.encoded (by decide +kernel)

end
end WhadLib.Ble
