import WhadLib.Ble.Sequence
import WhadLib.Ble.Faithful
import WhadLib.RoundTrip

/-! Prepared sequences: what is read back of a list of packets, by the parsers and by the wrapper classes. -/
namespace WhadLib.Ble
open Library Cpp Wrapper

/- A builder is compared with its member and its body, not with what setting both comes to. -/
attribute [local irreducible] FullMessage.build

/-- An array that starts with the packets of a list. -/
def Lists (array : ℕ → PreparedPacket) (packets : List (Packet 255)) : Prop :=
  ∀ i (hi : i < packets.length),
    SameBytes packets[i].getBytes packets[i].bytes.length (array i).pBytes (array i).length

section
variable {array : ℕ → PreparedPacket} {packets : List (Packet 255)} {n : ℕ}

/-- The array that `pack()` makes of a list. -/
theorem lists_buildPacketsArray (h : buildPacketsArray packets = some array) : Lists array packets := by
  intro i hi
  rw [buildPacketsArray, if_pos (by omega)] at h
  obtain rfl := Option.some.inj h
  have hget : packets.getD i .empty = packets[i] := by simp [hi]
  dsimp only
  rw [hget]
  exact sameBytes_refl _ _

/-- Each packet has a length that the loop accepts. -/
theorem Lists.accepted (h : Lists array packets) (hcount : packets.length ≤ 25)
    (hpos : ∀ packet ∈ packets, 0 < packet.bytes.length) : Accepted array 0 packets.length := by
  refine ⟨.inr (by omega),fun j _ hj => ?_⟩
  have hlt : j < packets.length := by omega
  have hlength := (h j hlt).count
  have hbounded := packets[j].bounded
  have hnonempty := hpos _ (List.getElem_mem hlt)
  exact ⟨by omega,by omega⟩

/-- What the loop leaves in the message when it accepts every packet. -/
theorem exists_sequenceCopyPackets (p : PrepareSequenceCmd) (h : Accepted array 0 n) :
    ∃ items, whadBleSequenceCopyPackets (some array) n p = some (.success, { p with sequence := ⟨n,items⟩ }) ∧
      ∀ j (hj : j < 25), j < n →
        p.sequence.items[j].packet.fill (array j).pBytes (array j).length = some items[j].packet := by
  have hn : n ≤ 25 := by
    have := h.1
    omega
  have hsize : sizeOf16 (n : ℤ) = n := by
    rw [sizeOf16_of_lt (by omega) (by omega), Int.toNat_natCast]
  by_cases hpos : 0 < n
  · obtain ⟨items,hitems⟩ := exists_copyPacketsFrom (v := p.sequence.items) h
    refine ⟨items,?_,fun j hj hlt => ?_⟩
    · rw [whadBleSequenceCopyPackets_of_pos (by omega), Int.toNat_natCast, hitems, hsize]
      rfl
    · have hget := (copyPacketsFrom_success hitems).2 j hj
      rwa [if_pos (by omega)] at hget
  · refine ⟨p.sequence.items,?_,fun j _ hlt => absurd hlt (by omega)⟩
    rw [whadBleSequenceCopyPackets_of_nonpos (by omega), hsize]
    rfl

end

/-- What starts a sequence: the calls with a list of packets that can be built. -/
inductive SequenceTrigger
  | manual
  | connEvt (connectionEvent : UInt32)

namespace SequenceTrigger

def build (t : SequenceTrigger) (message : Option FullMessage) (id : UInt32) (direction : EnumField BleDirection)
    (pPackets : Option (ℕ → PreparedPacket)) (pktCount : ℤ) : Outcome :=
  match t with
  | .manual => whadBlePrepareSequenceManual message id direction pPackets pktCount
  | .connEvt connectionEvent => whadBlePrepareSequenceConnEvt message connectionEvent id direction pPackets pktCount

def parser : SequenceTrigger → Option FullMessage → Option BlePrepseqParams → Parsed BlePrepseqParams
  | .manual => whadBlePrepareSequenceManualParse
  | .connEvt _ => whadBlePrepareSequenceConnEvtParse

def type : SequenceTrigger → BleTrigger
  | .manual => .manual
  | .connEvt _ => .connEvt

/-- The packets of the object that is constructed from a message. -/
def constructed (t : SequenceTrigger) (m : FullMessage) (memory : BlePrepseqParams) : Option (List (Packet 255)) :=
  match t with
  | .manual => (Wrapper.prepareSequenceManual.construct m memory).map fun c => PrepareSequence.packets c.2
  | .connEvt _ => (Wrapper.prepareSequenceConnEvt.construct m memory).map fun c =>
      PrepareSequence.packets (PrepareSequenceConnEvt.toPrepareSequence c.2)

/-- The message that an object makes of the one that it has. -/
def packedMessage (t : SequenceTrigger) (m : FullMessage) (id : UInt32) (direction : EnumField BleDirection)
    (packets : List (Packet 255)) : Option FullMessage :=
  match t with
  | .manual => Wrapper.prepareSequenceManual.pack m (⟨id,direction,packets⟩ : PrepareSequence)
  | .connEvt connectionEvent =>
    Wrapper.prepareSequenceConnEvt.pack m (⟨⟨id,direction,packets⟩,connectionEvent⟩ : PrepareSequenceConnEvt)

/-- The tag that the builder sets. -/
def tag : SequenceTrigger → ℕ
  | .manual => Trigger.manualTag
  | .connEvt _ => Trigger.connectionEventTag

/-- What the builder stores before it copies the packets. -/
def head (t : SequenceTrigger) (id : UInt32) (direction : EnumField BleDirection) (p : PrepareSequenceCmd) :
    PrepareSequenceCmd :=
  let trigger : Trigger := match t with
    | .manual => { p.trigger.value with whichTrigger := Trigger.manualTag }
    | .connEvt connectionEvent => { p.trigger.value with
        whichTrigger := Trigger.connectionEventTag, connectionEvent := ⟨connectionEvent⟩ }
  { p with id := id, trigger := ⟨true,trigger⟩, direction := direction }

/-- The connection event that the parser reads. -/
def eventOf (t : SequenceTrigger) (p : PrepareSequenceCmd) : UInt32 :=
  match t with
  | .manual => 0
  | .connEvt _ => p.trigger.value.connectionEvent.connectionEvent

end SequenceTrigger

section
variable (t : SequenceTrigger) (id : UInt32) (direction : EnumField BleDirection) (packets : List (Packet 255))

/-- What was given to the builder, but for the number of packets. -/
structure SequenceContents (r : BlePrepseqParams) : Prop where
  sameId : r.id = id
  sameDirection : r.direction = direction
  sameEvent : ∀ connectionEvent, t = .connEvt connectionEvent → r.connEvt = connectionEvent
  inOrder : ∀ i (_ : i < 25) (_ : i < packets.length), ∃ src, r.packets[i].pBytes = some src ∧
    SameBytes packets[i].getBytes packets[i].bytes.length src r.packets[i].length

/-- The trigger is told, everything that was given is parsed, and the objects that are constructed from the
message, or from the one that an object with these packets packs, have these packets. -/
def SequenceRoundTrips (m : FullMessage) (array : ℕ → PreparedPacket) : Prop :=
  let built := t.build (some m) id direction (some array) packets.length
  (∀ s, ReadsBack built whadBlePrepareSequenceGetTriggerType s fun type => type = t.type) ∧
  (∀ s, ReadsBack built t.parser s fun r =>
    SequenceContents t id direction packets r ∧ r.packetCount = packets.length) ∧
  (∀ memory, ∃ m', built = some (.success, some m') ∧ t.constructed m' memory = some packets) ∧
  ∀ m₁ memory packets', t.packedMessage m id direction packets = some m₁ →
    t.constructed m₁ memory = some packets' → packets' = packets

end

namespace SequenceTrigger
section
variable {t : SequenceTrigger} {m : FullMessage} {id : UInt32} {direction : EnumField BleDirection}
  {packets : List (Packet 255)} {array : ℕ → PreparedPacket} {memory : BlePrepseqParams}

theorem build_eq (t : SequenceTrigger) (m : FullMessage) (id : UInt32) (direction : EnumField BleDirection)
    (array : ℕ → PreparedPacket) (pktCount : ℤ) : t.build (some m) id direction (some array) pktCount =
      m.build (.ble .prepare) fun p => whadBleSequenceCopyPackets (some array) pktCount (t.head id direction p) := by
  cases t with
  | manual => rfl
  | connEvt connectionEvent => rfl

/-- The message that is built of packets that are accepted. -/
theorem exists_build (t : SequenceTrigger) (m : FullMessage) (id : UInt32) (direction : EnumField BleDirection)
    (harray : Lists array packets) (haccepted : Accepted array 0 packets.length) :
    ∃ q : PrepareSequenceCmd,
      t.build (some m) id direction (some array) packets.length = some (.success, some (m.put (.ble .prepare) q)) ∧
      q.id = id ∧ q.direction = direction ∧ q.trigger.value.whichTrigger = t.tag ∧
      (∀ connectionEvent, t = .connEvt connectionEvent → t.eventOf q = connectionEvent) ∧
      q.sequence.count = packets.length ∧ ∀ i (_ : i < 25) (_ : i < packets.length),
        SameBytes packets[i].getBytes packets[i].bytes.length (bufferOf q.sequence.items[i].packet.bytes)
          q.sequence.items[i].packet.size := by
  let p : PrepareSequenceCmd := m.msg (.ble .prepare)
  obtain ⟨items,hcopied,hitems⟩ := exists_sequenceCopyPackets (t.head id direction p) haccepted
  refine ⟨{ t.head id direction p with sequence := ⟨packets.length,items⟩ },?_,rfl,rfl,?_,?_,rfl,fun i hi hlt => ?_⟩
  · rw [build_eq]
    exact build_success hcopied
  · cases t with
    | manual => rfl
    | connEvt connectionEvent => rfl
  · rintro connectionEvent rfl
    rfl
  · have hfill := hitems i hi hlt
    rw [(harray i hlt).count] at hfill
    exact (sameBytes_swap (harray i hlt)).trans (fill_sameBytes hfill (by decide)).1

theorem parser_eq (t : SequenceTrigger) (m : FullMessage) (s : BlePrepseqParams) :
    t.parser (some m) (some s) = (loadSequence (m.msg (.ble .prepare)) (t.eventOf (m.msg (.ble .prepare)))).map
      fun written => (written.1,some written.2) := by
  cases t with
  | manual => rfl
  | connEvt connectionEvent => rfl

/-- The number of packets is not among what is parsed, so an object has none. -/
theorem constructed_of_fits (memory : BlePrepseqParams)
    (hcount : (PrepareSequenceCmd.sequence (m.msg (.ble .prepare))).count ≤ 25) : t.constructed m memory = some [] := by
  obtain ⟨params,hparams,-,-,-,hpackets⟩ := parsedBy_loadSequence (parser_eq t m memory) hcount
  cases t with
  | manual =>
    have hparsed : parsedBy (whadBlePrepareSequenceManualParse (some m) (some memory)) = some params := hparams
    simp only [constructed, prepareSequenceManual, hparsed, Option.bind_eq_bind, Option.bind_some, hpackets,
      Option.map_some]
  | connEvt connectionEvent =>
    have hparsed : parsedBy (whadBlePrepareSequenceConnEvtParse (some m) (some memory)) = some params := hparams
    simp only [constructed, prepareSequenceConnEvt, hparsed, Option.bind_eq_bind, Option.bind_some, hpackets,
      Option.map_some]

/-- A count beyond the array leaves no object. -/
theorem eq_nil_of_constructed (h : t.constructed m memory = some packets) : packets = [] := by
  by_cases hcount : (PrepareSequenceCmd.sequence (m.msg (.ble .prepare))).count ≤ 25
  · exact (Option.some.inj ((constructed_of_fits memory hcount).symm.trans h)).symm
  · have hparsed : parsedBy (t.parser (some m) (some memory)) = none := by
      rw [parser_eq, loadSequence, loadPackets, if_neg hcount]
      rfl
    cases t with
    | manual =>
      have hnone : parsedBy (whadBlePrepareSequenceManualParse (some m) (some memory)) = none := hparsed
      simp [constructed, prepareSequenceManual, hnone] at h
    | connEvt connectionEvent =>
      have hnone : parsedBy (whadBlePrepareSequenceConnEvtParse (some m) (some memory)) = none := hparsed
      simp [constructed, prepareSequenceConnEvt, hnone] at h

theorem getTriggerType_of_tag (s : BleTrigger)
    (h : (PrepareSequenceCmd.trigger (m.msg (.ble .prepare))).value.whichTrigger = t.tag) :
    whadBlePrepareSequenceGetTriggerType (some m) (some s) = some (.success, some t.type) := by
  refine parse_success ?_
  cases t with
  | manual =>
    simp only [h, tag, if_true]
    rfl
  | connEvt connectionEvent =>
    simp only [h, tag]
    rfl

end
end SequenceTrigger

section
variable {t : SequenceTrigger} {m : FullMessage} {id : UInt32} {direction : EnumField BleDirection}
  {packets : List (Packet 255)} {array : ℕ → PreparedPacket}

/-- What the parsers make of a sequence within the array: everything but its number of packets. -/
theorem loadSequence_spec (p : PrepareSequenceCmd) (connEvt : UInt32) (hcount : p.sequence.count ≤ 25) :
    ∃ r, loadSequence p connEvt = done r ∧ r.id = p.id ∧ r.direction = p.direction ∧ r.connEvt = connEvt ∧
      r.packetCount = 0 ∧ ∀ i (_ : i < 25), i < p.sequence.count →
        r.packets[i] = ⟨some (bufferOf p.sequence.items[i].packet.bytes),p.sequence.items[i].packet.size⟩ := by
  simp only [loadSequence, loadPackets, if_pos hcount]
  refine ⟨_,rfl,rfl,rfl,rfl,rfl,fun i hi hlt => ?_⟩
  rw [Vector.getElem_ofFn, if_pos hlt]
  rfl

/-- Everything that was given comes back but the number of packets. -/
theorem prepareSequence_contents (t : SequenceTrigger) (m : FullMessage) (id : UInt32)
    (direction : EnumField BleDirection) (hcount : packets.length ≤ 25) (hpos : ∀ packet ∈ packets, 0 < packet.bytes.length)
    (harray : Lists array packets) (s : BlePrepseqParams) :
    ReadsBack (t.build (some m) id direction (some array) packets.length) t.parser s fun r =>
      SequenceContents t id direction packets r ∧ r.packetCount = 0 := by
  obtain ⟨q,hbuilt,hid,hdirection,-,hevent,hlength,hitems⟩ :=
    t.exists_build m id direction harray (harray.accepted hcount hpos)
  obtain ⟨r,hload,hid',hdirection',hevent',hzero,hpackets⟩ :=
    loadSequence_spec q (t.eventOf q) (hlength.trans_le hcount)
  refine ⟨_,r,hbuilt,?_,⟨hid'.trans hid,hdirection'.trans hdirection,?_,?_⟩,hzero⟩
  · rw [t.parser_eq, FullMessage.put_msg_self, hload]
    rfl
  · intro connectionEvent ht
    exact hevent'.trans (hevent _ ht)
  · intro i hi hlt
    rw [hpackets i hi (by omega)]
    exact ⟨_,rfl,hitems i hi hlt⟩

/-- The number of packets is lost, so that only the empty list comes back. -/
theorem prepareSequence_roundTrips_iff (t : SequenceTrigger) (id : UInt32) (direction : EnumField BleDirection)
    (packets : List (Packet 255)) (m : FullMessage) (array : ℕ → PreparedPacket) (hcount : packets.length ≤ 25)
    (hpos : ∀ packet ∈ packets, 0 < packet.bytes.length) (harray : Lists array packets) :
    SequenceRoundTrips t id direction packets m array ↔ packets = [] := by
  have hcontents := prepareSequence_contents t m id direction hcount hpos harray
  obtain ⟨q,hbuilt,-,-,htag,-,hlength,-⟩ := t.exists_build m id direction harray (harray.accepted hcount hpos)
  constructor
  · rintro ⟨-,-,hconstructed,-⟩
    obtain ⟨m',-,hpackets⟩ := hconstructed default
    exact SequenceTrigger.eq_nil_of_constructed hpackets
  · intro hnil
    refine ⟨fun s => ⟨_,_,hbuilt,SequenceTrigger.getTriggerType_of_tag s ?_,rfl⟩,fun s => ?_,fun memory => ?_,?_⟩
    · rwa [FullMessage.put_msg_self]
    · obtain ⟨m',r,hm',hr,hsame,hzero⟩ := hcontents s
      exact ⟨m',r,hm',hr,hsame,by rw [hzero, hnil, List.length_nil]⟩
    · refine ⟨_,hbuilt,?_⟩
      rw [hnil]
      refine SequenceTrigger.constructed_of_fits memory ?_
      rw [FullMessage.put_msg_self]
      omega
    · intro m₁ memory packets' _ hconstructed
      rw [hnil]
      exact SequenceTrigger.eq_nil_of_constructed hconstructed

/-- A sequence without packets comes back, and one with a packet of one byte does not. -/
theorem prepareSequence_roundTrips_nil_and_one :
    SequenceRoundTrips .manual 1 ⟨1⟩ [] default (fun _ => ⟨fun _ => 0,0⟩) ∧
      (SequenceRoundTrips .manual 1 ⟨1⟩ [⟨[7],by decide⟩] default (fun _ => ⟨fun _ => 7,1⟩) ↔
        ([⟨[7],by decide⟩] : List (Packet 255)) = []) := by
  constructor
  · exact (prepareSequence_roundTrips_iff .manual 1 ⟨1⟩ [] default (fun _ => ⟨fun _ => 0,0⟩) (by decide)
      (by decide) (fun _ h => absurd h (Nat.not_lt_zero _))).mpr rfl
  · refine prepareSequence_roundTrips_iff .manual 1 ⟨1⟩ [⟨[7],by decide⟩] default (fun _ => ⟨fun _ => 7,1⟩) (by decide)
      (by decide) fun i hi => ?_
    obtain rfl : i = 0 := Nat.lt_one_iff.mp hi
    exact ⟨rfl,rfl⟩

/-- A sequence of one packet of one byte. -/
theorem not_prepareSequence_roundTrips : ¬∀ (t : SequenceTrigger) (id : UInt32) (direction : EnumField BleDirection)
    (packets : List (Packet 255)) (m : FullMessage) (array : ℕ → PreparedPacket), packets.length ≤ 25 →
    (∀ packet ∈ packets, 0 < packet.bytes.length) → Lists array packets →
    SequenceRoundTrips t id direction packets m array := by
  intro hall
  let packet : Packet 255 := ⟨[0],by decide⟩
  have harray : Lists _ [packet] := lists_buildPacketsArray rfl
  obtain ⟨-,-,hconstructed,-⟩ := hall .manual 1 default [packet] default _ (by decide) (by decide) harray
  obtain ⟨m',-,hpackets⟩ := hconstructed default
  exact absurd (SequenceTrigger.eq_nil_of_constructed hpackets) (List.cons_ne_nil _ _)

end

/-! Sequences that start with a reception. -/

section
variable (pattern mask : Buffer) (length offset : ℤ) (id : UInt32) (direction : EnumField BleDirection)
  (array : ℕ → PreparedPacket) (pktCount : ℤ)

/-- The lengths that the fields of the message have room for. -/
structure ReceptionInRange : Prop where
  trigger : 0 < length ∧ length ≤ 255
  sequence : 0 < pktCount ∧ pktCount ≤ 25
  packets : ∀ i < pktCount.toNat, (array i).Fits

/-- A sequence is what was given to the builder, under the trigger of a reception. -/
structure ReceptionCarried (q : PrepareSequenceCmd) : Prop where
  present : q.trigger.has = true
  tag : q.trigger.value.whichTrigger = Trigger.receptionTag
  samePattern : SameBytes pattern length.toNat (bufferOf q.trigger.value.reception.pattern.bytes)
    q.trigger.value.reception.pattern.size
  sameMask : SameBytes mask length.toNat (bufferOf q.trigger.value.reception.mask.bytes)
    q.trigger.value.reception.mask.size
  sameOffset : q.trigger.value.reception.offset = UInt32.ofInt offset
  sameId : q.id = id
  sameDirection : q.direction = direction
  count : (q.sequence.count : ℤ) = pktCount
  inOrder : ∀ i (_ : i < 25), i < pktCount.toNat → SameBytes (array i).pBytes (array i).length.toNat
    (bufferOf q.sequence.items[i].packet.bytes) q.sequence.items[i].packet.size

/-- What fits is built, and the rest is refused. -/
def BuildsOnReception (m : FullMessage) : Prop :=
  let outcome :=
    whadBlePrepareSequenceOnRecv (some m) (some pattern) (some mask) length offset id direction (some array) pktCount
  (ReceptionInRange length array pktCount → ∃ m', outcome = some (.success, some m') ∧ m'.Holds (.ble .prepare) ∧
    ReceptionCarried pattern mask length offset id direction array pktCount (m'.msg (.ble .prepare))) ∧
  (¬ReceptionInRange length array pktCount → ∃ message, outcome = some (.error, message))

end

section
variable {pattern mask : Buffer} {length offset : ℤ} {id : UInt32} {direction : EnumField BleDirection}
  {array : ℕ → PreparedPacket} {pPackets : Option (ℕ → PreparedPacket)} {pktCount : ℤ} {m m' : FullMessage}

/-- Only without packets is something built, and then the offset is the one that the message had. -/
theorem onReception_success (h : whadBlePrepareSequenceOnRecv (some m) (some pattern) (some mask) length offset id
      direction pPackets pktCount = some (.success, some m')) :
    pPackets = none ∧ pktCount ≤ 0 ∧ 0 < length ∧ length < 255 ∧
      (PrepareSequenceCmd.trigger (m'.msg (.ble .prepare))).value.reception.offset =
        (PrepareSequenceCmd.trigger (m.msg (.ble .prepare))).value.reception.offset := by
  cases pPackets with
  | some packets => exact absurd h (by simp [whadBlePrepareSequenceOnRecv, refuse])
  | none =>
    obtain ⟨q,hbody,hm'⟩ := FullMessage.build_eq_some_iff.mp h
    obtain rfl := Option.some.inj hm'
    simp only [blePrepseqTriggerMaxSize] at hbody
    by_cases hlength : 0 < length ∧ length < 255
    · replace hbody := (if_pos hlength).symm.trans hbody
      simp only [bind, Option.bind_eq_some_iff] at hbody
      obtain ⟨x,-,y,-,hcopied⟩ := hbody
      by_cases hpos : 0 < pktCount
      · simp [whadBleSequenceCopyPackets, hpos] at hcopied
      · rw [whadBleSequenceCopyPackets_of_nonpos (not_lt.mp hpos)] at hcopied
        obtain ⟨-,rfl⟩ := Prod.mk.inj (Option.some.inj hcopied)
        refine ⟨rfl,not_lt.mp hpos,hlength.1,hlength.2,?_⟩
        rw [FullMessage.put_msg_self]
    · replace hbody := (if_neg hlength).symm.trans hbody
      simp [failed] at hbody

/-- Every array of packets is refused, so that only what does not fit is treated as it should. -/
theorem buildsOnReception_iff (pattern mask : Buffer) (length offset : ℤ) (id : UInt32)
    (direction : EnumField BleDirection) (array : ℕ → PreparedPacket) (pktCount : ℤ) (m : FullMessage) :
    BuildsOnReception pattern mask length offset id direction array pktCount m ↔
      ¬ReceptionInRange length array pktCount := by
  constructor
  · rintro ⟨hbuilt,-⟩ hrange
    obtain ⟨m',hsuccess,-⟩ := hbuilt hrange
    obtain ⟨hnone,-⟩ := onReception_success hsuccess
    exact Option.some_ne_none _ hnone
  · intro hrange
    exact ⟨fun h => absurd h hrange,fun _ => ⟨some m,rfl⟩⟩

/-- A pattern and a packet of one byte each. -/
theorem not_buildsOnReception : ¬BuildsOnReception (fun _ => 1) (fun _ => 255) 1 0 1 ⟨1⟩ (fun _ => ⟨fun _ => 0,1⟩) 1
    default := by
  rintro ⟨hbuilt,-⟩
  obtain ⟨m',hsuccess,-⟩ := hbuilt ⟨by decide,by decide,fun _ _ => ⟨by decide,by decide⟩⟩
  obtain ⟨hnone,-⟩ := onReception_success hsuccess
  exact Option.some_ne_none _ hnone

end
end WhadLib.Ble
