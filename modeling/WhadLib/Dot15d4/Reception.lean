import WhadLib.Dot15d4.Faithful
import WhadLib.Dot15d4.Union
import WhadLib.RoundTrip

/-! What is read back of packets that were put into a notification of the 802.15.4 domain. -/
namespace WhadLib.Dot15d4
open Library Cpp Wrapper
open Esb.Wrapper (storeOptional_shows)

/- A builder is compared with its member and its body, not with what setting both comes to. -/
attribute [local irreducible] FullMessage.build

/-- A message whose union holds the given bytes, as its two notifications read. -/
def overlay (m : FullMessage) (u : Buffer) : FullMessage :=
  { m with
    msg := Function.update (Function.update m.msg (.dot15d4 .rawPdu) (RawPduReceived.load u))
      (.dot15d4 .pdu) (PduReceived.load u) }

theorem overlay_rawPdu (m : FullMessage) (u : Buffer) :
    (overlay m u).msg (.dot15d4 .rawPdu) = RawPduReceived.load u := by
  simp [overlay]

/-- The notifications with a received packet. -/
inductive Reception
  | rawPdu
  | pdu
  deriving DecidableEq

namespace Reception

def builder : Reception → Option FullMessage → Option Dot15d4RecvdPacket → Outcome
  | .rawPdu => whadDot15d4RawPduReceived
  | .pdu => whadDot15d4PduReceived

def parser : Reception → Option FullMessage → Option Dot15d4RecvdPacket → Parsed Dot15d4RecvdPacket
  | .rawPdu => whadDot15d4RawPduReceivedParse
  | .pdu => whadDot15d4PduReceivedParse

/-- The constructor of the object. -/
def construct : Reception → FullMessage → Dot15d4RecvdPacket → Option (FullMessage × Wrapper.Received)
  | .rawPdu => rawPduReceived.construct
  | .pdu => pduReceived.construct

/-- The bytes of the union with the member of a message in them. -/
def store (u : Buffer) (m : FullMessage) : Reception → Buffer
  | .rawPdu => RawPduReceived.store u (m.msg (.dot15d4 .rawPdu))
  | .pdu => PduReceived.store u (m.msg (.dot15d4 .pdu))

/-- What a builder leaves of a message whose union held the given bytes: what it stored in its member is
read through the other one as well. -/
def build (f : Reception) (m : FullMessage) (u : Buffer) (packet : Dot15d4RecvdPacket) : Outcome :=
  (f.builder (some (overlay m u)) (some packet)).map fun built =>
    (built.1,built.2.map fun m' => overlay m' (f.store u m'))

end Reception

/-- Two packets are the same but for the FCS. -/
structure SamePacket (packet r : Dot15d4RecvdPacket) : Prop where
  channel : r.channel = packet.channel
  pdu : SameBytes (bufferOf packet.packet.bytes) packet.packet.length.toNat (bufferOf r.packet.bytes) r.packet.length
  rssi : r.rssi.Same packet.rssi
  timestamp : r.timestamp.Same packet.timestamp
  fcsValidity : r.fcsValidity.Same packet.fcsValidity
  lqi : r.lqi.Same packet.lqi

/-- Only a raw notification has the FCS. -/
def Reception.Returned (f : Reception) (packet r : Dot15d4RecvdPacket) : Prop :=
  SamePacket packet r ∧ (f = .rawPdu → r.fcs = packet.fcs)

/-- The parser returns what was given to the builder, and the object that is constructed from the message
exposes it, whatever lies in the output and in the memory of the constructor. -/
def Reception.RoundTrips (f : Reception) (packet : Dot15d4RecvdPacket) (m : FullMessage) (u : Buffer) : Prop :=
  (∀ s, ReadsBack (f.build m u packet) f.parser s (f.Returned packet)) ∧
  ∀ memory, ∃ m' o, f.build m u packet = some (.success, some m') ∧ f.construct m' memory = some (m',o) ∧
    f.Returned packet o.params

section
variable {packet : Dot15d4RecvdPacket} {m : FullMessage} {u : Buffer} {raw : RawPduReceived}

/-- The fields of a raw notification up to the packet hold a received one. -/
structure Holds (packet : Dot15d4RecvdPacket) (raw : RawPduReceived) : Prop where
  channel : raw.channel = packet.channel
  pdu : SameBytes (bufferOf packet.packet.bytes) packet.packet.length.toNat (bufferOf raw.pdu.bytes) raw.pdu.size
  size : raw.pdu.size ≤ 255
  rssi : raw.rssi.Same packet.rssi
  timestamp : raw.timestamp.Same ⟨packet.timestamp.has,packet.timestamp.value.toUInt64⟩
  fcsValidity : raw.fcsValidity.Same packet.fcsValidity

/-- What is read of it is the packet, if the link quality is. -/
theorem samePacket_iff {r : Dot15d4RecvdPacket} (h : Holds packet raw) (hfetched : Fetched raw r) :
    SamePacket packet r ↔ raw.lqi.Same packet.lqi := by
  have hlqi := hfetched.lqi
  constructor
  · intro hpacket
    refine ⟨hlqi.1.symm.trans hpacket.lqi.1,fun hhas => ?_⟩
    have hloaded : raw.lqi.has = true := hlqi.1.symm.trans (hpacket.lqi.1.trans hhas)
    exact (hlqi.2 hloaded).symm.trans (hpacket.lqi.2 hhas)
  · intro hraw
    refine ⟨hfetched.channel.trans h.channel,h.pdu.of_readsAs hfetched.packet,same_trans hfetched.rssi h.rssi,?_,
      same_trans hfetched.fcsValidity h.fcsValidity,same_trans hlqi hraw⟩
    refine same_trans hfetched.timestamp ⟨h.timestamp.1,fun hhas => ?_⟩
    exact (congrArg UInt64.toUInt32 (h.timestamp.2 hhas)).trans (UInt32.toUInt32_toUInt64 _)

/-- An object exposes what it has loaded. -/
theorem fetched_of_loaded {o : Wrapper.Received} (h : Loaded raw o) : Fetched raw o.params where
  channel := h.channel
  packet := h.pdu.copyOf
  rssi := h.rssi
  timestamp := h.timestamp
  fcsValidity := h.fcsValidity
  lqi := h.lqi

/-- What both builders store of a packet that fits. -/
theorem exists_fill (x : BytesArray 255) (hzero : 0 ≤ packet.packet.length) (hle : packet.packet.length ≤ 255) :
    ∃ y, x.fill (bufferOf packet.packet.bytes) packet.packet.length = some y ∧
      SameBytes (bufferOf packet.packet.bytes) packet.packet.length.toNat (bufferOf y.bytes) y.size ∧ y.size ≤ 255 := by
  have hfits : packet.packet.length.toNat ≤ 255 := by omega
  obtain ⟨y,hy,hsame,hsize⟩ := exists_fill_sameBytes x (bufferOf packet.packet.bytes) hfits (by decide)
  rw [Int.toNat_of_nonneg hzero] at hy
  exact ⟨y,hy,hsame,hsize⟩

/-- A raw notification is stored as it is. -/
theorem exists_rawPduReceived (m : FullMessage) (u : Buffer) (hzero : 0 ≤ packet.packet.length)
    (hle : packet.packet.length ≤ 255) :
    ∃ m', Reception.rawPdu.build m u packet = some (.success, some m') ∧
      Holds packet (m'.msg (.dot15d4 .rawPdu)) ∧ RawPduReceived.fcs (m'.msg (.dot15d4 .rawPdu)) = packet.fcs ∧
      (RawPduReceived.lqi (m'.msg (.dot15d4 .rawPdu))).Same packet.lqi := by
  let p : RawPduReceived := (overlay m u).msg (.dot15d4 .rawPdu)
  obtain ⟨y,hy,hsame,hsize⟩ := exists_fill p.pdu hzero hle
  let q : RawPduReceived := {
    channel := packet.channel, pdu := y, fcs := packet.fcs, rssi := Esb.storeOptional packet.rssi id p.rssi
    timestamp := Esb.storeOptional packet.timestamp UInt32.toUInt64 p.timestamp
    fcsValidity := Esb.storeOptional packet.fcsValidity id p.fcsValidity, lqi := storeLqi packet.lqi }
  have hbuilt : whadDot15d4RawPduReceived (some (overlay m u)) (some packet) =
      some (.success, some ((overlay m u).put (.dot15d4 .rawPdu) q)) :=
    build_success (congrArg (fun filled => Option.bind filled _) hy)
  have hq : RawPduReceived.load (RawPduReceived.store u q) = q := RawPduReceived.load_store (by simp only [q]; omega)
  refine ⟨overlay ((overlay m u).put (.dot15d4 .rawPdu) q) (RawPduReceived.store u q),?_,?_,?_,?_⟩
  · simp only [Reception.build, Reception.builder, hbuilt, Option.map_some, Reception.store, FullMessage.put_msg_self]
  · rw [overlay_rawPdu, hq]
    exact ⟨rfl,hsame,hsize,storeOptional_shows _ id _,storeOptional_shows _ UInt32.toUInt64 _,storeOptional_shows _ id _⟩
  · rw [overlay_rawPdu, hq]
  · rw [overlay_rawPdu, hq]
    exact storeLqi_same ⟨rfl,fun _ => rfl⟩

/-- The other one is, but the link quality is not where the parser looks for it. -/
theorem exists_pduReceived (m : FullMessage) (u : Buffer) (hzero : 0 ≤ packet.packet.length)
    (hle : packet.packet.length ≤ 255) :
    ∃ m', Reception.pdu.build m u packet = some (.success, some m') ∧ Holds packet (m'.msg (.dot15d4 .rawPdu)) ∧
      RawPduReceived.lqi (m'.msg (.dot15d4 .rawPdu)) =
        ⟨(storeLqi packet.lqi).value.toUInt8 != 0,(RawPduReceived.load u).lqi.value⟩ := by
  let p : PduReceived := (overlay m u).msg (.dot15d4 .pdu)
  obtain ⟨y,hy,hsame,hsize⟩ := exists_fill p.pdu hzero hle
  let q : PduReceived := {
    channel := packet.channel, pdu := y, rssi := Esb.storeOptional packet.rssi id p.rssi
    timestamp := Esb.storeOptional packet.timestamp UInt32.toUInt64 p.timestamp
    fcsValidity := Esb.storeOptional packet.fcsValidity id p.fcsValidity, lqi := storeLqi packet.lqi }
  have hbuilt : whadDot15d4PduReceived (some (overlay m u)) (some packet) =
      some (.success, some ((overlay m u).put (.dot15d4 .pdu) q)) :=
    build_success (congrArg (fun filled => Option.bind filled _) hy)
  obtain ⟨hchannel,hrssi,htimestamp,hfcsValidity,hpdu⟩ : SameHead (RawPduReceived.load (PduReceived.store u q)) q :=
    sameHead_load_store (by simp only [q]; omega)
  refine ⟨overlay ((overlay m u).put (.dot15d4 .pdu) q) (PduReceived.store u q),?_,?_,?_⟩
  · simp only [Reception.build, Reception.builder, hbuilt, Option.map_some, Reception.store, FullMessage.put_msg_self]
  · rw [overlay_rawPdu]
    refine ⟨hchannel,?_,?_,?_,?_,?_⟩
    · rw [hpdu]
      exact hsame
    · rw [hpdu]
      exact hsize
    · rw [hrssi]
      exact storeOptional_shows _ id _
    · rw [htimestamp]
      exact storeOptional_shows _ UInt32.toUInt64 _
    · rw [hfcsValidity]
      exact storeOptional_shows _ id _
  · rw [overlay_rawPdu]
    exact rawLqi_load_store

/-- The parser returns a raw notification with its FCS. -/
theorem rawPdu_readsBack (m : FullMessage) (u : Buffer) (hzero : 0 ≤ packet.packet.length)
    (hle : packet.packet.length ≤ 255) (s : Dot15d4RecvdPacket) :
    ReadsBack (Reception.rawPdu.build m u packet) whadDot15d4RawPduReceivedParse s
      (Reception.rawPdu.Returned packet) := by
  obtain ⟨m',hbuilt,hholds,hfcs,hlqi⟩ := exists_rawPduReceived m u hzero hle
  let p : RawPduReceived := m'.msg (.dot15d4 .rawPdu)
  obtain ⟨params,hloaded,hfetched,hsfcs⟩ := loadRecvdPacket_spec hholds.size { s with fcs := p.fcs }
  have hparsed : whadDot15d4RawPduReceivedParse (some m') (some s) = some (.success, some params) :=
    parse_success hloaded
  exact (readsBack_iff hbuilt hparsed).mpr ⟨(samePacket_iff hholds hfetched).mpr hlqi,fun _ => hsfcs.trans hfcs⟩

/-- The object of either class comes from the parser of notifications that are not raw. -/
theorem construct_eq (f : Reception) {params memory : Dot15d4RecvdPacket} {o : Wrapper.Received}
    (hloaded : loadRecvdPacket (m.msg (.dot15d4 .rawPdu)) memory = done params)
    (ho : Wrapper.Received.ofParams params = some o) : f.construct m memory = some (m,o) := by
  have hparsed : parsedBy (whadDot15d4PduReceivedParse (some m) (some memory)) = some params := parsedBy_parse hloaded
  cases f with
  | rawPdu =>
    simp only [Reception.construct, rawPduReceived, receiving, hparsed, Option.bind_eq_bind, Option.bind_some, ho]
  | pdu => simp only [Reception.construct, pduReceived, receiving, hparsed, Option.bind_eq_bind, Option.bind_some, ho]

/-- That parser leaves the FCS to what lies in memory. -/
theorem not_rawPdu_roundTrips (m : FullMessage) (u : Buffer) (hzero : 0 ≤ packet.packet.length)
    (hle : packet.packet.length ≤ 255) : ¬Reception.rawPdu.RoundTrips packet m u := by
  rintro ⟨-,hexposed⟩
  obtain ⟨m',hbuilt,hholds,-⟩ := exists_rawPduReceived m u hzero hle
  let memory : Dot15d4RecvdPacket := { (default : Dot15d4RecvdPacket) with fcs := packet.fcs+1 }
  obtain ⟨params,o,hloaded,ho,-,hfcs⟩ := load_spec hholds.size memory
  obtain ⟨m'',o',hm',ho',-,hreturned⟩ := hexposed memory
  obtain ⟨-,rfl⟩ := result_unique hbuilt hm'
  obtain ⟨-,rfl⟩ := Prod.mk.inj (Option.some.inj ((construct_eq .rawPdu hloaded ho).symm.trans ho'))
  have hsucc : packet.fcs+1 = packet.fcs := hfcs.symm.trans (hreturned rfl)
  exact absurd hsucc (by simp)

/-- The message held the link quality already where that of a raw notification lies, and the lowest byte of it
is not zero. -/
def LqiPrepared (packet : Dot15d4RecvdPacket) (u : Buffer) : Prop :=
  packet.lqi.has = true → packet.lqi.value.toUInt8 ≠ 0 ∧ (RawPduReceived.load u).lqi.value = packet.lqi.value

theorem lqi_same_iff (given : OptionalField UInt32) (behind : UInt32) :
    (⟨(storeLqi given).value.toUInt8 != 0,behind⟩ : OptionalField UInt32).Same given ↔
      (given.has = true → given.value.toUInt8 ≠ 0 ∧ behind = given.value) := by
  obtain ⟨has,v⟩ := given
  cases has with
  | false => simp [storeLqi, OptionalField.Same, OptionalField.Shown]
  | true => simp [storeLqi, OptionalField.Same, OptionalField.Shown]

theorem pdu_roundTrips_iff (m : FullMessage) (u : Buffer) (hzero : 0 ≤ packet.packet.length)
    (hle : packet.packet.length ≤ 255) : Reception.pdu.RoundTrips packet m u ↔ LqiPrepared packet u := by
  obtain ⟨m',hbuilt,hholds,hlqi⟩ := exists_pduReceived m u hzero hle
  have hsame {r : Dot15d4RecvdPacket} (h : Fetched (m'.msg (.dot15d4 .rawPdu)) r) :
      SamePacket packet r ↔ LqiPrepared packet u := by
    have hiff := samePacket_iff hholds h
    rwa [hlqi, lqi_same_iff] at hiff
  have hparsed {s params : Dot15d4RecvdPacket} (h : loadRecvdPacket (m'.msg (.dot15d4 .rawPdu)) s = done params) :
      whadDot15d4PduReceivedParse (some m') (some s) = some (.success, some params) := parse_success h
  constructor
  · rintro ⟨hread,-⟩
    obtain ⟨params,hparams,hfetched,-⟩ := loadRecvdPacket_spec hholds.size default
    exact (hsame hfetched).mp ((readsBack_iff hbuilt (hparsed hparams)).mp (hread default)).1
  · intro hprepared
    refine ⟨fun s => ?_,fun memory => ?_⟩
    · obtain ⟨params,hparams,hfetched,-⟩ := loadRecvdPacket_spec hholds.size s
      exact (readsBack_iff hbuilt (hparsed hparams)).mpr ⟨(hsame hfetched).mpr hprepared,fun h => by contradiction⟩
    · obtain ⟨params,o,hparams,ho,hloaded,-⟩ := load_spec hholds.size memory
      exact ⟨m',o,hbuilt,construct_eq .pdu hparams ho,(hsame (fetched_of_loaded hloaded)).mpr hprepared,
        fun h => by contradiction⟩

/-- A received packet comes back as one that is not raw, and without a link quality that the message did not
hold. -/
theorem reception_roundTrips_iff (f : Reception) (packet : Dot15d4RecvdPacket) (m : FullMessage) (u : Buffer)
    (hzero : 0 ≤ packet.packet.length) (hle : packet.packet.length ≤ 255) :
    f.RoundTrips packet m u ↔ f = .pdu ∧ LqiPrepared packet u := by
  cases f with
  | rawPdu => exact iff_of_false (not_rawPdu_roundTrips m u hzero hle) (fun h => absurd h.1 (by decide))
  | pdu => exact (pdu_roundTrips_iff m u hzero hle).trans (and_iff_right rfl).symm

/-- A packet of two bytes with every field but the link quality, and one with a link quality. -/
def received (lqi : OptionalField UInt32) : Dot15d4RecvdPacket where
  channel := 11
  rssi := ⟨true,-40⟩
  timestamp := ⟨true,1000⟩
  fcsValidity := ⟨true,true⟩
  fcs := 0xbeef
  lqi := lqi
  packet := ⟨memset 7,2⟩

theorem reception_roundTrips_received : Reception.pdu.RoundTrips (received ⟨false,0⟩) default fun _ => 0xff :=
  (reception_roundTrips_iff .pdu (received ⟨false,0⟩) default (fun _ => 0xff) (by decide) (by decide)).mpr
    ⟨rfl,fun h => absurd h (by decide)⟩

/-- The link quality was not in the message before. -/
theorem not_reception_roundTrips : ¬Reception.pdu.RoundTrips (received ⟨true,200⟩) default fun _ => 0xff := by
  intro h
  have hprepared := (pdu_roundTrips_iff default (fun _ => 0xff) (by decide) (by decide)).mp h
  exact absurd (hprepared rfl).2 (by decide)

end
end WhadLib.Dot15d4
