import WhadLib.Builders.Capacity
import WhadLib.Phy.Faithful
import WhadLib.RoundTrip

/-! Times in the messages of the PHY domain: a builder makes one number of seconds and microseconds, and a
parser takes it apart again. -/
namespace WhadLib.Phy
open Library

/- A builder is compared with its member and its body, not with what setting both comes to. -/
attribute [local irreducible] FullMessage.build

/-- The calls that store a time, with their other arguments. -/
inductive TimedCall
  | schedPacket (pPacket : Buffer) (length : ℕ)
  | jammed
  | packetReceived (frequency : UInt32) (rssi : Int32) (payload : Buffer) (length : ℕ) (syncword : Option Buffer)
      (syncwordLength : ℤ) (deviation datarate : UInt32) (endianness : EnumField Endianness)
      (modulation : EnumField Modulation)

namespace TimedCall

def build : TimedCall → FullMessage → PhyTimestamp → Outcome
  | .schedPacket pPacket length, m, ts => whadPhySchedPacket (some m) (some pPacket) length ts.tsSec ts.tsUsec
  | .jammed, m, ts => whadPhyJammed (some m) ts.tsSec ts.tsUsec
  | .packetReceived frequency rssi payload length syncword syncwordLength deviation datarate endianness modulation,
      m, ts =>
    whadPhyPacketReceived (some m) frequency rssi ts.tsSec ts.tsUsec (some payload) length syncword syncwordLength
      deviation datarate endianness modulation

/-- The matching parser returns the time and the packet, whatever its output held. -/
def RoundTrips (c : TimedCall) (m : FullMessage) (ts : PhyTimestamp) : Prop :=
  match c with
  | .schedPacket pPacket length => ∀ s, ReadsBack (c.build m ts) whadPhySchedPacketParse s fun r =>
      r.ts = ts ∧ SameBytes pPacket length (bufferOf r.packet.payload) r.packet.length
  | .jammed => ∀ s, ReadsBack (c.build m ts) whadPhyJammedParse s fun r => r = ts
  | .packetReceived _ _ payload length _ _ _ _ _ _ =>
    ∀ s, ReadsBack (c.build m ts) whadPhyPacketReceivedParse s fun r =>
      r.ts = ts ∧ SameBytes payload length (bufferOf r.packet.payload) r.packet.length

/-- The field with the time. -/
def timestamp : TimedCall → FullMessage → UInt64
  | .schedPacket .., m => ScheduleSendCmd.timestamp (m.msg (.phy .schedSend))
  | .jammed, m => Jammed.timestamp (m.msg (.phy .jammed))
  | .packetReceived .., m => (PacketReceived.timestamp (m.msg (.phy .packet))).value

/-- The call succeeds and stores all of the time. -/
def StoresExactly (c : TimedCall) (m : FullMessage) (ts : PhyTimestamp) : Prop :=
  ∃ m', c.build m ts = some (.success, some m') ∧
    (c.timestamp m').toNat = ts.tsSec.toNat*1000000 + ts.tsUsec.toNat

/-- The bytes of the packet, if there is one. -/
def length : TimedCall → ℕ
  | .schedPacket _ length => length
  | .jammed => 0
  | .packetReceived _ _ _ length _ _ _ _ _ _ => length

/-- The sync word of a received packet is copied without a check. -/
def SyncwordFits : TimedCall → Prop
  | .packetReceived _ _ _ _ syncword syncwordLength _ _ _ _ =>
    0 ≤ syncwordLength ∧ syncwordLength ≤ 8 ∧ (0 < syncwordLength → syncword.isSome)
  | _ => True

end TimedCall

/-- All microseconds together fit in 32 bits. -/
def PhyTimestamp.Fits (ts : PhyTimestamp) : Prop := ts.tsSec.toNat*1000000 + ts.tsUsec.toNat < 2^32

instance (ts : PhyTimestamp) : Decidable ts.Fits := inferInstanceAs (Decidable (_ < _))

section
variable {sec usec : UInt32}

theorem toNat_timestampOf (sec usec : UInt32) :
    (timestampOf sec usec).toNat = (sec.toNat*1000000 + usec.toNat) % 2^32 := by
  rw [timestampOf, UInt32.toNat_toUInt64, UInt32.toNat_add, UInt32.toNat_mul,
    show (1000000 : UInt32).toNat = 1000000 from rfl]
  omega

theorem timestampOf_exact_iff : (timestampOf sec usec).toNat = sec.toNat*1000000 + usec.toNat ↔
    PhyTimestamp.Fits ⟨sec,usec⟩ := by
  rw [toNat_timestampOf]
  constructor
  · intro h
    rw [PhyTimestamp.Fits, ← h]
    exact Nat.mod_lt _ (by norm_num)
  · exact Nat.mod_eq_of_lt

/-- A time that does not fit is not the one that comes back: its microseconds are below a second. -/
theorem timestampFrom_timestampOf_iff (sec : UInt32) (h : usec.toNat < 1000000) :
    timestampFrom (timestampOf sec usec) = ⟨sec,usec⟩ ↔ PhyTimestamp.Fits ⟨sec,usec⟩ := by
  have hlt : (timestampOf sec usec).toNat < 2^32 := by
    rw [toNat_timestampOf]
    exact Nat.mod_lt _ (by norm_num)
  have hsec : (timestampFrom (timestampOf sec usec)).tsSec.toNat = (timestampOf sec usec).toNat/1000000 := by
    simp only [timestampFrom, UInt64.toNat_toUInt32, UInt64.toNat_div, show (1000000 : UInt64).toNat = 1000000 from rfl]
    omega
  have husec : (timestampFrom (timestampOf sec usec)).tsUsec.toNat = (timestampOf sec usec).toNat%1000000 := by
    simp only [timestampFrom, UInt64.toNat_toUInt32, UInt64.toNat_mod, show (1000000 : UInt64).toNat = 1000000 from rfl]
    omega
  rw [← timestampOf_exact_iff]
  constructor
  · intro heq
    rw [heq] at hsec husec
    dsimp only at hsec husec
    omega
  · intro hexact
    rw [hexact] at hsec husec
    have hs : (timestampFrom (timestampOf sec usec)).tsSec = sec := UInt32.toNat_inj.mp (by omega)
    have hu : (timestampFrom (timestampOf sec usec)).tsUsec = usec := UInt32.toNat_inj.mp (by omega)
    exact congrArg₂ PhyTimestamp.mk hs hu

end

section
variable {m : FullMessage} {ts : PhyTimestamp}

/-- What is parsed of a member that holds a packet as it was given. -/
theorem exists_loadPacket {x : BytesArray 255} {src : Buffer} {length : ℕ} (s : PhyPacket)
    (h : SameBytes src length (bufferOf x.bytes) x.size) (hle : x.size ≤ 255) :
    ∃ packet, loadPacket x s = some packet ∧ SameBytes src length (bufferOf packet.payload) packet.length := by
  obtain ⟨payload,hload,htake⟩ := Wrapper.loadPacket_spec s hle
  refine ⟨_,hload,h.count,?_⟩
  rw [h.size] at htake
  exact htake.trans h.bytes

theorem schedPacket_build (m : FullMessage) (pPacket : Buffer) {length : ℕ} (hlength : length ≤ 255)
    (ts : PhyTimestamp) : ∃ x, SameBytes pPacket length (bufferOf x.bytes) x.size ∧ x.size ≤ 255 ∧
      whadPhySchedPacket (some m) (some pPacket) length ts.tsSec ts.tsUsec =
        some (.success, some (m.put (.phy .schedSend) ⟨x,timestampOf ts.tsSec ts.tsUsec⟩)) := by
  let p : ScheduleSendCmd := m.msg (.phy .schedSend)
  obtain ⟨x,hx,hsame,hle⟩ := exists_fill_sameBytes p.packet pPacket hlength (by decide)
  refine ⟨x,hsame,hle,(if_neg (by omega)).trans (build_success ?_)⟩
  change (p.packet.fill pPacket length).bind _ = _
  rw [hx]
  rfl

theorem jammed_build (m : FullMessage) (ts : PhyTimestamp) : whadPhyJammed (some m) ts.tsSec ts.tsUsec =
    some (.success, some (m.put (.phy .jammed) ⟨timestampOf ts.tsSec ts.tsUsec⟩)) := by
  rw [← Wrapper.jammed_timestamp]
  exact build_success rfl

/-- The member with a received packet: a time of zero is left out. -/
def received (p : PacketReceived) (frequency : UInt32) (rssi : Int32) (ts : PhyTimestamp) (x : BytesArray 255)
    (y : BytesArray 8) (deviation datarate : UInt32) (endianness : EnumField Endianness)
    (modulation : EnumField Modulation) : PacketReceived :=
  { p with
    frequency := frequency
    timestamp := if 0 < ts.tsSec ∨ 0 < ts.tsUsec then ⟨true,timestampOf ts.tsSec ts.tsUsec⟩ else ⟨false,0⟩
    rssi := ⟨true,rssi⟩, packet := x, syncword := y, deviation := deviation
    datarate := datarate, endian := endianness, modulation := modulation }

section
variable {frequency : UInt32} {rssi : Int32} {payload : Buffer} {length : ℕ} {syncword : Option Buffer}
  {syncwordLength : ℤ} {deviation datarate : UInt32} {endianness : EnumField Endianness}
  {modulation : EnumField Modulation}

theorem packetReceived_build (m : FullMessage) (frequency : UInt32) (rssi : Int32) (ts : PhyTimestamp)
    (payload : Buffer) (deviation datarate : UInt32) (endianness : EnumField Endianness)
    (modulation : EnumField Modulation) (hlength : length ≤ 255)
    (hsyncword : 0 ≤ syncwordLength ∧ syncwordLength ≤ 8 ∧ (0 < syncwordLength → syncword.isSome)) :
    ∃ x y, SameBytes payload length (bufferOf x.bytes) x.size ∧ x.size ≤ 255 ∧
      whadPhyPacketReceived (some m) frequency rssi ts.tsSec ts.tsUsec (some payload) length syncword syncwordLength
        deviation datarate endianness modulation = some (.success, some (m.put (.phy .packet)
          (received (m.msg (.phy .packet)) frequency rssi ts x y deviation datarate endianness modulation))) := by
  let p : PacketReceived := m.msg (.phy .packet)
  have hcut : (if (255 : ℤ) < length then 255 else (length : ℤ)) = length := if_neg (by omega)
  obtain ⟨x,hx,hsame,hle⟩ := exists_fill_sameBytes p.packet payload hlength (by decide)
  obtain ⟨y,hy⟩ := (exists_fillFrom_iff p.syncword).mpr hsyncword
  refine ⟨x,y,hsame,hle,build_success ?_⟩
  change (p.packet.fill payload (if (255 : ℤ) < length then 255 else length)).bind _ = _
  rw [hcut, hx]
  change (fillFrom p.syncword syncword syncwordLength).bind _ = _
  rw [hy]
  rfl

/-- A sync word that does not fit is copied out of bounds. -/
theorem syncwordFits_of_packetReceived {result : WhadResult} {m' : FullMessage}
    (h : whadPhyPacketReceived (some m) frequency rssi ts.tsSec ts.tsUsec (some payload) length syncword
      syncwordLength deviation datarate endianness modulation = some (result, some m')) :
    0 ≤ syncwordLength ∧ syncwordLength ≤ 8 ∧ (0 < syncwordLength → syncword.isSome) := by
  obtain ⟨q,hbody,-⟩ := FullMessage.build_eq_some_iff.mp h
  simp only [bind, Option.bind_eq_some_iff] at hbody
  obtain ⟨x,-,y,hy,-⟩ := hbody
  exact (exists_fillFrom_iff _).mp ⟨y,hy⟩

end

theorem schedPacket_readsBack_iff {pPacket : Buffer} {length : ℕ} (hlength : length ≤ 255) (s : PhySchedPacket) :
    ReadsBack (whadPhySchedPacket (some m) (some pPacket) length ts.tsSec ts.tsUsec) whadPhySchedPacketParse s
      (fun r => r.ts = ts ∧ SameBytes pPacket length (bufferOf r.packet.payload) r.packet.length) ↔
        timestampFrom (timestampOf ts.tsSec ts.tsUsec) = ts := by
  obtain ⟨x,hsame,hle,hbuilt⟩ := schedPacket_build m pPacket hlength ts
  obtain ⟨packet,hload,hpacket⟩ := exists_loadPacket s.packet hsame hle
  let q : ScheduleSendCmd := ⟨x,timestampOf ts.tsSec ts.tsUsec⟩
  have hparsed : whadPhySchedPacketParse (some (m.put (.phy .schedSend) q)) (some s) =
      some (.success, some ⟨packet,timestampFrom q.timestamp⟩) := by
    refine parse_success ?_
    change (loadPacket x s.packet).bind _ = _
    rw [hload]
    rfl
  rw [readsBack_iff hbuilt hparsed]
  exact and_iff_left hpacket

theorem jammed_readsBack_iff (s : PhyTimestamp) :
    ReadsBack (whadPhyJammed (some m) ts.tsSec ts.tsUsec) whadPhyJammedParse s (fun r => r = ts) ↔
      timestampFrom (timestampOf ts.tsSec ts.tsUsec) = ts := by
  have hparsed : whadPhyJammedParse (some (m.put (.phy .jammed) ⟨timestampOf ts.tsSec ts.tsUsec⟩)) (some s) =
      some (.success, some (timestampFrom (timestampOf ts.tsSec ts.tsUsec))) := fetch_success _ _ _
  rw [readsBack_iff (jammed_build m ts) hparsed]

/-- A time that was left out is read as zero. -/
theorem received_timestamp (ts : PhyTimestamp) :
    let stored : OptionalField UInt64 :=
      if 0 < ts.tsSec ∨ 0 < ts.tsUsec then ⟨true,timestampOf ts.tsSec ts.tsUsec⟩ else ⟨false,0⟩
    stored.value = timestampOf ts.tsSec ts.tsUsec ∧
      (if stored.has then timestampFrom stored.value else ⟨0,0⟩) = timestampFrom (timestampOf ts.tsSec ts.tsUsec) := by
  have hzero := Wrapper.jammed_timestamp ts
  by_cases h : 0 < ts.tsSec ∨ 0 < ts.tsUsec
  · simp only [h, if_true, and_self]
  · rw [if_neg h] at hzero
    simp only [h, if_false, ← hzero, Bool.false_eq_true, true_and]
    rfl

section
variable {frequency : UInt32} {rssi : Int32} {payload : Buffer} {length : ℕ} {syncword : Option Buffer}
  {syncwordLength : ℤ} {deviation datarate : UInt32} {endianness : EnumField Endianness}
  {modulation : EnumField Modulation}

theorem packetReceived_readsBack_iff (hlength : length ≤ 255) (s : PhyReceivedPacket) :
    ReadsBack (whadPhyPacketReceived (some m) frequency rssi ts.tsSec ts.tsUsec (some payload) length syncword
      syncwordLength deviation datarate endianness modulation) whadPhyPacketReceivedParse s
      (fun r => r.ts = ts ∧ SameBytes payload length (bufferOf r.packet.payload) r.packet.length) ↔
        timestampFrom (timestampOf ts.tsSec ts.tsUsec) = ts ∧
        0 ≤ syncwordLength ∧ syncwordLength ≤ 8 ∧ (0 < syncwordLength → syncword.isSome) := by
  by_cases hsyncword : 0 ≤ syncwordLength ∧ syncwordLength ≤ 8 ∧ (0 < syncwordLength → syncword.isSome)
  · obtain ⟨x,y,hsame,hle,hbuilt⟩ := packetReceived_build m frequency rssi ts payload deviation datarate endianness
      modulation hlength hsyncword
    obtain ⟨bytes,hbytes,hpacket⟩ := hsame.exists_memcpy (show x.size ≤ 256 by omega) s.packet.payload
    obtain ⟨-,hfrom⟩ := received_timestamp ts
    have hparsed : whadPhyPacketReceivedParse (some (m.put (.phy .packet) (received (m.msg (.phy .packet)) frequency
        rssi ts x y deviation datarate endianness modulation))) (some s) = some (.success, some
          ⟨frequency,rssi,timestampFrom (timestampOf ts.tsSec ts.tsUsec),⟨bytes,x.size⟩⟩) := by
      refine parse_success ?_
      dsimp only
      rw [FullMessage.put_msg_self, ← hfrom]
      have hmax : (x.size : ℤ) < 256 := by omega
      refine (if_pos hmax).trans ?_
      change (memcpy s.packet.payload (bufferOf x.bytes) x.size).bind _ = _
      rw [hbytes]
      rfl
    rw [readsBack_iff hbuilt hparsed]
    exact and_congr_right fun _ => iff_of_true hpacket hsyncword
  · refine iff_of_false ?_ fun h => hsyncword h.2
    rintro ⟨m',r,hbuilt,-⟩
    exact hsyncword (syncwordFits_of_packetReceived hbuilt)

end

/-- The number that a call stores is what tells whether it is exact. -/
theorem storesExactly_iff {c : TimedCall} {m' : FullMessage} (h : c.build m ts = some (.success, some m'))
    (hstored : c.timestamp m' = timestampOf ts.tsSec ts.tsUsec) : c.StoresExactly m ts ↔ ts.Fits := by
  refine Iff.trans ?_ timestampOf_exact_iff
  rw [← hstored]
  constructor
  · rintro ⟨m'',h',hexact⟩
    obtain ⟨-,rfl⟩ := result_unique h h'
    exact hexact
  · intro hexact
    exact ⟨m',h,hexact⟩

/-- Each call comes back with its time, and stores all of it, where the time fits in 32 bits. -/
theorem timestamps_roundTrip_iff (c : TimedCall) (m : FullMessage) (ts : PhyTimestamp) (hlength : c.length ≤ 255)
    (hmicros : ts.tsUsec.toNat < 1000000) : (c.RoundTrips m ts ↔ ts.Fits ∧ c.SyncwordFits) ∧
      (c.StoresExactly m ts ↔ ts.Fits ∧ c.SyncwordFits) := by
  have hback := timestampFrom_timestampOf_iff ts.tsSec hmicros
  cases c with
  | schedPacket pPacket length =>
    obtain ⟨x,-,-,hbuilt⟩ := schedPacket_build m pPacket hlength ts
    refine ⟨Iff.trans ?_ (and_iff_left trivial).symm,Iff.trans ?_ (and_iff_left trivial).symm⟩
    · refine Iff.trans ?_ hback
      exact forall_iff_of_default fun s => schedPacket_readsBack_iff hlength s
    · exact storesExactly_iff hbuilt (by rw [TimedCall.timestamp, FullMessage.put_msg_self])
  | jammed =>
    refine ⟨Iff.trans ?_ (and_iff_left trivial).symm,Iff.trans ?_ (and_iff_left trivial).symm⟩
    · refine Iff.trans ?_ hback
      exact forall_iff_of_default fun s => jammed_readsBack_iff s
    · exact storesExactly_iff (jammed_build m ts) (by rw [TimedCall.timestamp, FullMessage.put_msg_self])
  | packetReceived frequency rssi payload length syncword syncwordLength deviation datarate endianness modulation =>
    constructor
    · refine Iff.trans ?_ (and_congr_left' hback)
      exact forall_iff_of_default fun s => packetReceived_readsBack_iff hlength s
    · by_cases hsyncword : 0 ≤ syncwordLength ∧ syncwordLength ≤ 8 ∧ (0 < syncwordLength → syncword.isSome)
      · obtain ⟨x,y,-,-,hbuilt⟩ := packetReceived_build m frequency rssi ts payload deviation datarate endianness
          modulation hlength hsyncword
        refine Iff.trans (storesExactly_iff hbuilt ?_) (and_iff_left hsyncword).symm
        rw [TimedCall.timestamp, FullMessage.put_msg_self]
        exact (received_timestamp ts).1
      · refine iff_of_false ?_ fun h => hsyncword h.2
        rintro ⟨m',hbuilt,-⟩
        exact hsyncword (syncwordFits_of_packetReceived hbuilt)

/-- A minute before the limit. -/
theorem timestamps_roundTrip_before : TimedCall.jammed.RoundTrips default ⟨4234,967295⟩ :=
  (timestamps_roundTrip_iff .jammed default ⟨4234,967295⟩ (Nat.zero_le _) (by decide)).1.mpr ⟨by decide,trivial⟩

/-- After 4295 seconds the number has wrapped. -/
theorem not_timestamps_roundTrip : ¬∀ (c : TimedCall) (m : FullMessage) (ts : PhyTimestamp), c.length ≤ 255 →
    ts.tsUsec.toNat < 1000000 → c.RoundTrips m ts ∧ c.StoresExactly m ts := by
  intro hall
  obtain ⟨-,m',hbuilt,hexact⟩ := hall .jammed default ⟨4295,0⟩ (Nat.zero_le _) (by decide)
  obtain ⟨-,hm⟩ := Prod.mk.inj (Option.some.inj ((jammed_build default ⟨4295,0⟩).symm.trans hbuilt))
  obtain rfl := Option.some.inj hm
  rw [TimedCall.timestamp, FullMessage.put_msg_self] at hexact
  exact absurd hexact (by decide)

end
end WhadLib.Phy
