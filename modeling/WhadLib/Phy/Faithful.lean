import WhadLib.Phy.Wrappers

/-! Which messages of the PHY domain the wrapper classes leave as they were. -/
namespace WhadLib.Phy
open Library Cpp

/-- The wrapper classes. -/
inductive PhyWrapper
  | jamMode | jammed | monitorMode | packetReceived | schedulePacket | packetScheduled | scheduledPacketSent
  | sendPacket | set4FskMod | setAskMod | setBpskMod | setDatarate | setEndianness | setFreq | setFskMod
  | setGfskMod | setLoraMod | setMskMod | setPacketSize | setQpskMod | setSyncWord | setTxPower | sniffMode
  | start | stop | supportedFreqsResp
  deriving DecidableEq, Repr

namespace PhyWrapper

def wrapperClass : PhyWrapper → WrapperClass
  | .jamMode => Wrapper.jamMode
  | .jammed => Wrapper.jammed
  | .monitorMode => Wrapper.monitorMode
  | .packetReceived => Wrapper.packetReceived
  | .schedulePacket => Wrapper.schedulePacket
  | .packetScheduled => Wrapper.packetScheduled
  | .scheduledPacketSent => Wrapper.scheduledPacketSent
  | .sendPacket => Wrapper.sendPacket
  | .set4FskMod => Wrapper.set4FskMod
  | .setAskMod => Wrapper.setAskMod
  | .setBpskMod => Wrapper.setBpskMod
  | .setDatarate => Wrapper.setDatarate
  | .setEndianness => Wrapper.setEndianness
  | .setFreq => Wrapper.setFreq
  | .setFskMod => Wrapper.setFskMod
  | .setGfskMod => Wrapper.setGfskMod
  | .setLoraMod => Wrapper.setLoraMod
  | .setMskMod => Wrapper.setMskMod
  | .setPacketSize => Wrapper.setPacketSize
  | .setQpskMod => Wrapper.setQpskMod
  | .setSyncWord => Wrapper.setSyncWord
  | .setTxPower => Wrapper.setTxPower
  | .sniffMode => Wrapper.sniffMode
  | .start => Wrapper.start
  | .stop => Wrapper.stop
  | .supportedFreqsResp => Wrapper.supportedFreqsResp

end PhyWrapper

/-- The messages that a class leaves as they were. -/
def PhyWrapper.Keeps : PhyWrapper → FullMessage → Prop
  | .jammed, m => (Jammed.timestamp (m.msg (.phy .jammed))).toNat < 2^32
  | .schedulePacket, m => (ScheduleSendCmd.timestamp (m.msg (.phy .schedSend))).toNat < 2^32
  | .packetScheduled, m =>
    let p : SchedulePacketResp := m.msg (.phy .schedPktRsp)
    p.id.toUInt32.toNat < 256 ∧ (p.full.has = true → p.full.value = true)
  | .scheduledPacketSent, m => 0 ≤ (SchedulePacketSent.id (m.msg (.phy .schedPktSent))).toInt
  | .sniffMode, m => (SniffCmd.iqStream (m.msg (.phy .sniff))).has = true
  | .packetReceived, _ => False
  | .supportedFreqsResp, _ => False
  | _, _ => True

namespace Wrapper
variable {m : FullMessage}

/-! Numbers. -/

/-- Seconds and microseconds make up the lower half of what they were taken from. -/
theorem timestampOf_timestampFrom (t : UInt64) :
    timestampOf (timestampFrom t).tsSec (timestampFrom t).tsUsec = t.toUInt32.toUInt64 := by
  have hsplit : t/1000000*1000000 + t%1000000 = t := by
    apply UInt64.toNat_inj.mp
    have hlt := t.toNat_lt
    rw [UInt64.toNat_add, UInt64.toNat_mul, UInt64.toNat_div, UInt64.toNat_mod,
      show (1000000 : UInt64).toNat = 1000000 from rfl]
    omega
  have hhalf := congrArg UInt64.toUInt32 hsplit
  rw [UInt64.toUInt32_add, UInt64.toUInt32_mul] at hhalf
  exact congrArg UInt32.toUInt64 hhalf

theorem micros_timestampFrom {t : UInt64} (h : t.toNat < 2^32) : (timestampFrom t).micros = t.toNat := by
  simp only [timestampFrom, PhyTimestamp.micros, UInt64.toNat_toUInt32, UInt64.toNat_div, UInt64.toNat_mod,
    show (1000000 : UInt64).toNat = 1000000 from rfl]
  omega

/-- A timestamp of zero is packed like any other. -/
theorem jammed_timestamp (ts : PhyTimestamp) :
    (if 0 < ts.tsSec ∨ 0 < ts.tsUsec then timestampOf ts.tsSec ts.tsUsec else 0) = timestampOf ts.tsSec ts.tsUsec := by
  obtain ⟨sec,usec⟩ := ts
  by_cases h : 0 < sec ∨ 0 < usec
  · exact if_pos h
  · rw [UInt32.pos_iff_ne_zero, UInt32.pos_iff_ne_zero, not_or, not_not, not_not] at h
    obtain ⟨rfl,rfl⟩ := h
    rfl

theorem toNat_toUInt32_iff (i : Int32) : (i.toUInt32.toNat : ℤ) = i.toInt ↔ 0 ≤ i.toInt := by
  have h := toInt_eq i
  have hlt := i.toUInt32.toNat_lt
  split at h <;> omega

theorem jammed_faithful_iff (hown : m.Holds (.phy .jammed)) : jammed.Faithful m ↔ PhyWrapper.jammed.Keeps m := by
  let p : Jammed := m.msg (.phy .jammed)
  refine (WrapperClass.unpacking_faithful_iff hown (fun _ => rfl) (fun _ => rfl)).trans ?_
  have hwire : Kind.wire (.phy .jammed) ⟨if 0 < (timestampFrom p.timestamp).tsSec ∨ 0 < (timestampFrom p.timestamp).tsUsec then
      timestampOf (timestampFrom p.timestamp).tsSec (timestampFrom p.timestamp).tsUsec else 0⟩ =
        Kind.wire (.phy .jammed) p ↔ p.timestamp.toNat < 2^32 := by
    rw [jammed_timestamp, timestampOf_timestampFrom, ← toUInt32_toUInt64_iff]
    simp [Kind.wire, PhyKind.wire, Jammed.wire]
  constructor
  · intro h
    exact hwire.mp (h default).1
  · intro h _
    exact ⟨hwire.mpr h,micros_timestampFrom h⟩

theorem packetScheduled_faithful_iff (hown : m.Holds (.phy .schedPktRsp)) :
    packetScheduled.Faithful m ↔ PhyWrapper.packetScheduled.Keeps m := by
  let p : SchedulePacketResp := m.msg (.phy .schedPktRsp)
  refine (WrapperClass.unpacking_faithful_iff hown (fun _ => rfl) (fun _ => rfl)).trans ?_
  have hid : p.id.toUInt32.toUInt8.toUInt32.toInt32 = p.id ↔ p.id.toUInt32.toNat < 256 := by
    rw [← toUInt8_toUInt32_iff]
    constructor
    · intro h
      exact congrArg Int32.toUInt32 h
    · intro h
      exact congrArg UInt32.toInt32 h
  have hfull : value (if (if p.full.has = true then p.full.value else false) = true then ⟨true,true⟩
      else { p.full with has := false } : OptionalField Bool) = value p.full ↔ (p.full.has = true → p.full.value = true) := by
    obtain ⟨has,v⟩ := p.full
    cases has <;> cases v <;> simp
  have hwire : Kind.wire (.phy .schedPktRsp) ⟨p.id.toUInt32.toUInt8.toUInt32.toInt32,
      if (if p.full.has = true then p.full.value else false) = true then ⟨true,true⟩ else { p.full with has := false }⟩ =
        Kind.wire (.phy .schedPktRsp) p ↔ PhyWrapper.packetScheduled.Keeps m := by
    simp only [Kind.wire, PhyKind.wire, SchedulePacketResp.wire, Wire.field.injEq, true_and, and_true, value_int32_inj]
    rw [hid, hfull]
    rfl
  constructor
  · intro h
    exact hwire.mp (h default).1
  · intro h _
    refine ⟨hwire.mpr h,?_,fun hhas => if_pos hhas⟩
    have hlt : p.id.toUInt32.toNat < 256 := h.1
    have htoNat : p.id.toUInt32.toUInt8.toNat = p.id.toUInt32.toNat := by
      rw [UInt32.toNat_toUInt8]
      exact Nat.mod_eq_of_lt hlt
    have hint := toInt_eq p.id
    rw [if_pos (by omega)] at hint
    rw [hint]
    exact congrArg Nat.cast htoNat

theorem scheduledPacketSent_faithful_iff (hown : m.Holds (.phy .schedPktSent)) :
    scheduledPacketSent.Faithful m ↔ PhyWrapper.scheduledPacketSent.Keeps m := by
  let p : SchedulePacketSent := m.msg (.phy .schedPktSent)
  refine (WrapperClass.unpacking_faithful_iff hown (fun _ => rfl) (fun _ => rfl)).trans ?_
  constructor
  · intro h
    exact (toNat_toUInt32_iff p.id).mp (h 0).2
  · intro h _
    exact ⟨rfl,(toNat_toUInt32_iff p.id).mpr h⟩

theorem sniffMode_faithful_iff (hown : m.Holds (.phy .sniff)) : sniffMode.Faithful m ↔ PhyWrapper.sniffMode.Keeps m := by
  let p : SniffCmd := m.msg (.phy .sniff)
  refine (WrapperClass.unpacking_faithful_iff hown (fun _ => rfl) (fun _ => rfl)).trans ?_
  have hwire : Kind.wire (.phy .sniff) ⟨⟨true,if p.iqStream.has = true then p.iqStream.value else false⟩⟩ =
      Kind.wire (.phy .sniff) p ↔ p.iqStream.has = true := by
    simp only [Kind.wire, PhyKind.wire, SniffCmd.wire, Wire.field.injEq, true_and, and_true, value_optional_iff,
      value_bool_inj]
    constructor
    · rintro ⟨h,-⟩
      exact h.symm
    · intro h
      exact ⟨h.symm,fun _ => if_pos h⟩
  constructor
  · intro h
    exact hwire.mp (h false).1
  · intro h _
    exact ⟨hwire.mpr h,fun hhas => if_pos hhas⟩

theorem monitorMode_faithful : monitorMode.Faithful m := by
  rintro s m₁ o ⟨rfl⟩
  exact ⟨⟨m,rfl,sameWire_refl m⟩,trivial⟩

/-- The pointer may be `NULL`. -/
theorem supportedFreqsResp_not_faithful : ¬supportedFreqsResp.Faithful m := by
  intro h
  obtain ⟨⟨m₂,hm₂,-⟩,-⟩ := h ⟨none,none⟩ m _ rfl
  contradiction

/-! Packets and sync words. -/

theorem loadPacket_spec (s : PhyPacket) {x : BytesArray 255} (hx : x.size ≤ 255) :
    ∃ payload, loadPacket x s = some ⟨payload,x.size⟩ ∧ (bufferOf payload).take x.size = (bufferOf x.bytes).take x.size := by
  have hfits : x.size ≤ 256 := by omega
  obtain ⟨payload,hpayload,htake⟩ := exists_memcpy s.payload (bufferOf x.bytes) hfits
  refine ⟨payload,?_,htake⟩
  unfold loadPacket
  simp only [hpayload]
  split
  · rfl
  · rename_i hlength
    exact absurd (show (x.size : ℤ) < 256 by omega) hlength

/-- What the parser loads fits in a packet, which reads as it. -/
theorem exists_packet {x : BytesArray 255} {payload : Vector UInt8 256} (hx : x.size ≤ 255)
    (htake : (bufferOf payload).take x.size = (bufferOf x.bytes).take x.size) :
    ∃ packet : Packet 255, Packet.setBytes (bufferOf payload) x.size = some packet ∧
      ReadsAs x packet.getBytes packet.getSize := by
  obtain ⟨packet,hpacket⟩ := Packet.setBytes_of_le (n := 255) (bufferOf payload) hx
  exact ⟨packet,hpacket,(readsAs_of_take hx htake).setBytes hpacket⟩

section
attribute [local irreducible] FullMessage.build

theorem sendPacket_faithful (hm : Decoded m) (hown : m.Holds (.phy .send)) : sendPacket.Faithful m := by
  let p : SendCmd := m.msg (.phy .send)
  have hsize : p.packet.size ≤ 255 := (accepted_bytes_iff _).mp (hm.accepted _ hown).1
  refine (WrapperClass.faithful_iff_of (c := sendPacket) hown (default : PhyPacket) fun s => ?_).mpr trivial
  obtain ⟨payload,hpayload,htake⟩ := loadPacket_spec s hsize
  obtain ⟨packet,hpacket,hreads⟩ := exists_packet hsize htake
  obtain ⟨z,hz,-,hvalue⟩ := hreads.fill (by omega) p.packet
  have hparsed : parsedBy (whadPhySendParse (some m) (some s)) = some ⟨payload,p.packet.size⟩ := by
    refine parsedBy_parse ?_
    change (loadPacket p.packet s).bind _ = _
    rw [hpayload]
    rfl
  refine ⟨packet,⟨z⟩,?_,?_,iff_of_true ⟨?_,hreads⟩ trivial⟩
  · simp only [sendPacket, hparsed, Option.bind_eq_bind, Option.bind_some, hpacket]
  · have hmax : ¬255 < packet.getSize := by
      rw [hreads.size]
      omega
    refine (congrArg packed (if_neg hmax)).trans (packed_build (r := .success) ?_)
    change (p.packet.fill packet.getBytes packet.getSize).bind _ = _
    rw [hz]
    rfl
  · simp only [sendPacket, Kind.wire, PhyKind.wire, SendCmd.wire, hvalue]
    rfl

theorem schedulePacket_faithful_iff (hm : Decoded m) (hown : m.Holds (.phy .schedSend)) :
    schedulePacket.Faithful m ↔ PhyWrapper.schedulePacket.Keeps m := by
  let p : ScheduleSendCmd := m.msg (.phy .schedSend)
  have hsize : p.packet.size ≤ 255 := (accepted_bytes_iff _).mp (hm.accepted _ hown).1
  refine WrapperClass.faithful_iff_of (c := schedulePacket) hown (default : PhySchedPacket) fun s => ?_
  obtain ⟨payload,hpayload,htake⟩ := loadPacket_spec s.packet hsize
  obtain ⟨packet,hpacket,hreads⟩ := exists_packet hsize htake
  obtain ⟨z,hz,-,hvalue⟩ := hreads.fill (by omega) p.packet
  have hparsed : parsedBy (whadPhySchedPacketParse (some m) (some s)) =
      some ⟨⟨payload,p.packet.size⟩,timestampFrom p.timestamp⟩ := by
    refine parsedBy_parse ?_
    change (loadPacket p.packet s.packet).bind _ = _
    rw [hpayload]
    rfl
  refine ⟨⟨packet,timestampFrom p.timestamp⟩,⟨z,p.timestamp.toUInt32.toUInt64⟩,?_,?_,?_⟩
  · simp only [schedulePacket, hparsed, Option.bind_eq_bind, Option.bind_some, hpacket]
  · have hmax : ¬255 < packet.getSize := by
      rw [hreads.size]
      omega
    refine (congrArg packed (if_neg hmax)).trans (packed_build (r := .success) ?_)
    change (p.packet.fill packet.getBytes packet.getSize).bind _ = _
    rw [hz, ← timestampOf_timestampFrom]
    rfl
  · have hwire : Kind.wire (.phy .schedSend) ⟨z,p.timestamp.toUInt32.toUInt64⟩ = Kind.wire (.phy .schedSend) p ↔
        p.timestamp.toNat < 2^32 := by
      simp only [Kind.wire, PhyKind.wire, ScheduleSendCmd.wire, Wire.field.injEq, true_and, and_true, hvalue,
        value_uint64_inj, toUInt32_toUInt64_iff]
    change (Kind.wire (.phy .schedSend) _ = Kind.wire (.phy .schedSend) p ∧ _) ↔ _
    rw [hwire]
    exact and_iff_left_of_imp fun h => ⟨hreads,micros_timestampFrom h⟩

theorem setSyncWord_faithful (hm : Decoded m) (hown : m.Holds (.phy .syncWord)) : setSyncWord.Faithful m := by
  let p : SetSyncWordCmd := m.msg (.phy .syncWord)
  have hsize : p.syncWord.size ≤ 10 := (accepted_bytes_iff _).mp (hm.accepted _ hown).1
  have hnat : (UInt8.ofNat p.syncWord.size).toNat = p.syncWord.size := toNat_uint8_ofNat (by omega)
  refine (WrapperClass.faithful_iff_of (c := setSyncWord) hown (.empty,default) fun s => ?_).mpr trivial
  obtain ⟨loaded,hloaded,hloadedtake⟩ := exists_memcpy s.2.syncword (bufferOf p.syncWord.bytes) hsize
  obtain ⟨bytes,hbytes,htake⟩ := exists_memcpy s.1.syncword (bufferOf loaded) hsize
  have hreads : ReadsAs p.syncWord (bufferOf bytes) p.syncWord.size := readsAs_of_take hsize (htake.trans hloadedtake)
  obtain ⟨z,hz,-,hvalue⟩ := hreads.fill (by omega) p.syncWord
  have hparsed : parsedBy (whadPhySetSyncWordParse (some m) (some s.2)) = some ⟨loaded,p.syncWord.size⟩ := by
    refine parsedBy_parse ?_
    change (memcpy s.2.syncword (bufferOf p.syncWord.bytes) p.syncWord.size).bind _ = _
    rw [hloaded]
    rfl
  have hword : SyncWord.ofBytes s.1 (bufferOf loaded) (UInt8.ofNat p.syncWord.size) =
      some ⟨bytes,UInt8.ofNat p.syncWord.size⟩ := by
    have hmax : UInt8.ofNat p.syncWord.size ≤ 10 := by
      rw [UInt8.le_iff_toNat_le, hnat]
      exact hsize
    refine (if_pos hmax).trans ?_
    rw [hnat, hbytes]
    rfl
  refine ⟨⟨bytes,UInt8.ofNat p.syncWord.size⟩,⟨z⟩,?_,?_,iff_of_true ⟨?_,?_⟩ trivial⟩
  · simp only [setSyncWord, hparsed, Option.bind_eq_bind, Option.bind_some, Int.toNat_natCast, hword]
  · have hmax : ¬10 < ((UInt8.ofNat p.syncWord.size).toNat : ℤ) := by
      rw [hnat]
      omega
    refine (congrArg packed (if_neg hmax)).trans (packed_build (r := .success) ?_)
    change (p.syncWord.fill (bufferOf bytes) (UInt8.ofNat p.syncWord.size).toNat).bind _ = _
    rw [hnat, hz]
    rfl
  · simp only [setSyncWord, Kind.wire, PhyKind.wire, SetSyncWordCmd.wire, hvalue]
    rfl
  · change ReadsAs p.syncWord (bufferOf bytes) (UInt8.ofNat p.syncWord.size).toNat
    rw [hnat]
    exact hreads

/-- The deviation that lies in memory is packed. -/
theorem packetReceived_not_faithful (hm : Decoded m) (hown : m.Holds (.phy .packet)) : ¬packetReceived.Faithful m := by
  let p : Phy.PacketReceived := m.msg (.phy .packet)
  have hsize : p.packet.size ≤ 255 := (accepted_bytes_iff _).mp (hm.accepted _ hown).2.2.2.1
  let s : PacketReceived × PhyReceivedPacket := (⟨0,0,⟨0,0⟩,.empty,.empty,⟨0⟩,0,p.deviation+1,⟨0⟩⟩,default)
  let ts : PhyTimestamp := if p.timestamp.has then timestampFrom p.timestamp.value else ⟨0,0⟩
  obtain ⟨payload,hpayload,htake⟩ :=
    exists_memcpy s.2.packet.payload (bufferOf p.packet.bytes) (show p.packet.size ≤ 256 by omega)
  obtain ⟨packet,hpacket,hreads⟩ := exists_packet hsize htake
  obtain ⟨z,hz,-,-⟩ := hreads.fill (by omega) p.packet
  obtain ⟨w,hw⟩ := p.syncword.exists_fill (bufferOf SyncWord.empty.syncword) le_rfl (by omega)
  have hparsed : parsedBy (whadPhyPacketReceivedParse (some m) (some s.2)) =
      some ⟨p.frequency,p.rssi.value,ts,⟨payload,p.packet.size⟩⟩ := by
    refine parsedBy_parse ?_
    dsimp only
    split
    · exact congrArg (fun copied => Option.bind copied _) hpayload
    · rename_i hlength
      exact absurd (show (p.packet.size : ℤ) < 256 by omega) hlength
  let o : PacketReceived := { s.1 with
    frequency := p.frequency, rssi := p.rssi.value, timestamp := ts, packet := packet, syncword := .empty }
  have hc : packetReceived.construct m s = some (m,o) := by
    simp only [packetReceived, hparsed, Option.bind_eq_bind, Option.bind_some, hpacket]
    rfl
  have hpack : packetReceived.pack m o = some (m.put (.phy .packet) { p with
      timestamp := if 0 < ts.tsSec ∨ 0 < ts.tsUsec then ⟨true,timestampOf ts.tsSec ts.tsUsec⟩ else ⟨false,0⟩
      rssi := ⟨true,p.rssi.value⟩, packet := z, syncword := w, deviation := p.deviation+1, datarate := 0
      endian := ⟨0⟩, modulation := ⟨0⟩ }) := by
    refine packed_build (r := .success) ?_
    have hmax : ¬255 < packet.getSize := by
      rw [hreads.size]
      omega
    change (p.packet.fill packet.getBytes (if 255 < packet.getSize then 255 else packet.getSize)).bind _ = _
    rw [if_neg hmax, hz, Option.bind_some]
    change (p.syncword.fill (bufferOf SyncWord.empty.syncword) 0).bind _ = _
    rw [hw]
    rfl
  refine WrapperClass.not_faithful hc hpack hown ?_
  simp [Kind.wire, PhyKind.wire, PacketReceived.wire, p]

end

end Wrapper

section
open Wrapper
variable {m : FullMessage}

/-- A class leaves the messages as they were that it keeps, and no others. -/
theorem phyWrapper_faithful_iff (w : PhyWrapper) (hm : Decoded m) (hown : m.Holds w.wrapperClass.kind) :
    w.wrapperClass.Faithful m ↔ w.Keeps m := by
  cases w
  case jammed => exact jammed_faithful_iff hown
  case schedulePacket => exact schedulePacket_faithful_iff hm hown
  case packetScheduled => exact packetScheduled_faithful_iff hown
  case scheduledPacketSent => exact scheduledPacketSent_faithful_iff hown
  case sniffMode => exact sniffMode_faithful_iff hown
  -- classes that break every message
  case packetReceived => exact iff_of_false (packetReceived_not_faithful hm hown) id
  case supportedFreqsResp => exact iff_of_false supportedFreqsResp_not_faithful id
  -- classes that break none
  all_goals refine iff_of_true ?_ trivial
  case sendPacket => exact sendPacket_faithful hm hown
  case setSyncWord => exact setSyncWord_faithful hm hown
  case monitorMode => exact monitorMode_faithful
  case setBpskMod => exact WrapperClass.plain_faithful hown rfl
  case start => exact WrapperClass.plain_faithful hown rfl
  case stop => exact WrapperClass.plain_faithful hown rfl
  case jamMode => exact WrapperClass.unpacking_faithful hown (fun _ => rfl) (fun _ => rfl) fun _ => ⟨rfl,rfl⟩
  case set4FskMod => exact WrapperClass.unpacking_faithful hown (fun _ => rfl) (fun _ => rfl) fun _ => ⟨rfl,rfl⟩
  case setAskMod => exact WrapperClass.unpacking_faithful hown (fun _ => rfl) (fun _ => rfl) fun _ => ⟨rfl,rfl⟩
  case setDatarate => exact WrapperClass.unpacking_faithful hown (fun _ => rfl) (fun _ => rfl) fun _ => ⟨rfl,rfl⟩
  case setEndianness => exact WrapperClass.unpacking_faithful hown (fun _ => rfl) (fun _ => rfl) fun _ => ⟨rfl,rfl⟩
  case setFreq => exact WrapperClass.unpacking_faithful hown (fun _ => rfl) (fun _ => rfl) fun _ => ⟨rfl,rfl⟩
  case setFskMod => exact WrapperClass.unpacking_faithful hown (fun _ => rfl) (fun _ => rfl) fun _ => ⟨rfl,rfl⟩
  case setGfskMod => exact WrapperClass.unpacking_faithful hown (fun _ => rfl) (fun _ => rfl) fun _ => ⟨rfl,rfl⟩
  case setMskMod => exact WrapperClass.unpacking_faithful hown (fun _ => rfl) (fun _ => rfl) fun _ => ⟨rfl,rfl⟩
  case setQpskMod => exact WrapperClass.unpacking_faithful hown (fun _ => rfl) (fun _ => rfl) fun _ => ⟨rfl,rfl⟩
  case setTxPower => exact WrapperClass.unpacking_faithful hown (fun _ => rfl) (fun _ => rfl) fun _ => ⟨rfl,rfl⟩
  case setPacketSize => exact WrapperClass.unpacking_faithful hown (fun _ => rfl) (fun _ => rfl) fun _ => ⟨rfl,rfl⟩
  case setLoraMod =>
    exact WrapperClass.unpacking_faithful hown (fun _ => rfl) (fun _ => rfl) fun _ => ⟨rfl,rfl,rfl,rfl,rfl,rfl,rfl,rfl⟩

end
end WhadLib.Phy
