import WhadLib.Exchange
import WhadLib.Phy.RoundTrip

/-! The commands and notifications of the PHY domain: the other side reads the arguments of the builder, if packet,
sync word and time fit. -/
namespace WhadLib.Phy
open Library

/-- The calls of the builders, with pointers that are not `NULL`, but for the sync word of a received packet. -/
inductive PhyCommand
  | setAskMod (onOffKeying : Bool)
  | setFskMod (deviation : UInt32)
  | set4fskMod (deviation : UInt32)
  | setGfskMod (deviation : UInt32)
  | setQpskMod (offset : Bool)
  | setMskMod (deviation : UInt32)
  | setLoraMod (bandwidth : UInt32) (spreadingFactor : EnumField LoRaSpreadingFactor)
      (codingRate : EnumField LoRaCodingRate) (preambleLength : UInt32) (enableCrc explicitMode invertIq : Bool)
  | setFreq (frequency : UInt32)
  | setDatarate (datarate : UInt32)
  | setEndianness (endianness : EnumField Endianness)
  | setTxPower (txPower : EnumField TXPower)
  | setPacketSize (size : UInt32)
  | setSyncWord (pSyncword : Buffer) (length : ℤ)
  | sniffMode (iqStream : Bool)
  | jamMode (mode : EnumField JammingMode)
  | send (pPacket : Buffer) (length : ℤ)
  | schedPacket (pPacket : Buffer) (length : ℤ) (ts : PhyTimestamp)
  | jammed (ts : PhyTimestamp)
  | schedPacketSent (packetId : UInt32)
  | packetScheduled (id : UInt8) (full : Bool)

namespace PhyCommand

def builder : PhyCommand → PhyBuilder
  | setAskMod onOffKeying => .setAskMod onOffKeying
  | setFskMod deviation => .setFskMod deviation
  | set4fskMod deviation => .set4fskMod deviation
  | setGfskMod deviation => .setGfskMod deviation
  | setQpskMod offset => .setQpskMod offset
  | setMskMod deviation => .setMskMod deviation
  | setLoraMod bandwidth spreadingFactor codingRate preambleLength enableCrc explicitMode invertIq =>
    .setLoraMod bandwidth spreadingFactor codingRate preambleLength enableCrc explicitMode invertIq
  | setFreq frequency => .setFreq frequency
  | setDatarate datarate => .setDatarate datarate
  | setEndianness endianness => .setEndianness endianness
  | setTxPower txPower => .setTxPower txPower
  | setPacketSize size => .setPacketSize size
  | setSyncWord pSyncword length => .setSyncWord (some pSyncword) length
  | sniffMode iqStream => .sniffMode iqStream
  | jamMode mode => .jamMode mode
  | send pPacket length => .send (some pPacket) length
  | schedPacket pPacket length ts => .schedPacket (some pPacket) length ts.tsSec ts.tsUsec
  | jammed ts => .jammed ts.tsSec ts.tsUsec
  | schedPacketSent packetId => .schedPacketSent packetId
  | packetScheduled id full => .packetScheduled id full

/-- The parser of the command returns its arguments. -/
def Returned : PhyCommand → FullMessage → Prop
  | setAskMod onOffKeying => Returns whadPhySetAskModParse (· = onOffKeying)
  | setFskMod deviation => Returns whadPhySetFskModParse (· = deviation)
  | set4fskMod deviation => Returns whadPhySet4fskModParse (· = deviation)
  | setGfskMod deviation => Returns whadPhySetGfskModParse (· = deviation)
  | setQpskMod offset => Returns whadPhySetQpskModParse (· = offset)
  | setMskMod deviation => Returns whadPhySetMskModParse (· = deviation)
  | setLoraMod bandwidth spreadingFactor codingRate preambleLength enableCrc explicitMode invertIq =>
    Returns whadPhySetLoraModParse
      (· = ⟨bandwidth,spreadingFactor,codingRate,preambleLength,enableCrc,explicitMode,invertIq⟩)
  | setFreq frequency => Returns whadPhySetFreqParse (· = frequency)
  | setDatarate datarate => Returns whadPhySetDatarateParse (· = datarate)
  | setEndianness endianness => Returns whadPhySetEndiannessParse (· = endianness)
  | setTxPower txPower => Returns whadPhySetTxPowerParse (· = txPower)
  | setPacketSize size => Returns whadPhySetPacketSizeParse (· = size)
  | setSyncWord pSyncword length =>
    Returns whadPhySetSyncWordParse fun r => SameBytes pSyncword length.toNat (bufferOf r.syncword) r.length
  | sniffMode iqStream => Returns whadPhySniffModeParse (· = iqStream)
  | jamMode mode => Returns whadPhyJamModeParse (· = mode)
  | send pPacket length =>
    Returns whadPhySendParse fun r => SameBytes pPacket length.toNat (bufferOf r.payload) r.length
  | schedPacket pPacket length ts => Returns whadPhySchedPacketParse fun r =>
      r.ts = ts ∧ SameBytes pPacket length.toNat (bufferOf r.packet.payload) r.packet.length
  | jammed ts => Returns whadPhyJammedParse (· = ts)
  | schedPacketSent packetId => Returns whadPhySchedPacketSentParse (· = packetId)
  | packetScheduled id full => Returns whadPhyPacketScheduledParse (· = ⟨id,full⟩)

/-- The numbers of the enumerations among the arguments have their 32 bits, and the microseconds of a time are less
than a second. -/
def Narrow : PhyCommand → Prop
  | setLoraMod _ spreadingFactor codingRate .. => spreadingFactor.Narrow ∧ codingRate.Narrow
  | setEndianness endianness => endianness.Narrow
  | setTxPower txPower => txPower.Narrow
  | jamMode mode => mode.Narrow
  | schedPacket _ _ ts => ts.tsUsec.toNat < 1000000
  | jammed ts => ts.tsUsec.toNat < 1000000
  | _ => True

/-- Sync word, packet and time among the arguments fit. -/
def Fits : PhyCommand → Prop
  | setSyncWord _ length => 0 ≤ length ∧ length ≤ 10
  | send _ length => 0 ≤ length ∧ length ≤ 255
  | schedPacket _ length ts => (0 ≤ length ∧ length ≤ 255) ∧ ts.Fits
  | jammed ts => ts.Fits
  | _ => True

end PhyCommand

section
variable {pPacket : Buffer} {length : ℤ}

/-! What the builders with a counted array store. -/

def storeSyncWord (pSyncword : Buffer) (length : ℤ) (p : SetSyncWordCmd) : Option (WhadResult × SetSyncWordCmd) := do
  let syncWord ← p.syncWord.fill pSyncword length
  done { p with syncWord := syncWord }

def storeSend (pPacket : Buffer) (length : ℤ) (p : SendCmd) : Option (WhadResult × SendCmd) := do
  let packet ← p.packet.fill pPacket length
  done { p with packet := packet }

def storeSchedSend (pPacket : Buffer) (length : ℤ) (ts : PhyTimestamp) (p : ScheduleSendCmd) :
    Option (WhadResult × ScheduleSendCmd) := do
  let packet ← p.packet.fill pPacket length
  done { p with packet := packet, timestamp := timestampOf ts.tsSec ts.tsUsec }

/-- A builder that refuses what is too long succeeds only with what fits. -/
theorem bounds_of_success {k : Kind} {n : ℕ} {body : k.Struct → Option (WhadResult × k.Struct)} {x : k.Struct → BytesArray n}
    {m built : FullMessage} (hbody : ∀ p q, body p = done q → ∃ y, (x p).fill pPacket length = some y)
    (h : (if (n : ℤ) < length then refuse (some m) else m.build k body) = some (.success, some built)) :
    0 ≤ length ∧ length ≤ n := by
  rcases ite_eq_iff.mp h with ⟨-,hrefused⟩ | ⟨-,hbuilt⟩
  · simp [refuse] at hrefused
  · obtain ⟨q,hq,-⟩ := FullMessage.build_eq_some_iff.mp hbuilt
    obtain ⟨y,hy⟩ := hbody _ q hq
    exact bounds_of_fill hy

/-- A body that goes on with a filled array has filled it. -/
theorem fill_of_store {P : Type} {n : ℕ} {x : BytesArray n} {rest : BytesArray n → Option (WhadResult × P)} {q : P}
    (h : (x.fill pPacket length).bind rest = done q) : ∃ y, x.fill pPacket length = some y := by
  obtain ⟨y,hy,-⟩ := Option.bind_eq_some_iff.mp h
  exact ⟨y,hy⟩

/-! What their parsers load. -/

def loadSyncWord (p : SetSyncWordCmd) (s : PhySyncword) : Option (WhadResult × PhySyncword) := do
  let syncword ← memcpy s.syncword (bufferOf p.syncWord.bytes) p.syncWord.size
  done ⟨syncword,p.syncWord.size⟩

def loadSend (p : SendCmd) (s : PhyPacket) : Option (WhadResult × PhyPacket) := do
  let packet ← loadPacket p.packet s
  done packet

def loadSchedSend (p : ScheduleSendCmd) (s : PhySchedPacket) : Option (WhadResult × PhySchedPacket) := do
  let packet ← loadPacket p.packet s.packet
  done ⟨packet,timestampFrom p.timestamp⟩

theorem syncWord_stored (h : 0 ≤ length ∧ length ≤ 10) (pSyncword : Buffer) (old : SetSyncWordCmd) :
    ∃ p, storeSyncWord pSyncword length old = done p ∧ p.wire.Intact ∧
      ∀ s, ∃ r, loadSyncWord p s = done r ∧ SameBytes pSyncword length.toNat (bufferOf r.syncword) r.length := by
  obtain ⟨x,hx,hsame,hsize⟩ := exists_fill_of_bounds old.syncWord pSyncword h (by decide)
  refine ⟨⟨x⟩,congrArg (fun filled => Option.bind filled _) hx,by simpa [SetSyncWordCmd.wire] using hsize,fun s => ?_⟩
  obtain ⟨bytes,hcopy,hbytes⟩ := hsame.exists_memcpy hsize s.syncword
  exact ⟨_,congrArg (fun copied => Option.bind copied _) hcopy,hbytes⟩

theorem send_stored (h : 0 ≤ length ∧ length ≤ 255) (pPacket : Buffer) (old : SendCmd) :
    ∃ p, storeSend pPacket length old = done p ∧ p.wire.Intact ∧
      ∀ s, ∃ r, loadSend p s = done r ∧ SameBytes pPacket length.toNat (bufferOf r.payload) r.length := by
  obtain ⟨x,hx,hsame,hsize⟩ := exists_fill_of_bounds old.packet pPacket h (by decide)
  refine ⟨⟨x⟩,congrArg (fun filled => Option.bind filled _) hx,by simpa [SendCmd.wire] using hsize,fun s => ?_⟩
  obtain ⟨packet,hload,hbytes⟩ := exists_loadPacket s hsame hsize
  refine ⟨packet,?_,hbytes⟩
  simp only [loadSend, hload, bind, Option.bind_some]

theorem schedSend_stored (h : 0 ≤ length ∧ length ≤ 255) (ts : PhyTimestamp) (pPacket : Buffer) (old : ScheduleSendCmd) :
    ∃ p, storeSchedSend pPacket length ts old = done p ∧ p.wire.Intact ∧
      ∀ s, ∃ r, loadSchedSend p s = done r ∧ r.ts = timestampFrom (timestampOf ts.tsSec ts.tsUsec) ∧
        SameBytes pPacket length.toNat (bufferOf r.packet.payload) r.packet.length := by
  obtain ⟨x,hx,hsame,hsize⟩ := exists_fill_of_bounds old.packet pPacket h (by decide)
  refine ⟨⟨x,timestampOf ts.tsSec ts.tsUsec⟩,congrArg (fun filled => Option.bind filled _) hx,
    by simpa [ScheduleSendCmd.wire] using hsize,fun s => ?_⟩
  obtain ⟨packet,hload,hbytes⟩ := exists_loadPacket s.packet hsame hsize
  refine ⟨⟨packet,timestampFrom (timestampOf ts.tsSec ts.tsUsec)⟩,?_,rfl,hbytes⟩
  simp only [loadSchedSend, hload, bind, Option.bind_some]

end

theorem phyCommand_exchanged_iff (c : PhyCommand) (h : c.Narrow) (m : FullMessage) :
    Exchanged (.domain (.phy c.builder)) c.Returned m ↔ c.Fits := by
  cases c with
  | setAskMod =>
    exact iff_of_true ((exchanged_iff whadPhySetAskModParse (fun s => .phy (.setAskMod (some s))) (fun _ _ => ⟨rfl,trivial,id⟩) rfl
      (by simp [Kind.wire, PhyKind.wire, SetASKModulationCmd.wire]) fun _ => rfl).mpr fun _ => rfl) trivial
  | setFskMod =>
    exact iff_of_true ((exchanged_iff whadPhySetFskModParse (fun s => .phy (.setFskMod (some s))) (fun _ _ => ⟨rfl,trivial,id⟩) rfl
      (by simp [Kind.wire, PhyKind.wire, DeviationCmd.wire]) fun _ => rfl).mpr fun _ => rfl) trivial
  | set4fskMod =>
    exact iff_of_true ((exchanged_iff whadPhySet4fskModParse (fun s => .phy (.set4fskMod (some s))) (fun _ _ => ⟨rfl,trivial,id⟩) rfl
      (by simp [Kind.wire, PhyKind.wire, DeviationCmd.wire]) fun _ => rfl).mpr fun _ => rfl) trivial
  | setGfskMod =>
    exact iff_of_true ((exchanged_iff whadPhySetGfskModParse (fun s => .phy (.setGfskMod (some s))) (fun _ _ => ⟨rfl,trivial,id⟩) rfl
      (by simp [Kind.wire, PhyKind.wire, DeviationCmd.wire]) fun _ => rfl).mpr fun _ => rfl) trivial
  | setQpskMod =>
    exact iff_of_true ((exchanged_iff whadPhySetQpskModParse (fun s => .phy (.setQpskMod (some s))) (fun _ _ => ⟨rfl,trivial,id⟩) rfl
      (by simp [Kind.wire, PhyKind.wire, SetQPSKModulationCmd.wire]) fun _ => rfl).mpr fun _ => rfl) trivial
  | setMskMod =>
    exact iff_of_true ((exchanged_iff whadPhySetMskModParse (fun s => .phy (.setMskMod (some s))) (fun _ _ => ⟨rfl,trivial,id⟩) rfl
      (by simp [Kind.wire, PhyKind.wire, DeviationCmd.wire]) fun _ => rfl).mpr fun _ => rfl) trivial
  | setFreq =>
    exact iff_of_true ((exchanged_iff whadPhySetFreqParse (fun s => .phy (.setFreq (some s))) (fun _ _ => ⟨rfl,trivial,id⟩) rfl
      (by simp [Kind.wire, PhyKind.wire, SetFrequencyCmd.wire]) fun _ => rfl).mpr fun _ => rfl) trivial
  | setDatarate =>
    exact iff_of_true ((exchanged_iff whadPhySetDatarateParse (fun s => .phy (.setDatarate (some s))) (fun _ _ => ⟨rfl,trivial,id⟩) rfl
      (by simp [Kind.wire, PhyKind.wire, SetDataRateCmd.wire]) fun _ => rfl).mpr fun _ => rfl) trivial
  | setPacketSize =>
    exact iff_of_true ((exchanged_iff whadPhySetPacketSizeParse (fun s => .phy (.setPacketSize (some s))) (fun _ _ => ⟨rfl,trivial,id⟩) rfl
      (by simp [Kind.wire, PhyKind.wire, SetPacketSizeCmd.wire]) fun _ => rfl).mpr fun _ => rfl) trivial
  | sniffMode =>
    exact iff_of_true ((exchanged_iff whadPhySniffModeParse (fun s => .phy (.sniffMode (some s))) (fun _ _ => ⟨rfl,trivial,id⟩) rfl
      (by simp [Kind.wire, PhyKind.wire, SniffCmd.wire]) fun _ => rfl).mpr fun _ => rfl) trivial
  | schedPacketSent =>
    exact iff_of_true ((exchanged_iff whadPhySchedPacketSentParse (fun s => .phy (.schedPacketSent (some s))) (fun _ _ => ⟨rfl,trivial,id⟩) rfl
      (by simp [Kind.wire, PhyKind.wire, SchedulePacketSent.wire]) fun _ => rfl).mpr fun _ => rfl) trivial
  | setEndianness endianness =>
    have hnarrow : endianness.Narrow := h
    exact iff_of_true ((exchanged_iff whadPhySetEndiannessParse (fun s => .phy (.setEndianness (some s))) (fun _ _ => ⟨rfl,trivial,id⟩) rfl
      (by simpa [Kind.wire, PhyKind.wire, SetEndiannessCmd.wire] using hnarrow) fun _ => rfl).mpr fun _ => rfl) trivial
  | setTxPower txPower =>
    have hnarrow : txPower.Narrow := h
    exact iff_of_true ((exchanged_iff whadPhySetTxPowerParse (fun s => .phy (.setTxPower (some s))) (fun _ _ => ⟨rfl,trivial,id⟩) rfl
      (by simpa [Kind.wire, PhyKind.wire, SetTXPowerCmd.wire] using hnarrow) fun _ => rfl).mpr fun _ => rfl) trivial
  | jamMode mode =>
    have hnarrow : mode.Narrow := h
    exact iff_of_true ((exchanged_iff whadPhyJamModeParse (fun s => .phy (.jamMode (some s))) (fun _ _ => ⟨rfl,trivial,id⟩) rfl
      (by simpa [Kind.wire, PhyKind.wire, JamCmd.wire] using hnarrow) fun _ => rfl).mpr fun _ => rfl) trivial
  | setLoraMod bandwidth spreadingFactor codingRate preambleLength enableCrc explicitMode invertIq =>
    have hnarrow : spreadingFactor.Narrow ∧ codingRate.Narrow := h
    exact iff_of_true ((exchanged_iff whadPhySetLoraModParse (fun s => .phy (.setLoraMod (some s)))
      (fun _ _ => ⟨rfl,trivial,id⟩) rfl (by simpa [Kind.wire, PhyKind.wire, SetLoRaModulationCmd.wire] using hnarrow)
      fun _ => rfl).mpr fun _ => rfl) trivial
  | packetScheduled packetId full =>
    refine iff_of_true ((exchanged_iff whadPhyPacketScheduledParse (fun s => .phy (.packetScheduled (some s)))
      (fun _ _ => ⟨rfl,trivial,id⟩) rfl ?_ fun _ => rfl).mpr fun _ => ?_) trivial
    · cases full <;> simp [Kind.wire, PhyKind.wire, SchedulePacketResp.wire]
    · cases full <;> simp [Output.seen]
  | setSyncWord pSyncword length =>
    exact exchanged_iff_of_stored (k := .phy .syncWord) whadPhySetSyncWordParse (fun s => .phy (.setSyncWord (some s)))
      (storeSyncWord pSyncword length) loadSyncWord (fun _ _ _ => ⟨rfl,trivial,id⟩)
      (fun built hbuilt => bounds_of_success (k := .phy .syncWord) (x := SetSyncWordCmd.syncWord) (n := 10)
        (fun p q h => fill_of_store h) hbuilt)
      (fun h => if_neg (not_lt.mpr h.2)) (fun p s r hload => parse_success hload) fun h => syncWord_stored h pSyncword
  | send pPacket length =>
    exact exchanged_iff_of_stored (k := .phy .send) whadPhySendParse (fun s => .phy (.send (some s)))
      (storeSend pPacket length) loadSend (fun _ _ _ => ⟨rfl,trivial,id⟩)
      (fun built hbuilt => bounds_of_success (k := .phy .send) (x := SendCmd.packet) (n := 255)
        (fun p q h => fill_of_store h) hbuilt)
      (fun h => if_neg (not_lt.mpr h.2)) (fun p s r hload => parse_success hload) fun h => send_stored h pPacket
  | jammed ts =>
    have hmicros : ts.tsUsec.toNat < 1000000 := h
    refine (exchanged_iff (b := .domain (.phy (.jammed ts.tsSec ts.tsUsec))) (k := .phy .jammed) whadPhyJammedParse
      (fun s => .phy (.jammed (some s))) (fun _ _ => ⟨rfl,trivial,id⟩) (jammed_build m ts)
      (by simp [Kind.wire, PhyKind.wire, Jammed.wire]) fun _ => rfl).trans ?_
    rw [forall_const]
    exact timestampFrom_timestampOf_iff ts.tsSec hmicros
  | schedPacket pPacket length ts =>
    have hmicros : ts.tsUsec.toNat < 1000000 := h
    have hback := timestampFrom_timestampOf_iff ts.tsSec hmicros
    by_cases hbounds : 0 ≤ length ∧ length ≤ 255
    · obtain ⟨p,hstore,hintact,hload⟩ := schedSend_stored hbounds ts pPacket (m.msg (.phy .schedSend))
      choose read hread hts hsame using hload
      refine (exchanged_iff (b := .domain (.phy (.schedPacket (some pPacket) length ts.tsSec ts.tsUsec)))
        (k := .phy .schedSend) whadPhySchedPacketParse (fun s => .phy (.schedPacket (some s)))
        (fun _ _ => ⟨rfl,trivial,id⟩) ((if_neg (not_lt.mpr hbounds.2)).trans (build_success hstore)) hintact
        fun s => parse_success (hread s)).trans ?_
      constructor
      · intro hall
        exact ⟨hbounds,hback.mp ((hts default).symm.trans (hall default).1)⟩
      · intro hfits s
        exact ⟨(hts s).trans (hback.mpr hfits.2),hsame s⟩
    · refine iff_of_false ?_ fun hfits => hbounds hfits.1
      rintro ⟨built,hbuilt,-⟩
      exact hbounds (bounds_of_success (k := .phy .schedSend) (x := ScheduleSendCmd.packet) (n := 255)
        (fun p q h => fill_of_store h) hbuilt)

end WhadLib.Phy
