import WhadLib.Agreement
import WhadLib.Phy.Parsers

/-! The parsers of the PHY domain look at the visible fields of their member only, but for one that reads the
RSSI of a packet whether it is there or not. -/
namespace WhadLib.Phy
open Library

/-- A parser says the same of two messages. -/
def PhyParser.ReadsAlike : PhyParser → FullMessage → FullMessage → Prop
  | .setAskMod pOnOffKeying => WhadLib.ReadsAlike (whadPhySetAskModParse · pOnOffKeying)
  | .setFskMod pDeviation => WhadLib.ReadsAlike (whadPhySetFskModParse · pDeviation)
  | .set4fskMod pDeviation => WhadLib.ReadsAlike (whadPhySet4fskModParse · pDeviation)
  | .setGfskMod pDeviation => WhadLib.ReadsAlike (whadPhySetGfskModParse · pDeviation)
  | .setQpskMod pOffset => WhadLib.ReadsAlike (whadPhySetQpskModParse · pOffset)
  | .setMskMod pDeviation => WhadLib.ReadsAlike (whadPhySetMskModParse · pDeviation)
  | .setLoraMod pLoraParams => WhadLib.ReadsAlike (whadPhySetLoraModParse · pLoraParams)
  | .setFreq pFreq => WhadLib.ReadsAlike (whadPhySetFreqParse · pFreq)
  | .setDatarate pDatarate => WhadLib.ReadsAlike (whadPhySetDatarateParse · pDatarate)
  | .setEndianness pEndianness => WhadLib.ReadsAlike (whadPhySetEndiannessParse · pEndianness)
  | .setTxPower pPower => WhadLib.ReadsAlike (whadPhySetTxPowerParse · pPower)
  | .setPacketSize pPacketSize => WhadLib.ReadsAlike (whadPhySetPacketSizeParse · pPacketSize)
  | .setSyncWord pSyncword => WhadLib.ReadsAlike (whadPhySetSyncWordParse · pSyncword)
  | .sniffMode pIqStream => WhadLib.ReadsAlike (whadPhySniffModeParse · pIqStream)
  | .jamMode pMode => WhadLib.ReadsAlike (whadPhyJamModeParse · pMode)
  | .send pPacket => WhadLib.ReadsAlike (whadPhySendParse · pPacket)
  | .schedPacket pSchedPacket => WhadLib.ReadsAlike (whadPhySchedPacketParse · pSchedPacket)
  | .jammed pTimestamp => WhadLib.ReadsAlike (whadPhyJammedParse · pTimestamp)
  | .schedPacketSent pPacketId => WhadLib.ReadsAlike (whadPhySchedPacketSentParse · pPacketId)
  | .packetReceived pReceivedPkt => WhadLib.ReadsAlike (whadPhyPacketReceivedParse · pReceivedPkt)
  | .packetScheduled pSchedPkt => WhadLib.ReadsAlike (whadPhyPacketScheduledParse · pSchedPkt)

/-- The message shows all that a parser reads of it. -/
def PhyParser.Shown : PhyParser → FullMessage → Prop
  | .packetReceived _, m => (PacketReceived.rssi (m.msg (.phy .packet))).has = true
  | _, _ => True

theorem loadPacket_congr {x y : BytesArray 255} (h : value x = value y) (hx : x.size ≤ 255) (s : PhyPacket) :
    loadPacket x s = loadPacket y s := by
  obtain ⟨hsize,htake⟩ := value_bytes_eq h hx
  unfold loadPacket
  simp only [hsize, memcpy_congr htake]

section
variable {m m' : FullMessage}

theorem phyParser_readsAlike (c : PhyParser) (hshown : c.Shown m)
    (h : c.kind.wire (m.msg c.kind) = c.kind.wire (m'.msg c.kind)) (hacc : (c.kind.wire (m.msg c.kind)).Accepted) :
    c.ReadsAlike m m' := by
  cases c
  case setSyncWord s =>
    simp [PhyParser.kind, Kind.wire, PhyKind.wire, SetSyncWordCmd.wire] at h
    obtain ⟨hsize,htake⟩ := value_bytes_eq h ((accepted_bytes_iff _).mp hacc.1)
    exact readsAlike_of_body fun s => by simp only [hsize, memcpy_congr htake]
  case sniffMode s =>
    simp [PhyParser.kind, Kind.wire, PhyKind.wire, SniffCmd.wire] at h
    exact readsAlike_of_read fun s => value_orElse value_bool_inj h false
  case send s =>
    simp [PhyParser.kind, Kind.wire, PhyKind.wire, SendCmd.wire] at h
    have hpacket := loadPacket_congr h ((accepted_bytes_iff _).mp hacc.1)
    exact readsAlike_of_body fun s => by simp only [hpacket]
  case schedPacket s =>
    simp [PhyParser.kind, Kind.wire, PhyKind.wire, ScheduleSendCmd.wire] at h
    have hpacket := loadPacket_congr h.1 ((accepted_bytes_iff _).mp hacc.1)
    exact readsAlike_of_body fun s => by simp only [hpacket, h.2]
  case packetReceived s =>
    simp [PhyParser.kind, Kind.wire, PhyKind.wire, PacketReceived.wire] at h
    obtain ⟨hfreq,hrssi,htimestamp,hpacket,-⟩ := h
    obtain ⟨hsize,htake⟩ := value_bytes_eq hpacket ((accepted_bytes_iff _).mp hacc.2.2.2.1)
    have hvalue := value_int32_inj.mp (value_optional_value hrssi hshown)
    have hts := value_elim value_uint64_inj htimestamp timestampFrom ⟨0,0⟩
    exact readsAlike_of_body fun s => by simp only [hfreq, hvalue, hts, hsize, memcpy_congr htake]
  case packetScheduled s =>
    simp [PhyParser.kind, Kind.wire, PhyKind.wire, SchedulePacketResp.wire] at h
    have hfull := value_orElse value_bool_inj h.2 false
    exact readsAlike_of_read fun s => by simp only [h.1, hfull]
  -- the others read whole fields only
  all_goals
    simp [PhyParser.kind, Kind.wire, PhyKind.wire, SetASKModulationCmd.wire, DeviationCmd.wire,
      SetQPSKModulationCmd.wire, SetLoRaModulationCmd.wire, SetFrequencyCmd.wire, SetDataRateCmd.wire,
      SetEndiannessCmd.wire, SetTXPowerCmd.wire, SetPacketSizeCmd.wire, JamCmd.wire, Jammed.wire,
      SchedulePacketSent.wire] at h
    exact readsAlike_of_read fun s => by simp only [h]

end
end WhadLib.Phy
