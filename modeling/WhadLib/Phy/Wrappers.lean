import WhadLib.Cpp.Wrapper
import WhadLib.Phy.Builders
import WhadLib.Phy.Parsers

/-! The wrapper classes of the PHY domain, in the order of the source. -/
namespace WhadLib.Phy

/-- The time of a `Timestamp` in microseconds. -/
def PhyTimestamp.micros (ts : PhyTimestamp) : ℕ := ts.tsSec.toNat*1000000 + ts.tsUsec.toNat

namespace Wrapper
open Library Cpp

def jamMode : WrapperClass :=
  .unpacking (.phy .jam) whadPhyJamModeParse whadPhyJamMode fun m o => o = JamCmd.mode (m.msg (.phy .jam))

def jammed : WrapperClass :=
  .unpacking (.phy .jammed) whadPhyJammedParse (fun message o => whadPhyJammed message o.tsSec o.tsUsec) fun m o =>
    o.micros = (Jammed.timestamp (m.msg (.phy .jammed))).toNat

/-- Its `pack()` is that of the base class, which does nothing. -/
def monitorMode : WrapperClass where
  kind := .phy .monitor
  Memory := Unit
  Object := Unit
  construct m _ := some (m,())
  pack m _ := some m
  Shows _ _ := True

/-- `SyncWord`. -/
structure SyncWord where
  syncword : Vector UInt8 10
  size : UInt8

/-- `SyncWord()`. -/
def SyncWord.empty : SyncWord := ⟨memset 0,0⟩

/-- `SyncWord(syncword, size)`, which leaves its members alone when there are too many bytes. -/
def SyncWord.ofBytes (memory : SyncWord) (syncword : Buffer) (size : UInt8) : Option SyncWord :=
  if size ≤ 10 then do
    let bytes ← memcpy memory.syncword syncword size.toNat
    some ⟨bytes,size⟩
  else some memory

/-- `PacketReceived`; its members from the sync word on have accessors that are declared and not defined. -/
structure PacketReceived where
  frequency : UInt32
  rssi : Int32
  timestamp : PhyTimestamp
  packet : Packet 255
  syncword : SyncWord
  endian : EnumField Endianness
  datarate : UInt32
  deviation : UInt32
  modulation : EnumField Modulation

/-- What follows the packet is not unpacked. -/
def packetReceived : WrapperClass where
  kind := .phy .packet
  Memory := PacketReceived × PhyReceivedPacket
  Object := PacketReceived
  construct m memory := do
    let packet ← parsedBy (whadPhyPacketReceivedParse (some m) (some memory.2))
    let bytes ← Packet.setBytes (bufferOf packet.packet.payload) packet.packet.length
    some (m,{ memory.1 with
      frequency := packet.freq, rssi := packet.rssi, timestamp := packet.ts, packet := bytes, syncword := .empty })
  pack m o := packed (whadPhyPacketReceived (some m) o.frequency o.rssi o.timestamp.tsSec o.timestamp.tsUsec
    (some o.packet.getBytes) o.packet.getSize (some (bufferOf o.syncword.syncword)) o.syncword.size.toNat o.deviation
    o.datarate o.endian o.modulation)
  Shows m o :=
    let p : Phy.PacketReceived := m.msg (.phy .packet)
    o.frequency = p.frequency ∧ p.rssi.Shown o.rssi ∧ (p.timestamp.has = true → o.timestamp.micros = p.timestamp.value.toNat) ∧
      ReadsAs p.packet o.packet.getBytes o.packet.getSize

/-- `SchedulePacket`. -/
structure SchedulePacket where
  packet : Packet 255
  timestamp : PhyTimestamp

def schedulePacket : WrapperClass where
  kind := .phy .schedSend
  Memory := PhySchedPacket
  Object := SchedulePacket
  construct m memory := do
    let schedPacket ← parsedBy (whadPhySchedPacketParse (some m) (some memory))
    let packet ← Packet.setBytes (bufferOf schedPacket.packet.payload) schedPacket.packet.length
    some (m,⟨packet,schedPacket.ts⟩)
  pack m o := packed (whadPhySchedPacket (some m) (some o.packet.getBytes) o.packet.getSize o.timestamp.tsSec
    o.timestamp.tsUsec)
  Shows m o :=
    let p : ScheduleSendCmd := m.msg (.phy .schedSend)
    ReadsAs p.packet o.packet.getBytes o.packet.getSize ∧ o.timestamp.micros = p.timestamp.toNat

def packetScheduled : WrapperClass :=
  .unpacking (.phy .schedPktRsp) whadPhyPacketScheduledParse
    (fun message o => whadPhyPacketScheduled message o.id o.full) fun m o =>
      let p : SchedulePacketResp := m.msg (.phy .schedPktRsp)
      o.id.toNat = p.id.toInt ∧ p.full.Shown o.full

def scheduledPacketSent : WrapperClass :=
  .unpacking (.phy .schedPktSent) whadPhySchedPacketSentParse whadPhySchedPacketSent fun m o =>
    o.toNat = (SchedulePacketSent.id (m.msg (.phy .schedPktSent))).toInt

def sendPacket : WrapperClass where
  kind := .phy .send
  Memory := PhyPacket
  Object := Packet 255
  construct m memory := do
    let packet ← parsedBy (whadPhySendParse (some m) (some memory))
    let bytes ← Packet.setBytes (bufferOf packet.payload) packet.length
    some (m,bytes)
  pack m o := packed (whadPhySend (some m) (some o.getBytes) o.getSize)
  Shows m o := ReadsAs (SendCmd.packet (m.msg (.phy .send))) o.getBytes o.getSize

def set4FskMod : WrapperClass :=
  .unpacking (.phy .mod4fsk) whadPhySet4fskModParse whadPhySet4fskMod fun m o =>
    o = DeviationCmd.deviation (m.msg (.phy .mod4fsk))

def setAskMod : WrapperClass :=
  .unpacking (.phy .modAsk) whadPhySetAskModParse whadPhySetAskMod fun m o =>
    o = SetASKModulationCmd.ook (m.msg (.phy .modAsk))

def setBpskMod : WrapperClass := .plain (.phy .modBpsk) whadPhySetBpskMod

def setDatarate : WrapperClass :=
  .unpacking (.phy .datarate) whadPhySetDatarateParse whadPhySetDatarate fun m o =>
    o = SetDataRateCmd.rate (m.msg (.phy .datarate))

def setEndianness : WrapperClass :=
  .unpacking (.phy .endianness) whadPhySetEndiannessParse whadPhySetEndianness fun m o =>
    o = SetEndiannessCmd.endianness (m.msg (.phy .endianness))

def setFreq : WrapperClass :=
  .unpacking (.phy .setFreq) whadPhySetFreqParse whadPhySetFreq fun m o =>
    o = SetFrequencyCmd.frequency (m.msg (.phy .setFreq))

def setFskMod : WrapperClass :=
  .unpacking (.phy .modFsk) whadPhySetFskModParse whadPhySetFskMod fun m o =>
    o = DeviationCmd.deviation (m.msg (.phy .modFsk))

def setGfskMod : WrapperClass :=
  .unpacking (.phy .modGfsk) whadPhySetGfskModParse whadPhySetGfskMod fun m o =>
    o = DeviationCmd.deviation (m.msg (.phy .modGfsk))

def setLoraMod : WrapperClass :=
  .unpacking (.phy .modLora) whadPhySetLoraModParse
    (fun message o => whadPhySetLoraMod message o.bandwidth o.sf o.cr o.preambleLength o.enableCrc o.explicitMode
      o.invertIq)
    fun m o =>
      let p : SetLoRaModulationCmd := m.msg (.phy .modLora)
      o.bandwidth = p.bandwidth ∧ o.preambleLength = p.preambleLength ∧ o.sf = p.spreadingFactor ∧
        o.cr = p.codingRate ∧ o.enableCrc = p.enableCrc ∧ o.explicitMode = p.explicitMode ∧ o.invertIq = p.invertIq

def setMskMod : WrapperClass :=
  .unpacking (.phy .modMsk) whadPhySetMskModParse whadPhySetMskMod fun m o =>
    o = DeviationCmd.deviation (m.msg (.phy .modMsk))

/-- `SetPacketSize::getSize` packs the message and parses it again. -/
def getSize (m : FullMessage) (size : UInt32) : Option UInt32 := do
  let m ← packed (whadPhySetPacketSize (some m) size)
  parsedBy (whadPhySetPacketSizeParse (some m) (some 0))

def setPacketSize : WrapperClass :=
  .unpacking (.phy .packetSize) whadPhySetPacketSizeParse whadPhySetPacketSize fun m o =>
    getSize m o = some (SetPacketSizeCmd.packetSize (m.msg (.phy .packetSize)))

def setQpskMod : WrapperClass :=
  .unpacking (.phy .modQpsk) whadPhySetQpskModParse whadPhySetQpskMod fun m o =>
    o = SetQPSKModulationCmd.offsetQpsk (m.msg (.phy .modQpsk))

def setSyncWord : WrapperClass where
  kind := .phy .syncWord
  Memory := SyncWord × PhySyncword
  Object := SyncWord
  construct m memory := do
    let syncword ← parsedBy (whadPhySetSyncWordParse (some m) (some memory.2))
    let word ← SyncWord.ofBytes memory.1 (bufferOf syncword.syncword) (UInt8.ofNat syncword.length.toNat)
    some (m,word)
  pack m o := packed (whadPhySetSyncWord (some m) (some (bufferOf o.syncword)) o.size.toNat)
  Shows m o := ReadsAs (SetSyncWordCmd.syncWord (m.msg (.phy .syncWord))) (bufferOf o.syncword) o.size.toNat

def setTxPower : WrapperClass :=
  .unpacking (.phy .txPower) whadPhySetTxPowerParse whadPhySetTxPower fun m o =>
    o = SetTXPowerCmd.txPower (m.msg (.phy .txPower))

def sniffMode : WrapperClass :=
  .unpacking (.phy .sniff) whadPhySniffModeParse whadPhySniffMode fun m o =>
    (SniffCmd.iqStream (m.msg (.phy .sniff))).Shown o

def start : WrapperClass := .plain (.phy .start) whadPhyStart

def stop : WrapperClass := .plain (.phy .stop) whadPhyStop

/-- `SupportedFreqsResp`, with what `malloc` answers when it is packed. -/
structure SupportedFreqsResp where
  freqRanges : Option (List FrequencyRange)
  allocated : Option Address

/-- Nothing is unpacked. The ranges up to one that ends the list are counted through a pointer that may be
`NULL`. -/
def supportedFreqsResp : WrapperClass where
  kind := .phy .supportedFreq
  Memory := SupportedFreqsResp
  Object := SupportedFreqsResp
  construct m memory := some (m,memory)
  pack m o := do
    let ranges ← o.freqRanges
    let counted := ranges.takeWhile fun range => range.start != 0 && range.stop != 0
    packed (whadPhySupportedFrequencies (some m) o.allocated (some fun i => counted.getD i ⟨0,0⟩) counted.length)
  Shows _ _ := True

end Wrapper
end WhadLib.Phy
