import WhadLib.Structs

/-! The structures of the PHY protocol, from the generated header. -/
namespace WhadLib.Phy
open Library

/-- `phy_Endianness`. -/
inductive Endianness
  | big | little
  deriving DecidableEq, Repr

/-- `phy_TXPower`. -/
inductive TXPower
  | low | medium | high
  deriving DecidableEq, Repr

/-- `phy_JammingMode`. -/
inductive JammingMode
  | continuous | reactive
  deriving DecidableEq, Repr

/-- `phy_LoRaSpreadingFactor`. -/
inductive LoRaSpreadingFactor
  | sf7 | sf8 | sf9 | sf10 | sf11 | sf12
  deriving DecidableEq, Repr

/-- `phy_LoRaCodingRate`. -/
inductive LoRaCodingRate
  | cr45 | cr46 | cr47 | cr48
  deriving DecidableEq, Repr

/-- `phy_Modulation`. -/
inductive Modulation
  | ask | fsk | fourfsk | gfsk | msk | bpsk | qpsk | lora
  deriving DecidableEq, Repr

/-- The modulations with a deviation: FSK, 4FSK, GFSK and MSK. -/
structure DeviationCmd where
  deviation : UInt32
  deriving Inhabited

def DeviationCmd.wire (p : DeviationCmd) : Wire :=
  .field 1 (value p.deviation) <| .nil

structure SendRawCmd where
  iq : PbCallback
  deriving Inhabited

def SendRawCmd.wire (p : SendRawCmd) : Wire :=
  .field 1 (.callback .varint p.iq) <| .nil

structure SupportedFrequencyRanges where
  frequencyRanges : PbCallback
  deriving Inhabited

def SupportedFrequencyRanges.wire (p : SupportedFrequencyRanges) : Wire :=
  .field 1 (.callback .len p.frequencyRanges) <| .nil

structure JamCmd where
  mode : EnumField JammingMode
  deriving Inhabited

def JamCmd.wire (p : JamCmd) : Wire :=
  .field 1 (value p.mode) <| .nil

structure MonitoringReport where
  timestamp : UInt64
  report : PbCallback
  deriving Inhabited

def MonitoringReport.wire (p : MonitoringReport) : Wire :=
  .field 1 (value p.timestamp) <| .field 2 (.callback .varint p.report) <| .nil

structure PacketReceived where
  frequency : UInt32
  rssi : OptionalField Int32
  timestamp : OptionalField UInt64
  packet : BytesArray 255
  deviation : UInt32
  datarate : UInt32
  endian : EnumField Endianness
  modulation : EnumField Modulation
  syncword : BytesArray 8
  deriving Inhabited

def PacketReceived.wire (p : PacketReceived) : Wire :=
  .field 1 (value p.frequency) <| .field 2 (value p.rssi) <| .field 3 (value p.timestamp) <|
  .field 4 (value p.packet) <| .field 5 (value p.deviation) <| .field 6 (value p.datarate) <|
  .field 7 (value p.endian) <| .field 8 (value p.modulation) <| .field 9 (value p.syncword) <| .nil

structure RawPacketReceived where
  frequency : UInt32
  rssi : OptionalField Int32
  timestamp : OptionalField UInt64
  packet : BytesArray 255
  iq : PbCallback
  deviation : UInt32
  datarate : UInt32
  endian : EnumField Endianness
  modulation : EnumField Modulation
  syncword : BytesArray 8
  deriving Inhabited

def RawPacketReceived.wire (p : RawPacketReceived) : Wire :=
  .field 1 (value p.frequency) <| .field 2 (value p.rssi) <| .field 3 (value p.timestamp) <|
  .field 4 (value p.packet) <| .field 5 (.callback .varint p.iq) <| .field 6 (value p.deviation) <|
  .field 7 (value p.datarate) <| .field 8 (value p.endian) <| .field 9 (value p.modulation) <|
  .field 10 (value p.syncword) <| .nil

structure SchedulePacketResp where
  id : Int32
  full : OptionalField Bool
  deriving Inhabited

def SchedulePacketResp.wire (p : SchedulePacketResp) : Wire :=
  .field 1 (value p.id) <| .field 2 (value p.full) <| .nil

structure SchedulePacketSent where
  id : Int32
  deriving Inhabited

def SchedulePacketSent.wire (p : SchedulePacketSent) : Wire :=
  .field 1 (value p.id) <| .nil

structure ScheduleSendCmd where
  packet : BytesArray 255
  timestamp : UInt64
  deriving Inhabited

def ScheduleSendCmd.wire (p : ScheduleSendCmd) : Wire :=
  .field 1 (value p.packet) <| .field 2 (value p.timestamp) <| .nil

structure SendCmd where
  packet : BytesArray 255
  deriving Inhabited

def SendCmd.wire (p : SendCmd) : Wire :=
  .field 1 (value p.packet) <| .nil

structure SetASKModulationCmd where
  ook : Bool
  deriving Inhabited

def SetASKModulationCmd.wire (p : SetASKModulationCmd) : Wire :=
  .field 1 (value p.ook) <| .nil

structure SetDataRateCmd where
  rate : UInt32
  deriving Inhabited

def SetDataRateCmd.wire (p : SetDataRateCmd) : Wire :=
  .field 1 (value p.rate) <| .nil

structure SetEndiannessCmd where
  endianness : EnumField Endianness
  deriving Inhabited

def SetEndiannessCmd.wire (p : SetEndiannessCmd) : Wire :=
  .field 1 (value p.endianness) <| .nil

structure SetFrequencyCmd where
  frequency : UInt32
  deriving Inhabited

def SetFrequencyCmd.wire (p : SetFrequencyCmd) : Wire :=
  .field 1 (value p.frequency) <| .nil

structure SetLoRaModulationCmd where
  bandwidth : UInt32
  spreadingFactor : EnumField LoRaSpreadingFactor
  codingRate : EnumField LoRaCodingRate
  preambleLength : UInt32
  enableCrc : Bool
  explicitMode : Bool
  invertIq : Bool
  deriving Inhabited

def SetLoRaModulationCmd.wire (p : SetLoRaModulationCmd) : Wire :=
  .field 1 (value p.bandwidth) <| .field 2 (value p.spreadingFactor) <|
  .field 3 (value p.codingRate) <| .field 4 (value p.preambleLength) <|
  .field 5 (value p.enableCrc) <| .field 6 (value p.explicitMode) <| .field 7 (value p.invertIq) <|
  .nil

structure SetPacketSizeCmd where
  packetSize : UInt32
  deriving Inhabited

def SetPacketSizeCmd.wire (p : SetPacketSizeCmd) : Wire :=
  .field 1 (value p.packetSize) <| .nil

structure SetQPSKModulationCmd where
  offsetQpsk : Bool
  deriving Inhabited

def SetQPSKModulationCmd.wire (p : SetQPSKModulationCmd) : Wire :=
  .field 1 (value p.offsetQpsk) <| .nil

structure SetSyncWordCmd where
  syncWord : BytesArray 10
  deriving Inhabited

def SetSyncWordCmd.wire (p : SetSyncWordCmd) : Wire :=
  .field 1 (value p.syncWord) <| .nil

structure SetTXPowerCmd where
  txPower : EnumField TXPower
  deriving Inhabited

def SetTXPowerCmd.wire (p : SetTXPowerCmd) : Wire :=
  .field 1 (value p.txPower) <| .nil

structure SniffCmd where
  iqStream : OptionalField Bool
  deriving Inhabited

def SniffCmd.wire (p : SniffCmd) : Wire :=
  .field 1 (value p.iqStream) <| .nil

structure SupportedFrequencyRangesFrequencyRange where
  start : UInt32
  stop : UInt32
  deriving Inhabited

def SupportedFrequencyRangesFrequencyRange.wire (p : SupportedFrequencyRangesFrequencyRange) : Wire :=
  .field 1 (value p.start) <| .field 2 (value p.stop) <| .nil

/-- The members of the union of `phy_Message`. -/
inductive PhyKind
  | modAsk | modFsk | modGfsk | modBpsk | modQpsk | mod4fsk | modMsk | getSupportedFreq | setFreq
  | datarate | endianness | txPower | packetSize | syncWord | sniff | send | sendRaw | start | stop
  | jam | monitor | packet | rawPacket | jammed | monitorReport | supportedFreq | modLora
  | schedSend | schedPktRsp | schedPktSent
  deriving DecidableEq, Repr

/-- Their types. -/
abbrev PhyKind.Struct : PhyKind → Type
  | .modAsk => SetASKModulationCmd
  | .modFsk => DeviationCmd
  | .modGfsk => DeviationCmd
  | .modBpsk => EmptyMessage
  | .modQpsk => SetQPSKModulationCmd
  | .mod4fsk => DeviationCmd
  | .modMsk => DeviationCmd
  | .getSupportedFreq => EmptyMessage
  | .setFreq => SetFrequencyCmd
  | .datarate => SetDataRateCmd
  | .endianness => SetEndiannessCmd
  | .txPower => SetTXPowerCmd
  | .packetSize => SetPacketSizeCmd
  | .syncWord => SetSyncWordCmd
  | .sniff => SniffCmd
  | .send => SendCmd
  | .sendRaw => SendRawCmd
  | .start => EmptyMessage
  | .stop => EmptyMessage
  | .jam => JamCmd
  | .monitor => EmptyMessage
  | .packet => PacketReceived
  | .rawPacket => RawPacketReceived
  | .jammed => Jammed
  | .monitorReport => MonitoringReport
  | .supportedFreq => SupportedFrequencyRanges
  | .modLora => SetLoRaModulationCmd
  | .schedSend => ScheduleSendCmd
  | .schedPktRsp => SchedulePacketResp
  | .schedPktSent => SchedulePacketSent

instance (k : PhyKind) : Inhabited k.Struct := by
  cases k <;> exact inferInstance

/-- `phy_Message_*_tag`. -/
def PhyKind.tag : PhyKind → ℕ
  | .modAsk => 1
  | .modFsk => 2
  | .modGfsk => 3
  | .modBpsk => 4
  | .modQpsk => 5
  | .mod4fsk => 6
  | .modMsk => 7
  | .getSupportedFreq => 8
  | .setFreq => 9
  | .datarate => 10
  | .endianness => 11
  | .txPower => 12
  | .packetSize => 13
  | .syncWord => 14
  | .sniff => 15
  | .send => 16
  | .sendRaw => 17
  | .start => 18
  | .stop => 19
  | .jam => 20
  | .monitor => 21
  | .packet => 22
  | .rawPacket => 23
  | .jammed => 24
  | .monitorReport => 25
  | .supportedFreq => 26
  | .modLora => 27
  | .schedSend => 28
  | .schedPktRsp => 29
  | .schedPktSent => 30

def PhyKind.wire : (k : PhyKind) → k.Struct → Wire
  | .modAsk, p => SetASKModulationCmd.wire p
  | .modFsk, p => DeviationCmd.wire p
  | .modGfsk, p => DeviationCmd.wire p
  | .modBpsk, p => EmptyMessage.wire p
  | .modQpsk, p => SetQPSKModulationCmd.wire p
  | .mod4fsk, p => DeviationCmd.wire p
  | .modMsk, p => DeviationCmd.wire p
  | .getSupportedFreq, p => EmptyMessage.wire p
  | .setFreq, p => SetFrequencyCmd.wire p
  | .datarate, p => SetDataRateCmd.wire p
  | .endianness, p => SetEndiannessCmd.wire p
  | .txPower, p => SetTXPowerCmd.wire p
  | .packetSize, p => SetPacketSizeCmd.wire p
  | .syncWord, p => SetSyncWordCmd.wire p
  | .sniff, p => SniffCmd.wire p
  | .send, p => SendCmd.wire p
  | .sendRaw, p => SendRawCmd.wire p
  | .start, p => EmptyMessage.wire p
  | .stop, p => EmptyMessage.wire p
  | .jam, p => JamCmd.wire p
  | .monitor, p => EmptyMessage.wire p
  | .packet, p => PacketReceived.wire p
  | .rawPacket, p => RawPacketReceived.wire p
  | .jammed, p => Jammed.wire p
  | .monitorReport, p => MonitoringReport.wire p
  | .supportedFreq, p => SupportedFrequencyRanges.wire p
  | .modLora, p => SetLoRaModulationCmd.wire p
  | .schedSend, p => ScheduleSendCmd.wire p
  | .schedPktRsp, p => SchedulePacketResp.wire p
  | .schedPktSent, p => SchedulePacketSent.wire p

/-- The members in the order of `phy_Message_FIELDLIST`. -/
def PhyKind.all : List PhyKind :=
  [.modAsk,.modFsk,.modGfsk,.modBpsk,.modQpsk,.mod4fsk,.modMsk,.getSupportedFreq,.setFreq,.datarate,
    .endianness,.txPower,.packetSize,.syncWord,.sniff,.send,.sendRaw,.start,.stop,.jam,.monitor,
    .packet,.rawPacket,.jammed,.monitorReport,.supportedFreq,.modLora,.schedSend,.schedPktRsp,
    .schedPktSent]

end WhadLib.Phy
