import WhadLib.Descriptors
import WhadLib.Phy.Structs

/-! The descriptors of the PHY messages, from the field lists of the generated header. -/
namespace WhadLib.Phy

def DeviationCmd.descriptor : Descriptor := .singular 1 .uint32 <| .nil

def SendRawCmd.descriptor : Descriptor := .singular 1 (.callback .varint) <| .nil

def SupportedFrequencyRanges.descriptor : Descriptor := .singular 1 (.callback .len) <| .nil

def JamCmd.descriptor : Descriptor := .singular 1 .uenum <| .nil

def MonitoringReport.descriptor : Descriptor :=
  .singular 1 .uint64 <| .singular 2 (.callback .varint) <| .nil

def PacketReceived.descriptor : Descriptor :=
  .singular 1 .uint32 <| .optional 2 .int32 <| .optional 3 .uint64 <| .singular 4 (.bytes 255) <|
  .singular 5 .uint32 <| .singular 6 .uint32 <| .singular 7 .uenum <| .singular 8 .uenum <|
  .singular 9 (.bytes 8) <| .nil

def RawPacketReceived.descriptor : Descriptor :=
  .singular 1 .uint32 <| .optional 2 .int32 <| .optional 3 .uint64 <| .singular 4 (.bytes 255) <|
  .singular 5 (.callback .varint) <| .singular 6 .uint32 <| .singular 7 .uint32 <|
  .singular 8 .uenum <| .singular 9 .uenum <| .singular 10 (.bytes 8) <| .nil

def SchedulePacketResp.descriptor : Descriptor := .singular 1 .int32 <| .optional 2 .bool <| .nil

def SchedulePacketSent.descriptor : Descriptor := .singular 1 .int32 <| .nil

def ScheduleSendCmd.descriptor : Descriptor := .singular 1 (.bytes 255) <| .singular 2 .uint64 <| .nil

def SendCmd.descriptor : Descriptor := .singular 1 (.bytes 255) <| .nil

def SetASKModulationCmd.descriptor : Descriptor := .singular 1 .bool <| .nil

def SetDataRateCmd.descriptor : Descriptor := .singular 1 .uint32 <| .nil

def SetEndiannessCmd.descriptor : Descriptor := .singular 1 .uenum <| .nil

def SetFrequencyCmd.descriptor : Descriptor := .singular 1 .uint32 <| .nil

def SetLoRaModulationCmd.descriptor : Descriptor :=
  .singular 1 .uint32 <| .singular 2 .uenum <| .singular 3 .uenum <| .singular 4 .uint32 <|
  .singular 5 .bool <| .singular 6 .bool <| .singular 7 .bool <| .nil

def SetPacketSizeCmd.descriptor : Descriptor := .singular 1 .uint32 <| .nil

def SetQPSKModulationCmd.descriptor : Descriptor := .singular 1 .bool <| .nil

def SetSyncWordCmd.descriptor : Descriptor := .singular 1 (.bytes 10) <| .nil

def SetTXPowerCmd.descriptor : Descriptor := .singular 1 .uenum <| .nil

def SniffCmd.descriptor : Descriptor := .optional 1 .bool <| .nil

/-- The descriptors of the members. -/
def PhyKind.descriptor : PhyKind → Descriptor
  | .modAsk => SetASKModulationCmd.descriptor
  | .modFsk => DeviationCmd.descriptor
  | .modGfsk => DeviationCmd.descriptor
  | .modBpsk => EmptyMessage.descriptor
  | .modQpsk => SetQPSKModulationCmd.descriptor
  | .mod4fsk => DeviationCmd.descriptor
  | .modMsk => DeviationCmd.descriptor
  | .getSupportedFreq => EmptyMessage.descriptor
  | .setFreq => SetFrequencyCmd.descriptor
  | .datarate => SetDataRateCmd.descriptor
  | .endianness => SetEndiannessCmd.descriptor
  | .txPower => SetTXPowerCmd.descriptor
  | .packetSize => SetPacketSizeCmd.descriptor
  | .syncWord => SetSyncWordCmd.descriptor
  | .sniff => SniffCmd.descriptor
  | .send => SendCmd.descriptor
  | .sendRaw => SendRawCmd.descriptor
  | .start => EmptyMessage.descriptor
  | .stop => EmptyMessage.descriptor
  | .jam => JamCmd.descriptor
  | .monitor => EmptyMessage.descriptor
  | .packet => PacketReceived.descriptor
  | .rawPacket => RawPacketReceived.descriptor
  | .jammed => Jammed.descriptor
  | .monitorReport => MonitoringReport.descriptor
  | .supportedFreq => SupportedFrequencyRanges.descriptor
  | .modLora => SetLoRaModulationCmd.descriptor
  | .schedSend => ScheduleSendCmd.descriptor
  | .schedPktRsp => SchedulePacketResp.descriptor
  | .schedPktSent => SchedulePacketSent.descriptor

/-- Whatever a member holds, its descriptor describes it. -/
theorem PhyKind.describes (k : PhyKind) (p : k.Struct) : k.descriptor.Describes (k.wire p) := by
  cases k <;> repeat' first
    | exact trivial | exact holds_bytes _ | exact holds_fixed _ | apply Descriptor.Describes.value_optional
    | constructor

end WhadLib.Phy
