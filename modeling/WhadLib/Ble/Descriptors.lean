import WhadLib.Descriptors
import WhadLib.Ble.Structs

/-! The descriptors of the BLE messages, from the field lists of the generated header. -/
namespace WhadLib.Ble

def AccessAddressMsg.descriptor : Descriptor := .singular 1 .uint32 <| .nil

def SequenceMsg.descriptor : Descriptor := .singular 1 .uint32 <| .nil

def SetAdvDataCmd.descriptor : Descriptor :=
  .singular 1 (.callback .len) <| .singular 2 (.callback .len) <| .nil

def AccessAddressDiscovered.descriptor : Descriptor :=
  .singular 1 .uint32 <| .optional 2 .int32 <| .optional 3 .uint64 <| .nil

def AdvModeCmd.descriptor : Descriptor := .singular 1 (.bytes 31) <| .singular 2 (.bytes 31) <| .nil

def AdvPduReceived.descriptor : Descriptor :=
  .singular 1 .uenum <| .singular 2 .int32 <| .singular 3 (.fixedLengthBytes 6) <|
  .singular 4 (.bytes 31) <| .singular 5 .uenum <| .nil

def ConnectToCmd.descriptor : Descriptor :=
  .singular 1 (.fixedLengthBytes 6) <| .singular 2 .uenum <| .optional 3 .uint32 <|
  .optional 4 (.fixedLengthBytes 5) <| .optional 5 .uint32 <| .optional 6 .uint32 <|
  .optional 7 .uint32 <| .nil

def Connected.descriptor : Descriptor :=
  .singular 1 (.fixedLengthBytes 6) <| .singular 2 (.fixedLengthBytes 6) <| .singular 3 .uint32 <|
  .singular 8 .uint32 <| .singular 9 .uenum <| .singular 10 .uenum <| .nil

def DisconnectCmd.descriptor : Descriptor := .singular 1 .int32 <| .nil

def Disconnected.descriptor : Descriptor := .singular 1 .uint32 <| .singular 2 .uint32 <| .nil

def Hijacked.descriptor : Descriptor := .singular 1 .bool <| .singular 2 .uint32 <| .nil

def Injected.descriptor : Descriptor :=
  .singular 1 .bool <| .singular 2 .uint32 <| .singular 3 .uint32 <| .nil

def PduReceived.descriptor : Descriptor :=
  .singular 1 .uenum <| .singular 2 (.bytes 300) <| .singular 3 .uint32 <| .singular 4 .bool <|
  .singular 5 .bool <| .nil

def ConnectionEventTrigger.descriptor : Descriptor := .singular 1 .uint32 <| .nil

def PendingPacket.descriptor : Descriptor := .singular 1 (.bytes 255) <| .nil

def ReceptionTrigger.descriptor : Descriptor :=
  .singular 1 (.bytes 255) <| .singular 2 (.bytes 255) <| .singular 3 .uint32 <| .nil

def RawPduReceived.descriptor : Descriptor :=
  .singular 1 .uenum <| .singular 2 .uint32 <| .optional 3 .int32 <| .optional 4 .uint64 <|
  .optional 5 .uint64 <| .optional 6 .bool <| .singular 7 .uint32 <| .singular 8 (.bytes 255) <|
  .singular 9 .uint32 <| .singular 10 .uint32 <| .singular 11 .bool <| .singular 12 .bool <| .nil

def ReactiveJamCmd.descriptor : Descriptor :=
  .singular 1 .uint32 <| .singular 2 (.bytes 20) <| .singular 3 .uint32 <| .nil

def ScanModeCmd.descriptor : Descriptor := .singular 1 .bool <| .nil

def SendPDUCmd.descriptor : Descriptor :=
  .singular 1 .uenum <| .singular 2 .uint32 <| .singular 3 (.bytes 300) <| .singular 4 .bool <| .nil

def SendRawPDUCmd.descriptor : Descriptor :=
  .singular 1 .uenum <| .singular 2 .uint32 <| .singular 3 .uint32 <| .singular 4 (.bytes 300) <|
  .singular 5 .uint32 <| .singular 6 .bool <| .nil

def SetBdAddressCmd.descriptor : Descriptor :=
  .singular 1 (.fixedLengthBytes 6) <| .singular 2 .uenum <| .nil

def SetEncryptionCmd.descriptor : Descriptor :=
  .singular 1 .int32 <| .singular 2 .bool <| .singular 3 (.fixedLengthBytes 16) <|
  .singular 4 (.fixedLengthBytes 8) <| .singular 5 (.fixedLengthBytes 16) <|
  .singular 6 (.fixedLengthBytes 8) <| .singular 7 (.fixedLengthBytes 2) <| .nil

def SniffAccessAddressCmd.descriptor : Descriptor := .singular 6 (.fixedLengthBytes 5) <| .nil

def SniffActiveConnCmd.descriptor : Descriptor :=
  .singular 1 .uint32 <| .singular 2 .uint32 <| .singular 3 (.fixedLengthBytes 5) <|
  .singular 4 .uint32 <| .singular 5 .uint32 <| .singular 6 (.fixedLengthBytes 5) <| .nil

def SniffAdvCmd.descriptor : Descriptor :=
  .singular 1 .bool <| .singular 2 .uint32 <| .singular 3 (.fixedLengthBytes 6) <| .nil

def SniffConnReqCmd.descriptor : Descriptor :=
  .singular 1 .bool <| .singular 2 .bool <| .singular 3 .uint32 <| .singular 4 (.fixedLengthBytes 6) <|
  .nil

def Synchronized.descriptor : Descriptor :=
  .singular 1 .uint32 <| .singular 2 .uint32 <| .singular 3 .uint32 <| .singular 4 .uint32 <|
  .singular 5 (.fixedLengthBytes 5) <| .nil

def Trigger.descriptor : Descriptor :=
  .oneofMessage 1 ReceptionTrigger.descriptor <| .oneofMessage 2 ConnectionEventTrigger.descriptor <|
  .oneofMessage 3 .nil <| .nil

def PrepareSequenceCmd.descriptor : Descriptor :=
  .optionalMessage 1 Trigger.descriptor <| .singular 2 .uint32 <| .singular 3 .uenum <|
  .repeated 4 25 PendingPacket.descriptor <| .nil

/-- The descriptors of the members. -/
def BleKind.descriptor : BleKind → Descriptor
  | .setBdAddr => SetBdAddressCmd.descriptor
  | .sniffAdv => SniffAdvCmd.descriptor
  | .jamAdv => EmptyMessage.descriptor
  | .jamAdvChan => ChannelCmd.descriptor
  | .sniffConnreq => SniffConnReqCmd.descriptor
  | .sniffAa => SniffAccessAddressCmd.descriptor
  | .sniffConn => SniffActiveConnCmd.descriptor
  | .jamConn => AccessAddressMsg.descriptor
  | .scanMode => ScanModeCmd.descriptor
  | .advMode => AdvModeCmd.descriptor
  | .setAdvData => SetAdvDataCmd.descriptor
  | .centralMode => EmptyMessage.descriptor
  | .connect => ConnectToCmd.descriptor
  | .sendRawPdu => SendRawPDUCmd.descriptor
  | .sendPdu => SendPDUCmd.descriptor
  | .disconnect => DisconnectCmd.descriptor
  | .periphMode => AdvModeCmd.descriptor
  | .start => EmptyMessage.descriptor
  | .stop => EmptyMessage.descriptor
  | .hijackMaster => AccessAddressMsg.descriptor
  | .hijackSlave => AccessAddressMsg.descriptor
  | .hijackBoth => AccessAddressMsg.descriptor
  | .aaDisc => AccessAddressDiscovered.descriptor
  | .advPdu => AdvPduReceived.descriptor
  | .connected => Connected.descriptor
  | .disconnected => Disconnected.descriptor
  | .synchronized => Synchronized.descriptor
  | .hijacked => Hijacked.descriptor
  | .pdu => PduReceived.descriptor
  | .rawPdu => RawPduReceived.descriptor
  | .injected => Injected.descriptor
  | .desynchronized => AccessAddressMsg.descriptor
  | .encryption => SetEncryptionCmd.descriptor
  | .reactiveJam => ReactiveJamCmd.descriptor
  | .prepare => PrepareSequenceCmd.descriptor
  | .trigger => SequenceMsg.descriptor
  | .triggered => SequenceMsg.descriptor
  | .deleteSeq => SequenceMsg.descriptor

/-- The member of the union that the tag selects is the only one. -/
theorem Trigger.describes (p : Trigger) : Trigger.descriptor.Describes p.wire := by
  unfold Trigger.wire
  split
  · exact .messageMember (.singular (holds_bytes _) (.singular (holds_bytes _) (.singular trivial .nil)))
  · exact .notMessageMember (.messageMember (.singular trivial .nil))
  · exact .notMessageMember (.notMessageMember (.messageMember .nil))
  · exact .notMessageMember (.notMessageMember (.notMessageMember .nil))

theorem PrepareSequenceCmd.describes (p : PrepareSequenceCmd) : PrepareSequenceCmd.descriptor.Describes p.wire := by
  have hpackets : (Descriptor.repeated 4 25 PendingPacket.descriptor .nil).Describes
      (Wire.repeated 4 p.sequence PendingPacket.wire .nil) :=
    .wire_repeated (fun packet => .singular (holds_bytes packet.packet) .nil) .nil
  exact .wire_optional p.trigger.value.describes (.singular trivial (.singular trivial hpackets))

/-- Whatever a member holds, its descriptor describes it. -/
theorem BleKind.describes (k : BleKind) (p : k.Struct) : k.descriptor.Describes (k.wire p) := by
  cases k <;> repeat' first
    | exact PrepareSequenceCmd.describes _
    | exact trivial | exact holds_bytes _ | exact holds_fixed _ | apply Descriptor.Describes.value_optional
    | constructor

end WhadLib.Ble
