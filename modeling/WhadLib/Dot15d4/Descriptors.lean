import WhadLib.Descriptors
import WhadLib.Dot15d4.Structs

/-! The descriptors of the 802.15.4 messages, from the field lists of the generated header. -/
namespace WhadLib.Dot15d4

def EnergyDetectionSample.descriptor : Descriptor := .singular 1 .uint32 <| .singular 2 .uint64 <| .nil

def ManInTheMiddleCmd.descriptor : Descriptor := .singular 1 .uenum <| .nil

def PduReceived.descriptor : Descriptor :=
  .singular 1 .uint32 <| .optional 2 .int32 <| .optional 3 .uint64 <| .optional 4 .bool <|
  .singular 5 (.bytes 255) <| .optional 6 .uint32 <| .nil

def RawPduReceived.descriptor : Descriptor :=
  .singular 1 .uint32 <| .optional 2 .int32 <| .optional 3 .uint64 <| .optional 4 .bool <|
  .singular 5 (.bytes 255) <| .singular 6 .uint32 <| .optional 7 .uint32 <| .nil

def SendCmd.descriptor : Descriptor := .singular 1 .uint32 <| .singular 2 (.bytes 255) <| .nil

def SendRawCmd.descriptor : Descriptor :=
  .singular 1 .uint32 <| .singular 2 (.bytes 255) <| .singular 3 .uint32 <| .nil

def SetNodeAddressCmd.descriptor : Descriptor := .singular 1 .uint64 <| .singular 2 .uenum <| .nil

/-- The descriptors of the members. -/
def Dot15d4Kind.descriptor : Dot15d4Kind → Descriptor
  | .setNodeAddr => SetNodeAddressCmd.descriptor
  | .sniff => ChannelCmd.descriptor
  | .jam => ChannelCmd.descriptor
  | .ed => ChannelCmd.descriptor
  | .send => SendCmd.descriptor
  | .sendRaw => SendRawCmd.descriptor
  | .endDevice => ChannelCmd.descriptor
  | .router => ChannelCmd.descriptor
  | .coordinator => ChannelCmd.descriptor
  | .start => EmptyMessage.descriptor
  | .stop => EmptyMessage.descriptor
  | .mitm => ManInTheMiddleCmd.descriptor
  | .jammed => Jammed.descriptor
  | .edSample => EnergyDetectionSample.descriptor
  | .rawPdu => RawPduReceived.descriptor
  | .pdu => PduReceived.descriptor

/-- Whatever a member holds, its descriptor describes it. -/
theorem Dot15d4Kind.describes (k : Dot15d4Kind) (p : k.Struct) : k.descriptor.Describes (k.wire p) := by
  cases k <;> repeat' first
    | exact trivial | exact holds_bytes _ | exact holds_fixed _ | apply Descriptor.Describes.value_optional
    | constructor

end WhadLib.Dot15d4
