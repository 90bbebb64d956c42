import WhadLib.Descriptors
import WhadLib.Esb.Structs

/-! The descriptors of the ESB messages, from the field lists of the generated header. -/
namespace WhadLib.Esb

def PduReceived.descriptor : Descriptor :=
  .singular 1 .uint32 <| .optional 2 .int32 <| .optional 3 .uint64 <| .optional 4 .bool <|
  .optional 5 (.bytes 5) <| .singular 6 (.bytes 255) <| .nil

def SendCmd.descriptor : Descriptor :=
  .singular 1 .uint32 <| .singular 2 .uint32 <| .singular 3 (.bytes 255) <| .nil

def SetNodeAddressCmd.descriptor : Descriptor := .singular 1 (.bytes 5) <| .nil

def SniffCmd.descriptor : Descriptor :=
  .singular 1 .uint32 <| .singular 2 (.bytes 5) <| .singular 3 .bool <| .nil

/-- The descriptors of the members. -/
def EsbKind.descriptor : EsbKind → Descriptor
  | .setNodeAddr => SetNodeAddressCmd.descriptor
  | .sniff => SniffCmd.descriptor
  | .jam => ChannelCmd.descriptor
  | .send => SendCmd.descriptor
  | .sendRaw => SendCmd.descriptor
  | .prx => ChannelCmd.descriptor
  | .ptx => ChannelCmd.descriptor
  | .start => EmptyMessage.descriptor
  | .stop => EmptyMessage.descriptor
  | .jammed => Jammed.descriptor
  | .rawPdu => PduReceived.descriptor
  | .pdu => PduReceived.descriptor

/-- Whatever a member holds, its descriptor describes it. -/
theorem EsbKind.describes (k : EsbKind) (p : k.Struct) : k.descriptor.Describes (k.wire p) := by
  cases k <;> repeat' first
    | exact trivial | exact holds_bytes _ | exact holds_fixed _ | apply Descriptor.Describes.value_optional
    | constructor

end WhadLib.Esb
