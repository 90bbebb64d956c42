import WhadLib.Esb.Descriptors
import WhadLib.Unifying.Structs

/-! The descriptors of the Unifying messages: the generated header has the field lists of ESB. -/
namespace WhadLib.Unifying

/-- The descriptors of the members. -/
def UnifyingKind.descriptor : UnifyingKind → Descriptor
  | .setNodeAddr => Esb.SetNodeAddressCmd.descriptor
  | .sniff => Esb.SniffCmd.descriptor
  | .jam => ChannelCmd.descriptor
  | .send => Esb.SendCmd.descriptor
  | .sendRaw => Esb.SendCmd.descriptor
  | .dongle => ChannelCmd.descriptor
  | .keyboard => ChannelCmd.descriptor
  | .mouse => ChannelCmd.descriptor
  | .start => EmptyMessage.descriptor
  | .stop => EmptyMessage.descriptor
  | .jammed => Jammed.descriptor
  | .rawPdu => Esb.PduReceived.descriptor
  | .pdu => Esb.PduReceived.descriptor
  | .sniffPairing => EmptyMessage.descriptor

/-- Whatever a member holds, its descriptor describes it. -/
theorem UnifyingKind.describes (k : UnifyingKind) (p : k.Struct) : k.descriptor.Describes (k.wire p) := by
  cases k <;> repeat' first
    | exact trivial | exact holds_bytes _ | exact holds_fixed _ | apply Descriptor.Describes.value_optional
    | constructor

end WhadLib.Unifying
