import WhadLib.Esb.Structs

/-! The structures of the Logitech Unifying protocol, from the generated header. It declares field for
field the structures of ESB, over which it runs. -/
namespace WhadLib.Unifying
open Esb (PduReceived SendCmd SetNodeAddressCmd SniffCmd)

/-- The members of the union of `unifying_Message`. -/
inductive UnifyingKind
  | setNodeAddr | sniff | jam | send | sendRaw | dongle | keyboard | mouse | start | stop | jammed
  | rawPdu | pdu | sniffPairing
  deriving DecidableEq, Repr

/-- Their types. -/
abbrev UnifyingKind.Struct : UnifyingKind → Type
  | .setNodeAddr => SetNodeAddressCmd
  | .sniff => SniffCmd
  | .jam => ChannelCmd
  | .send => SendCmd
  | .sendRaw => SendCmd
  | .dongle => ChannelCmd
  | .keyboard => ChannelCmd
  | .mouse => ChannelCmd
  | .start => EmptyMessage
  | .stop => EmptyMessage
  | .jammed => Jammed
  | .rawPdu => PduReceived
  | .pdu => PduReceived
  | .sniffPairing => EmptyMessage

instance (k : UnifyingKind) : Inhabited k.Struct := by
  cases k <;> exact inferInstance

/-- `unifying_Message_*_tag`. -/
def UnifyingKind.tag : UnifyingKind → ℕ
  | .setNodeAddr => 1
  | .sniff => 2
  | .jam => 3
  | .send => 4
  | .sendRaw => 5
  | .dongle => 6
  | .keyboard => 7
  | .mouse => 8
  | .start => 9
  | .stop => 10
  | .jammed => 11
  | .rawPdu => 12
  | .pdu => 13
  | .sniffPairing => 14

def UnifyingKind.wire : (k : UnifyingKind) → k.Struct → Wire
  | .setNodeAddr, p => SetNodeAddressCmd.wire p
  | .sniff, p => SniffCmd.wire p
  | .jam, p => ChannelCmd.wire p
  | .send, p => SendCmd.wire p
  | .sendRaw, p => SendCmd.wire p
  | .dongle, p => ChannelCmd.wire p
  | .keyboard, p => ChannelCmd.wire p
  | .mouse, p => ChannelCmd.wire p
  | .start, p => EmptyMessage.wire p
  | .stop, p => EmptyMessage.wire p
  | .jammed, p => Jammed.wire p
  | .rawPdu, p => PduReceived.wire p
  | .pdu, p => PduReceived.wire p
  | .sniffPairing, p => EmptyMessage.wire p

/-- The members in the order of `unifying_Message_FIELDLIST`. -/
def UnifyingKind.all : List UnifyingKind :=
  [.setNodeAddr,.sniff,.jam,.send,.sendRaw,.dongle,.keyboard,.mouse,.start,.stop,.jammed,.rawPdu,
    .pdu,.sniffPairing]

end WhadLib.Unifying
