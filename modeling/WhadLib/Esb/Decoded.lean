import WhadLib.Decoded
import WhadLib.Unifying.Descriptors

/-! Every tree that a reader makes of an ESB or a Unifying message shows a structure. -/
namespace WhadLib.Esb

theorem SetNodeAddressCmd.covers : SetNodeAddressCmd.descriptor.Covers fun w => ∃ p : SetNodeAddressCmd, p.wire = w :=
  .singular .bytes fun address => .nil ⟨⟨address⟩,rfl⟩

theorem SniffCmd.covers : SniffCmd.descriptor.Covers fun w => ∃ p : SniffCmd, p.wire = w :=
  .singular .uint32 fun channel => .singular .bytes fun address => .singular .bool fun showAcknowledgements =>
    .nil ⟨⟨channel,address,showAcknowledgements⟩,rfl⟩

theorem SendCmd.covers : SendCmd.descriptor.Covers fun w => ∃ p : SendCmd, p.wire = w :=
  .singular .uint32 fun channel => .singular .uint32 fun retransmissionCount => .singular .bytes fun pdu =>
    .nil ⟨⟨channel,retransmissionCount,pdu⟩,rfl⟩

theorem PduReceived.covers : PduReceived.descriptor.Covers fun w => ∃ p : PduReceived, p.wire = w :=
  .singular .uint32 fun channel => .optional .int32 fun rssi => .optional .uint64 fun timestamp =>
    .optional .bool fun crcValidity => .optional .bytes fun address => .singular .bytes fun pdu =>
    .nil ⟨⟨channel,rssi,timestamp,crcValidity,address,pdu⟩,rfl⟩

theorem EsbKind.covers (k : EsbKind) : k.descriptor.Covers fun w => ∃ p : k.Struct, k.wire p = w := by
  cases k with
  | setNodeAddr => exact SetNodeAddressCmd.covers
  | sniff => exact SniffCmd.covers
  | jam => exact ChannelCmd.covers
  | send => exact SendCmd.covers
  | sendRaw => exact SendCmd.covers
  | prx => exact ChannelCmd.covers
  | ptx => exact ChannelCmd.covers
  | start => exact EmptyMessage.covers
  | stop => exact EmptyMessage.covers
  | jammed => exact Jammed.covers
  | rawPdu => exact PduReceived.covers
  | pdu => exact PduReceived.covers

end WhadLib.Esb

namespace WhadLib.Unifying
open Esb (SetNodeAddressCmd.covers SniffCmd.covers SendCmd.covers PduReceived.covers)

theorem UnifyingKind.covers (k : UnifyingKind) : k.descriptor.Covers fun w => ∃ p : k.Struct, k.wire p = w := by
  cases k with
  | setNodeAddr => exact SetNodeAddressCmd.covers
  | sniff => exact SniffCmd.covers
  | jam => exact ChannelCmd.covers
  | send => exact SendCmd.covers
  | sendRaw => exact SendCmd.covers
  | dongle => exact ChannelCmd.covers
  | keyboard => exact ChannelCmd.covers
  | mouse => exact ChannelCmd.covers
  | start => exact EmptyMessage.covers
  | stop => exact EmptyMessage.covers
  | jammed => exact Jammed.covers
  | rawPdu => exact PduReceived.covers
  | pdu => exact PduReceived.covers
  | sniffPairing => exact EmptyMessage.covers

end WhadLib.Unifying
