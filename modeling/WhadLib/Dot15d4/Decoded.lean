import WhadLib.Decoded
import WhadLib.Dot15d4.Descriptors

/-! Every tree that a reader makes of an 802.15.4 message shows a structure. -/
namespace WhadLib.Dot15d4

theorem Dot15d4Kind.covers (k : Dot15d4Kind) : k.descriptor.Covers fun w => ∃ p : k.Struct, k.wire p = w := by
  cases k with
  | setNodeAddr =>
    exact .singular .uint64 fun address => .singular .uenum fun addressType => .nil ⟨⟨address,addressType⟩,rfl⟩
  | sniff => exact ChannelCmd.covers
  | jam => exact ChannelCmd.covers
  | ed => exact ChannelCmd.covers
  | send => exact .singular .uint32 fun channel => .singular .bytes fun pdu => .nil ⟨⟨channel,pdu⟩,rfl⟩
  | sendRaw =>
    exact .singular .uint32 fun channel => .singular .bytes fun pdu => .singular .uint32 fun fcs =>
      .nil ⟨⟨channel,pdu,fcs⟩,rfl⟩
  | endDevice => exact ChannelCmd.covers
  | router => exact ChannelCmd.covers
  | coordinator => exact ChannelCmd.covers
  | start => exact EmptyMessage.covers
  | stop => exact EmptyMessage.covers
  | mitm => exact .singular .uenum fun role => .nil ⟨⟨role⟩,rfl⟩
  | jammed => exact Jammed.covers
  | edSample => exact .singular .uint32 fun sample => .singular .uint64 fun timestamp => .nil ⟨⟨sample,timestamp⟩,rfl⟩
  | rawPdu =>
    exact .singular .uint32 fun channel => .optional .int32 fun rssi => .optional .uint64 fun timestamp =>
      .optional .bool fun fcsValidity => .singular .bytes fun pdu => .singular .uint32 fun fcs =>
      .optional .uint32 fun lqi => .nil ⟨⟨channel,rssi,timestamp,fcsValidity,pdu,fcs,lqi⟩,rfl⟩
  | pdu =>
    exact .singular .uint32 fun channel => .optional .int32 fun rssi => .optional .uint64 fun timestamp =>
      .optional .bool fun fcsValidity => .singular .bytes fun pdu => .optional .uint32 fun lqi =>
      .nil ⟨⟨channel,rssi,timestamp,fcsValidity,pdu,lqi⟩,rfl⟩

end WhadLib.Dot15d4
