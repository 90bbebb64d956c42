import WhadLib.Descriptors
import WhadLib.Protobuf.Decoded

/-! Every tree that a reader makes of a message that several domains declare alike shows a structure. -/
namespace WhadLib

theorem EmptyMessage.covers : EmptyMessage.descriptor.Covers fun w => ∃ p : EmptyMessage, p.wire = w := .nil ⟨⟨0⟩,rfl⟩

theorem ChannelCmd.covers : ChannelCmd.descriptor.Covers fun w => ∃ p : ChannelCmd, p.wire = w :=
  .singular .uint32 fun channel => .nil ⟨⟨channel⟩,rfl⟩

theorem Jammed.covers : Jammed.descriptor.Covers fun w => ∃ p : Jammed, p.wire = w :=
  .singular .uint64 fun timestamp => .nil ⟨⟨timestamp⟩,rfl⟩

end WhadLib
