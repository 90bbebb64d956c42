import WhadLib.Decoded
import WhadLib.Device.Descriptors

/-! Every tree that a reader makes of a generic or a discovery message shows a structure. -/
namespace WhadLib

/-- The members of the generic message that are messages. -/
theorem CmdResult.covers : CmdResult.descriptor.Covers fun w => ∃ p : CmdResult, GenericKind.cmdResult.wire p = w :=
  .singular .uenum fun result => .nil ⟨⟨result⟩,rfl⟩

theorem Progress.covers : Progress.descriptor.Covers fun w => ∃ p : Progress, GenericKind.progress.wire p = w :=
  .singular .uint32 fun value => .nil ⟨⟨value⟩,rfl⟩

theorem GenericDebugMsg.covers :
    GenericDebugMsg.descriptor.Covers fun w => ∃ p : GenericDebugMsg, GenericKind.debug.wire p = w :=
  .singular .uint32 fun level => .callback <| .nil ⟨⟨level,.unset⟩,rfl⟩

theorem VerboseMsg.covers : VerboseMsg.descriptor.Covers fun w => ∃ p : VerboseMsg, GenericKind.verbose.wire p = w :=
  .callback <| .nil ⟨⟨.unset⟩,rfl⟩

theorem DiscoveryKind.covers (k : DiscoveryKind) : k.descriptor.Covers fun w => ∃ p : k.Struct, k.wire p = w := by
  cases k with
  | resetQuery => exact EmptyMessage.covers
  | readyResp => exact EmptyMessage.covers
  | infoQuery => exact .singular .uint32 fun protoVer => .nil ⟨⟨protoVer⟩,rfl⟩
  | infoResp =>
    exact .singular .uint32 fun type => .singular .fixed fun devid => .singular .uint32 fun protoMinVer =>
      .singular .uint32 fun maxSpeed => .singular .bytes fun fwAuthor => .singular .bytes fun fwUrl =>
      .singular .uint32 fun fwVersionMajor => .singular .uint32 fun fwVersionMinor =>
      .singular .uint32 fun fwVersionRev => .callback <| .nil ⟨{
        type := type, devid := devid, protoMinVer := protoMinVer, maxSpeed := maxSpeed, fwAuthor := fwAuthor
        fwUrl := fwUrl, fwVersionMajor := fwVersionMajor, fwVersionMinor := fwVersionMinor
        fwVersionRev := fwVersionRev, capabilities := .unset },rfl⟩
  | domainQuery => exact .singular .uint32 fun domain => .nil ⟨⟨domain⟩,rfl⟩
  | domainResp =>
    exact .singular .uint32 fun domain => .singular .uint64 fun supportedCommands =>
      .nil ⟨⟨domain,supportedCommands⟩,rfl⟩
  | setSpeed => exact .singular .uint32 fun speed => .nil ⟨⟨speed⟩,rfl⟩

end WhadLib
