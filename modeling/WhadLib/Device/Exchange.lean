import WhadLib.Exchange

/-! The discovery and generic messages that have a parser: the other side reads the arguments of the builder. -/
namespace WhadLib
open Library

inductive DeviceCommand
  | discoveryDeviceInfoQuery (protoVersion : UInt32)
  | discoveryDomainInfoQuery (domain : UInt32)
  | discoverySetSpeed (speed : UInt32)
  | genericCmdResult (result : EnumField ResultCode)

namespace DeviceCommand

def builder : DeviceCommand → DeviceBuilder
  | discoveryDeviceInfoQuery protoVersion => .discoveryDeviceInfoQuery protoVersion
  | discoveryDomainInfoQuery domain => .discoveryDomainInfoQuery domain
  | discoverySetSpeed speed => .discoverySetSpeed speed
  | genericCmdResult result => .genericCmdResult result

/-- The parser of the message returns its argument. -/
def Returned : DeviceCommand → FullMessage → Prop
  | discoveryDeviceInfoQuery protoVersion => Returns whadDiscoveryDeviceInfoQueryParse (· = protoVersion)
  | discoveryDomainInfoQuery domain => Returns whadDiscoveryDomainInfoQueryParse (· = domain)
  | discoverySetSpeed speed => Returns whadDiscoverySetSpeedParse (· = speed)
  | genericCmdResult result => Returns whadGenericCmdResultParse (· = result)

def Narrow : DeviceCommand → Prop
  | genericCmdResult result => result.Narrow
  | _ => True

end DeviceCommand

theorem deviceCommand_exchanged (c : DeviceCommand) (h : c.Narrow) (m : FullMessage) :
    Exchanged (.device c.builder) c.Returned m := by
  cases c with
  | genericCmdResult result =>
    have hnarrow : result.Narrow := h
    exact (exchanged_iff whadGenericCmdResultParse (fun s => .device (.genericCmdResult (some s)))
      (fun _ _ => ⟨rfl,trivial,id⟩) rfl (by simpa [Kind.wire, GenericKind.wire] using hnarrow) fun _ => rfl).mpr fun _ => rfl
  | discoveryDeviceInfoQuery =>
    exact (exchanged_iff whadDiscoveryDeviceInfoQueryParse (fun s => .device (.discoveryDeviceInfoQuery (some s)))
      (fun _ _ => ⟨rfl,trivial,id⟩) rfl (by simp [Kind.wire, DiscoveryKind.wire]) fun _ => rfl).mpr fun _ => rfl
  | discoveryDomainInfoQuery =>
    exact (exchanged_iff whadDiscoveryDomainInfoQueryParse (fun s => .device (.discoveryDomainInfoQuery (some s)))
      (fun _ _ => ⟨rfl,trivial,id⟩) rfl (by simp [Kind.wire, DiscoveryKind.wire]) fun _ => rfl).mpr fun _ => rfl
  | discoverySetSpeed =>
    exact (exchanged_iff whadDiscoverySetSpeedParse (fun s => .device (.discoverySetSpeed (some s)))
      (fun _ _ => ⟨rfl,trivial,id⟩) rfl (by simp [Kind.wire, DiscoveryKind.wire]) fun _ => rfl).mpr fun _ => rfl

end WhadLib
