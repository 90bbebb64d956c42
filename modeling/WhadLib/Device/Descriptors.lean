import WhadLib.Descriptors
import WhadLib.Device.Structs

/-! The descriptors of the generic and the discovery messages, from the field lists of the generated
headers. The result code is a member of the union of `generic_Message` without a message of its own. -/
namespace WhadLib

def CmdResult.descriptor : Descriptor := .singular 1 .uenum <| .nil

def Progress.descriptor : Descriptor := .singular 1 .uint32 <| .nil

def GenericDebugMsg.descriptor : Descriptor := .singular 1 .uint32 <| .singular 2 (.callback .len) <| .nil

def VerboseMsg.descriptor : Descriptor := .singular 1 (.callback .len) <| .nil

def DeviceInfoQuery.descriptor : Descriptor := .singular 1 .uint32 <| .nil

def DeviceInfoResp.descriptor : Descriptor :=
  .singular 1 .uint32 <| .singular 2 (.fixedLengthBytes 16) <| .singular 3 .uint32 <|
  .singular 4 .uint32 <| .singular 5 (.bytes 64) <| .singular 6 (.bytes 256) <| .singular 7 .uint32 <|
  .singular 8 .uint32 <| .singular 9 .uint32 <| .singular 10 (.callback .varint) <| .nil

def DeviceDomainInfoQuery.descriptor : Descriptor := .singular 1 .uint32 <| .nil

def DeviceDomainInfoResp.descriptor : Descriptor := .singular 1 .uint32 <| .singular 2 .uint64 <| .nil

def SetTransportSpeed.descriptor : Descriptor := .singular 1 .uint32 <| .nil

/-- `generic_Message_fields`. -/
def genericDescriptor : Descriptor :=
  .oneof 1 .uenum <| .oneofMessage 2 CmdResult.descriptor <| .oneofMessage 3 Progress.descriptor <|
  .oneofMessage 4 GenericDebugMsg.descriptor <| .oneofMessage 5 VerboseMsg.descriptor <| .nil

/-- The descriptors of the members. -/
def DiscoveryKind.descriptor : DiscoveryKind → Descriptor
  | .resetQuery => EmptyMessage.descriptor
  | .readyResp => EmptyMessage.descriptor
  | .infoQuery => DeviceInfoQuery.descriptor
  | .infoResp => DeviceInfoResp.descriptor
  | .domainQuery => DeviceDomainInfoQuery.descriptor
  | .domainResp => DeviceDomainInfoResp.descriptor
  | .setSpeed => SetTransportSpeed.descriptor

/-- Whatever a member holds, its descriptor describes it. -/
theorem DiscoveryKind.describes (k : DiscoveryKind) (p : k.Struct) : k.descriptor.Describes (k.wire p) := by
  cases k <;> repeat' first
    | exact trivial | exact holds_bytes _ | exact holds_fixed _ | apply Descriptor.Describes.value_optional
    | constructor

end WhadLib
