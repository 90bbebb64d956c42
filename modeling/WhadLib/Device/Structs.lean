import WhadLib.Structs

/-! The structures of the generic and the discovery messages, from the generated headers. -/
namespace WhadLib
open Library

/-- `generic_ResultCode`, and `whad_result_code_t`. -/
inductive ResultCode
  | success | error | parameterError | disconnected | wrongMode | unsupportedDomain | busy
  deriving DecidableEq, Repr

structure CmdResult where
  result : EnumField ResultCode
  deriving Inhabited

/-- `generic_Progress`. -/
structure Progress where
  value : UInt32
  deriving Inhabited

structure VerboseMsg where
  data : PbCallback
  deriving Inhabited

/-- The members of the union of `generic_Message`. -/
inductive GenericKind
  | result | cmdResult | progress | debug | verbose
  deriving DecidableEq, Repr

abbrev GenericKind.Struct : GenericKind → Type
  | .result => EnumField ResultCode
  | .cmdResult => CmdResult
  | .progress => Progress
  | .debug => GenericDebugMsg
  | .verbose => VerboseMsg

instance (k : GenericKind) : Inhabited k.Struct := by
  cases k <;> exact inferInstance

/-- `generic_Message_*_tag`. -/
def GenericKind.tag : GenericKind → ℕ
  | .result => 1
  | .cmdResult => 2
  | .progress => 3
  | .debug => 4
  | .verbose => 5

/-- The fields of the submessage; `result` is a number and no submessage. -/
def GenericKind.wire : (k : GenericKind) → k.Struct → Wire
  | .result, p => .field 1 (.present (value p)) .nil
  | .cmdResult, p => .field 1 (value p.result) .nil
  | .progress, p => .field 1 (value p.value) .nil
  | .debug, p => .field 1 (value p.level) <| .field 2 (.callback .len p.data) .nil
  | .verbose, p => .field 1 (.callback .len p.data) .nil

def GenericKind.all : List GenericKind := [.result,.cmdResult,.progress,.debug,.verbose]

/-- `discovery_DeviceType`. -/
inductive DeviceType
  | esp32BleFuzzer | butterfly | btleJack | virtualDevice
  deriving DecidableEq, Repr

structure DeviceInfoQuery where
  protoVer : UInt32
  deriving Inhabited

structure DeviceDomainInfoQuery where
  domain : UInt32
  deriving Inhabited

structure SetTransportSpeed where
  speed : UInt32
  deriving Inhabited

def DeviceInfoResp.wire (p : DeviceInfoResp) : Wire :=
  .field 1 (value p.type) <| .field 2 (value p.devid) <| .field 3 (value p.protoMinVer) <|
  .field 4 (value p.maxSpeed) <| .field 5 (value p.fwAuthor) <| .field 6 (value p.fwUrl) <|
  .field 7 (value p.fwVersionMajor) <| .field 8 (value p.fwVersionMinor) <|
  .field 9 (value p.fwVersionRev) <| .field 10 (.callback .varint p.capabilities) .nil

/-- The members of the union of `discovery_Message`. -/
inductive DiscoveryKind
  | resetQuery | readyResp | infoQuery | infoResp | domainQuery | domainResp | setSpeed
  deriving DecidableEq, Repr

abbrev DiscoveryKind.Struct : DiscoveryKind → Type
  | .resetQuery => EmptyMessage
  | .readyResp => EmptyMessage
  | .infoQuery => DeviceInfoQuery
  | .infoResp => DeviceInfoResp
  | .domainQuery => DeviceDomainInfoQuery
  | .domainResp => DeviceDomainInfoResp
  | .setSpeed => SetTransportSpeed

instance (k : DiscoveryKind) : Inhabited k.Struct := by
  cases k <;> exact inferInstance

/-- `discovery_Message_*_tag`. -/
def DiscoveryKind.tag : DiscoveryKind → ℕ
  | .resetQuery => 1
  | .readyResp => 2
  | .infoQuery => 3
  | .infoResp => 4
  | .domainQuery => 5
  | .domainResp => 6
  | .setSpeed => 7

def DiscoveryKind.wire : (k : DiscoveryKind) → k.Struct → Wire
  | .resetQuery, p => EmptyMessage.wire p
  | .readyResp, p => EmptyMessage.wire p
  | .infoQuery, p => .field 1 (value p.protoVer) .nil
  | .infoResp, p => p.wire
  | .domainQuery, p => .field 1 (value p.domain) .nil
  | .domainResp, p => .field 1 (value p.domain) <| .field 2 (value p.supportedCommands) .nil
  | .setSpeed, p => .field 1 (value p.speed) .nil

def DiscoveryKind.all : List DiscoveryKind :=
  [.resetQuery,.readyResp,.infoQuery,.infoResp,.domainQuery,.domainResp,.setSpeed]

end WhadLib
