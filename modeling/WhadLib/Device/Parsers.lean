import WhadLib.Agreement
import WhadLib.Device.Builders

/-! The parsers of the discovery and the generic messages, in the order of the source. They are the only ones
that look at both tags of the message. -/
namespace WhadLib
open Library

/-- Nothing is written but for the member that the tags name. -/
def fetchTagged {S : Type} (message : Option FullMessage) (out : Option S) (domain member : ℕ)
    (read : FullMessage → S) : Parsed S :=
  parse message out fun m s =>
    if m.whichMsg = domain then
      if m.whichDomainMsg = member then done (read m) else failed s
    else failed s

def whadDiscoveryDeviceInfoQueryParse (message : Option FullMessage) (pProtoVersion : Option UInt32) : Parsed UInt32 :=
  fetchTagged message pProtoVersion Message.discoveryTag (DiscoveryKind.tag .infoQuery) fun m =>
    DeviceInfoQuery.protoVer (m.msg (.discovery .infoQuery))

def whadDiscoveryDomainInfoQueryParse (message : Option FullMessage) (pDomain : Option UInt32) : Parsed UInt32 :=
  fetchTagged message pDomain Message.discoveryTag (DiscoveryKind.tag .domainQuery) fun m =>
    DeviceDomainInfoQuery.domain (m.msg (.discovery .domainQuery))

def whadDiscoverySetSpeedParse (message : Option FullMessage) (pSpeed : Option UInt32) : Parsed UInt32 :=
  fetchTagged message pSpeed Message.discoveryTag (DiscoveryKind.tag .setSpeed) fun m =>
    SetTransportSpeed.speed (m.msg (.discovery .setSpeed))

def whadGenericCmdResultParse (message : Option FullMessage) (pResult : Option (EnumField ResultCode)) :
    Parsed (EnumField ResultCode) :=
  fetchTagged message pResult Message.genericTag (GenericKind.tag .cmdResult) fun m =>
    CmdResult.result (m.msg (.generic .cmdResult))

/-- The calls of the parsers, with their outputs. -/
inductive DeviceParser
  | discoveryDeviceInfoQuery (pProtoVersion : Option UInt32)
  | discoveryDomainInfoQuery (pDomain : Option UInt32)
  | discoverySetSpeed (pSpeed : Option UInt32)
  | genericCmdResult (pResult : Option (EnumField ResultCode))

/-- The messages that a parser is for. -/
def DeviceParser.kind : DeviceParser → Kind
  | .discoveryDeviceInfoQuery .. => .discovery .infoQuery
  | .discoveryDomainInfoQuery .. => .discovery .domainQuery
  | .discoverySetSpeed .. => .discovery .setSpeed
  | .genericCmdResult .. => .generic .cmdResult

/-- A parser says the same of two messages. -/
def DeviceParser.ReadsAlike : DeviceParser → FullMessage → FullMessage → Prop
  | .discoveryDeviceInfoQuery pProtoVersion => WhadLib.ReadsAlike (whadDiscoveryDeviceInfoQueryParse · pProtoVersion)
  | .discoveryDomainInfoQuery pDomain => WhadLib.ReadsAlike (whadDiscoveryDomainInfoQueryParse · pDomain)
  | .discoverySetSpeed pSpeed => WhadLib.ReadsAlike (whadDiscoverySetSpeedParse · pSpeed)
  | .genericCmdResult pResult => WhadLib.ReadsAlike (whadGenericCmdResultParse · pResult)

section
variable {m m' : FullMessage}

theorem readsAlike_of_tagged {S : Type} {out : Option S} {domain member : ℕ} {read : FullMessage → S}
    (hdomain : m.whichMsg = m'.whichMsg) (hmember : m.whichDomainMsg = m'.whichDomainMsg) (h : read m = read m') :
    WhadLib.ReadsAlike (fetchTagged · out domain member read) m m' :=
  readsAlike_of_body fun s => by rw [hdomain, hmember, h]

theorem deviceParser_readsAlike (c : DeviceParser) (hm : m.Holds c.kind) (hm' : m'.Holds c.kind)
    (h : c.kind.wire (m.msg c.kind) = c.kind.wire (m'.msg c.kind)) : c.ReadsAlike m m' := by
  have hdomain : m.whichMsg = m'.whichMsg := hm.domain.trans hm'.domain.symm
  have hmember : m.whichDomainMsg = m'.whichDomainMsg := hm.tag.trans hm'.tag.symm
  cases c with
  | genericCmdResult pResult =>
    simp [DeviceParser.kind, Kind.wire, GenericKind.wire] at h
    exact readsAlike_of_tagged hdomain hmember h
  | _ =>
    simp [DeviceParser.kind, Kind.wire, DiscoveryKind.wire] at h
    exact readsAlike_of_tagged hdomain hmember h

end
end WhadLib
