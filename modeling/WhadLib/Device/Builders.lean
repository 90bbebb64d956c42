import WhadLib.FullMessage

/-! The builders of the discovery and the generic messages, in the order of the source. A text is the list
of its characters before the terminator. -/
namespace WhadLib
open Library

/-- `strncpy`: the characters of the text, then zeros, `length` bytes in all. -/
def strncpy {n : ℕ} (dst : Vector UInt8 n) (text : List UInt8) (length : ℕ) : Vector UInt8 n :=
  Vector.ofFn fun i => if i.val < length then text.getD i.val 0 else dst.get i

/-- A text of which at most `length` characters are copied, while the size is that of the whole text. -/
def storeText {n : ℕ} (x : BytesArray n) (text : Option (List UInt8)) (length : ℕ) : BytesArray n :=
  match text with
  | some text => { x with size := sizeOf16 text.length, bytes := strncpy x.bytes text length }
  | none => { x with size := 0 }

/-- `whad_discovery_get_supported_commands`; the list of capabilities ends with a domain of zero. -/
def whadDiscoveryGetSupportedCommands (domain : UInt32) : List DomainDesc → UInt64
  | [] => 0
  | c :: cs =>
    if c.domain = 0 then 0
    else if c.domain = domain then c.supportedCommands
    else whadDiscoveryGetSupportedCommands domain cs

def whadDiscoveryDeviceInfoQuery (message : Option FullMessage) (protoVersion : UInt32) : Outcome :=
  checked message fun m => m.assign (.discovery .infoQuery) fun (p : DeviceInfoQuery) =>
    { p with protoVer := protoVersion }

/-- The last byte of the device identifier is not written. -/
def whadDiscoveryDeviceInfoResp (message : Option FullMessage) (deviceType : EnumField DeviceType)
    (devid : Option (List UInt8)) (protoMinVer maxSpeed : UInt32) (fwAuthor fwUrl : Option (List UInt8))
    (fwVersionMajor fwVersionMinor fwVersionRev : UInt32) (capabilities : List DomainDesc) : Outcome :=
  checked message fun m => m.build (.discovery .infoResp) fun (p : DeviceInfoResp) => do
    let devid ← devid
    done { p with
      protoMinVer := protoMinVer, maxSpeed := maxSpeed, fwAuthor := storeText p.fwAuthor fwAuthor 63
      fwUrl := storeText p.fwUrl fwUrl 255, fwVersionMajor := fwVersionMajor, fwVersionMinor := fwVersionMinor
      fwVersionRev := fwVersionRev, type := UInt32.ofInt deviceType.raw, devid := strncpy p.devid devid 15
      capabilities := .enumCapabilities capabilities }

def whadDiscoveryDomainInfoQuery (message : Option FullMessage) (domain : UInt32) : Outcome :=
  checked message fun m => m.assign (.discovery .domainQuery) fun (p : DeviceDomainInfoQuery) =>
    { p with domain := domain }

def whadDiscoveryDomainInfoResp (message : Option FullMessage) (domain : UInt32)
    (pCapabilities : Option (List DomainDesc)) : Outcome :=
  checked message fun m => m.build (.discovery .domainResp) fun (p : DeviceDomainInfoResp) => do
    let capabilities ← pCapabilities
    done { p with
      domain := domain, supportedCommands := whadDiscoveryGetSupportedCommands domain capabilities }

def whadDiscoveryDeviceReset (message : Option FullMessage) : Outcome :=
  checked message fun m => m.assign (.discovery .resetQuery) fun p => p

def whadDiscoveryReadyResp (message : Option FullMessage) : Outcome :=
  checked message fun m => m.assign (.discovery .readyResp) fun p => p

def whadDiscoverySetSpeed (message : Option FullMessage) (speed : UInt32) : Outcome :=
  checked message fun m => m.assign (.discovery .setSpeed) fun (p : SetTransportSpeed) => { p with speed := speed }

def whadGenericCmdResult (message : Option FullMessage) (result : EnumField ResultCode) : Outcome :=
  checked message fun m => m.assign (.generic .cmdResult) fun (p : CmdResult) => { p with result := result }

def whadGenericVerboseMessage (message : Option FullMessage) (text : List UInt8) : Outcome :=
  checked message fun m => m.assign (.generic .verbose) fun (p : VerboseMsg) => { p with data := .verboseMsg text }

def whadGenericDebugMessage (message : Option FullMessage) (level : UInt32) (text : List UInt8) : Outcome :=
  checked message fun m => m.assign (.generic .debug) fun (p : GenericDebugMsg) =>
    { p with level := level, data := .debugMsg text }

def whadGenericProgressMessage (message : Option FullMessage) (value : UInt32) : Outcome :=
  checked message fun m => m.assign (.generic .progress) fun (p : Progress) => { p with value := value }

/-- The calls of the builders, with every argument but the message. -/
inductive DeviceBuilder
  | discoveryDeviceInfoQuery (protoVersion : UInt32)
  | discoveryDeviceInfoResp (deviceType : EnumField DeviceType) (devid : Option (List UInt8))
      (protoMinVer maxSpeed : UInt32) (fwAuthor fwUrl : Option (List UInt8))
      (fwVersionMajor fwVersionMinor fwVersionRev : UInt32) (capabilities : List DomainDesc)
  | discoveryDomainInfoQuery (domain : UInt32)
  | discoveryDomainInfoResp (domain : UInt32) (pCapabilities : Option (List DomainDesc))
  | discoveryDeviceReset
  | discoveryReadyResp
  | discoverySetSpeed (speed : UInt32)
  | genericCmdResult (result : EnumField ResultCode)
  | genericVerboseMessage (text : List UInt8)
  | genericDebugMessage (level : UInt32) (text : List UInt8)
  | genericProgressMessage (value : UInt32)

abbrev DeviceBuilder.run : DeviceBuilder → Option FullMessage → Outcome
  | .discoveryDeviceInfoQuery protoVersion, m => whadDiscoveryDeviceInfoQuery m protoVersion
  | .discoveryDeviceInfoResp deviceType devid protoMinVer maxSpeed fwAuthor fwUrl fwVersionMajor
      fwVersionMinor fwVersionRev capabilities, m =>
    whadDiscoveryDeviceInfoResp m deviceType devid protoMinVer maxSpeed fwAuthor fwUrl fwVersionMajor
      fwVersionMinor fwVersionRev capabilities
  | .discoveryDomainInfoQuery domain, m => whadDiscoveryDomainInfoQuery m domain
  | .discoveryDomainInfoResp domain pCapabilities, m => whadDiscoveryDomainInfoResp m domain pCapabilities
  | .discoveryDeviceReset, m => whadDiscoveryDeviceReset m
  | .discoveryReadyResp, m => whadDiscoveryReadyResp m
  | .discoverySetSpeed speed, m => whadDiscoverySetSpeed m speed
  | .genericCmdResult result, m => whadGenericCmdResult m result
  | .genericVerboseMessage text, m => whadGenericVerboseMessage m text
  | .genericDebugMessage level text, m => whadGenericDebugMessage m level text
  | .genericProgressMessage value, m => whadGenericProgressMessage m value

end WhadLib
