import WhadLib.Types
import WhadLib.Nanopb
import WhadLib.Board.Structs

/-! The `Message` of the protocol. A union is modelled by what it reads as through each of its
members, together with the tag that says which one is in use; a builder writes the tag and its
own member. The members of the BLE, 802.15.4, ESB and Unifying domains, and of the PHY messages
without a callback of the library, are kept as the fields `pb_encode` walks. -/
namespace WhadLib
open Library

/-- `whad_domain_t`. -/
inductive WhadDomain
  | none | phy | btClassic | btle | dot15d4 | sixlowpan | esb | logitechUnifying | mosart | ant
  | antPlus | antFs | board
  deriving DecidableEq, Repr

/-- `whad_msgtype_t`. -/
inductive WhadMsgtype
  | unknown
  | generic
  | discovery
  | domain
  deriving DecidableEq, Repr

/-- `whad_domain_desc_t`. -/
structure DomainDesc where
  domain : UInt32
  cap : UInt32
  supportedCommands : UInt64
  deriving DecidableEq, Repr

/-- `phy_SupportedFrequencyRanges_FrequencyRange`, and `whad_phy_frequency_range_t`. -/
structure FrequencyRange where
  start : UInt32
  stop : UInt32
  deriving DecidableEq, Repr

/-- An address of the heap. -/
abbrev Address := ℕ

/-- A `pb_callback_t`: one of the encode functions of the library with its argument. Texts and
capability tables belong to the application and are taken by value, a text without its
terminator; the list of frequency ranges lies on the heap. -/
inductive PbCallback
  | unset
  | verboseMsg (text : List UInt8)
  | debugMsg (text : List UInt8)
  | enumCapabilities (capabilities : List DomainDesc)
  | frequencyRange (arg : Option Address)
  deriving DecidableEq, Repr, Inhabited

/-- A callback field with its descriptor. -/
structure CallbackField where
  field : PbField
  callback : PbCallback
  deriving DecidableEq, Repr

structure GenericDebugMsg where
  level : UInt32
  data : PbCallback
  deriving Inhabited

/-- `generic_Message`; `verbose` is the field of `generic_VerboseMsg`. -/
structure GenericMessage where
  whichMsg : ℕ
  result : UInt32
  cmdResult : UInt32
  progress : UInt32
  debug : GenericDebugMsg
  verbose : PbCallback
  deriving Inhabited

/-- `discovery_DeviceInfoResp`. -/
structure DeviceInfoResp where
  type : UInt32
  devid : Vector UInt8 16
  protoMinVer : UInt32
  maxSpeed : UInt32
  fwAuthor : BytesArray 64
  fwUrl : BytesArray 256
  fwVersionMajor : UInt32
  fwVersionMinor : UInt32
  fwVersionRev : UInt32
  capabilities : PbCallback
  deriving Inhabited

structure DeviceDomainInfoResp where
  domain : UInt32
  supportedCommands : UInt64
  deriving Inhabited

/-- `discovery_Message`. -/
structure DiscoveryMessage where
  whichMsg : ℕ
  infoQuery : UInt32
  infoResp : DeviceInfoResp
  domainQuery : UInt32
  domainResp : DeviceDomainInfoResp
  setSpeed : UInt32
  deriving Inhabited

/-- `phy_Message`; `other` gives the content of the member with a given tag. -/
structure PhyMessage where
  whichMsg : ℕ
  supportedFreq : PbCallback
  other : ℕ → Fields CallbackField
  deriving Inhabited

/-- `board_Message`. -/
structure BoardMessage where
  requestId : UInt32
  whichMsg : ℕ
  msg : (k : Board.BoardKind) → k.Struct
  deriving Inhabited

structure Message where
  whichMsg : ℕ
  generic : GenericMessage
  discovery : DiscoveryMessage
  ble : Fields CallbackField
  dot15d4 : Fields CallbackField
  esb : Fields CallbackField
  unifying : Fields CallbackField
  phy : PhyMessage
  board : BoardMessage
  deriving Inhabited

namespace Message

def genericTag : ℕ := 1
def discoveryTag : ℕ := 2
def bleTag : ℕ := 3
def dot15d4Tag : ℕ := 4
def esbTag : ℕ := 5
def unifyingTag : ℕ := 6
def phyTag : ℕ := 7
def boardTag : ℕ := 8

end Message

def whadGetMessageType (m : Message) : WhadMsgtype :=
  if m.whichMsg = Message.genericTag then .generic
  else if m.whichMsg = Message.discoveryTag then .discovery
  else if m.whichMsg ∈ [Message.bleTag,Message.esbTag,Message.phyTag,Message.unifyingTag,
    Message.dot15d4Tag,Message.boardTag] then .domain
  else .unknown

def whadGetMessageDomain (m : Message) : WhadDomain :=
  if m.whichMsg = Message.bleTag then .btle
  else if m.whichMsg = Message.esbTag then .esb
  else if m.whichMsg = Message.phyTag then .phy
  else if m.whichMsg = Message.unifyingTag then .logitechUnifying
  else if m.whichMsg = Message.dot15d4Tag then .dot15d4
  else if m.whichMsg = Message.boardTag then .board
  else .none

/-- The tag of the messages of a domain. -/
def WhadDomain.messageTag : WhadDomain → Option ℕ
  | .btle => some Message.bleTag
  | .esb => some Message.esbTag
  | .phy => some Message.phyTag
  | .logitechUnifying => some Message.unifyingTag
  | .dot15d4 => some Message.dot15d4Tag
  | .board => some Message.boardTag
  | _ => Option.none

theorem whadGetMessageDomain_eq_iff (m : Message) {d : WhadDomain} {tag : ℕ}
    (hd : d.messageTag = some tag) : whadGetMessageDomain m = d ↔ m.whichMsg = tag := by
  constructor
  · rintro rfl
    unfold whadGetMessageDomain at hd
    repeat' split at hd
    all_goals simp_all [WhadDomain.messageTag]
  · intro h
    cases d <;> simp only [WhadDomain.messageTag, Option.some.injEq, reduceCtorEq] at hd <;>
      rw [whadGetMessageDomain, h, ← hd] <;> rfl

end WhadLib
