import WhadLib.Cpp.Wrapper
import WhadLib.Esb.Parsers

/-! The wrapper classes of the ESB domain, in the order of the source. The builders read a structure that is
local to `pack()` as far as it was filled. What the Unifying domain shares is stated on the address class
and the member. -/
namespace WhadLib.Esb.Wrapper
open Library Cpp

/-- A class of addresses, with the members of `whad_esb_address_t`: how it is constructed and how it is set. -/
structure AddressClass where
  construct : Vector UInt8 5 → EsbAddress
  set : EsbAddress → Buffer → ℤ → Option EsbAddress

/-- `EsbAddress`, which takes its size in eight bits. -/
def esbAddress : AddressClass where
  construct _ := ⟨memset 0,0⟩
  set address pAddress size :=
    let size := UInt8.ofInt size
    if size ≤ 5 then do
      let bytes ← memcpy address.address pAddress size.toNat
      some ⟨bytes,size.toNat⟩
    else some address

/-! The classes that the two domains share. -/

/-- `SetNodeAddress`. -/
def nodeAddress (A : AddressClass) (kind : Kind) (parser : Option FullMessage → Option EsbAddress → Parsed EsbAddress)
    (builder : Option FullMessage → Option EsbAddress → Outcome) (member : FullMessage → SetNodeAddressCmd) :
    WrapperClass where
  kind := kind
  Memory := Vector UInt8 5 × EsbAddress
  Object := EsbAddress
  construct m memory := do
    let addr ← parsedBy (parser (some m) (some memory.2))
    let address ← A.set (A.construct memory.1) (bufferOf addr.address) addr.size
    some (m,address)
  pack m o := packed (builder (some m) (some o))
  Shows m o := ReadsAs (member m).address (bufferOf o.address) o.size

/-- `SniffMode`. -/
def sniffing (A : AddressClass) (kind : Kind)
    (parser : Option FullMessage → Option EsbSniffParams → Parsed EsbSniffParams)
    (builder : Option FullMessage → Option EsbAddress → UInt32 → Bool → Outcome) (member : FullMessage → SniffCmd) :
    WrapperClass where
  kind := kind
  Memory := Vector UInt8 5 × EsbSniffParams
  Object := EsbSniffParams
  construct m memory := do
    let params ← parsedBy (parser (some m) (some memory.2))
    let address ← A.set (A.construct memory.1) (bufferOf params.address.address) params.address.size
    some (m,{ params with address := address })
  pack m o := packed (builder (some m) (some o.address) o.channel o.showAcks)
  Shows m o :=
    o.channel = (member m).channel ∧ ReadsAs (member m).address (bufferOf o.address.address) o.address.size ∧
      o.showAcks = (member m).showAcknowledgements

/-- `SendPacket` and `SendPacketRaw`. -/
structure SendPacket where
  channel : UInt32
  retries : UInt32
  packet : Packet 255

/-- What the members are set to. -/
def SendPacket.ofParams (params : EsbSendParams) : Option SendPacket := do
  let packet ← Packet.setBytes (bufferOf params.packet.bytes) params.packet.length.toNat
  some ⟨params.channel,params.retrCount,packet⟩

/-- The builder takes the number of retries as an `int` and the length in eight bits. -/
def SendPacket.pack (builder : Option FullMessage → UInt32 → ℤ → Option Buffer → UInt8 → Outcome) (m : FullMessage)
    (o : SendPacket) : Option FullMessage :=
  packed (builder (some m) o.channel o.retries.toInt32.toInt (some o.packet.getBytes) (UInt8.ofInt o.packet.getSize))

/-- The classes with a packet to send; `retries` is what the accessor of the number of retries shows. -/
def sending (kind : Kind) (parser : Option FullMessage → Option EsbSendParams → Parsed EsbSendParams)
    (builder : Option FullMessage → UInt32 → ℤ → Option Buffer → UInt8 → Outcome) (member : FullMessage → SendCmd)
    (retries : UInt32 → UInt32 → Prop) : WrapperClass where
  kind := kind
  Memory := EsbSendParams
  Object := SendPacket
  construct m memory := do
    let params ← parsedBy (parser (some m) (some memory))
    let o ← SendPacket.ofParams params
    some (m,o)
  pack := SendPacket.pack builder
  Shows m o :=
    o.channel = (member m).channel ∧ retries o.retries (member m).retransmissionCount ∧
      ReadsAs (member m).pdu o.packet.getBytes o.packet.getSize

/-! The classes. -/

def jamMode : WrapperClass :=
  .unpacking (.esb .jam) whadEsbJamParse whadEsbJam fun m o => o = ChannelCmd.channel (m.msg (.esb .jam))

def jammed : WrapperClass :=
  .unpacking (.esb .jammed) whadEsbJammedParse whadEsbJammed fun m o =>
    o.toUInt64 = Jammed.timestamp (m.msg (.esb .jammed))

/-- `RawPacketReceived`; the members with a flag are optional. -/
structure RawPacketReceived where
  channel : UInt32
  rssi : OptionalField Int32
  timestamp : OptionalField UInt32
  crcValidity : OptionalField Bool
  address : OptionalField EsbAddress
  packet : Packet 255

namespace RawPacketReceived

/-- The members that are objects are constructed. -/
def init (memory : RawPacketReceived) : RawPacketReceived :=
  { memory with address := ⟨memory.address.has,esbAddress.construct (memset 0)⟩, packet := .empty }

def unpack (o : RawPacketReceived) (params : EsbRecvdPacket) : Option RawPacketReceived := do
  let packet ← Packet.setBytes (bufferOf params.packet.bytes) params.packet.length.toNat
  let address ← if params.address.has then
      esbAddress.set o.address.value (bufferOf params.address.value.address) params.address.value.size
    else some o.address.value
  some {
    channel := params.channel, packet := packet, rssi := loadOptional o.rssi params.rssi id
    timestamp := loadOptional o.timestamp params.timestamp id
    crcValidity := loadOptional o.crcValidity params.crcValidity id, address := ⟨params.address.has,address⟩ }

/-- The local structure of `pack()`. -/
def params (o : RawPacketReceived) : EsbRecvdPacket where
  channel := o.channel
  rssi := o.rssi
  timestamp := o.timestamp
  crcValidity := o.crcValidity
  address := o.address
  packet := ⟨copyOf o.packet.getBytes,UInt8.ofInt o.packet.getSize⟩

/-- `hasTimestamp()` returns the timestamp and not its flag. -/
structure Shows (p : PduReceived) (o : RawPacketReceived) : Prop where
  channel : o.channel = p.channel
  hasRssi : o.rssi.has = p.rssi.has
  rssi : p.rssi.Shown o.rssi.value
  hasTimestamp : o.timestamp.value ≠ 0 ↔ p.timestamp.has = true
  timestamp : p.timestamp.Shown o.timestamp.value.toUInt64
  hasCrcValidity : o.crcValidity.has = p.crcValidity.has
  crcValidity : p.crcValidity.Shown o.crcValidity.value
  hasAddress : o.address.has = p.address.has
  address : p.address.has = true → ReadsAs p.address.value (bufferOf o.address.value.address) o.address.value.size
  packet : ReadsAs p.pdu o.packet.getBytes o.packet.getSize

end RawPacketReceived

def rawPacketReceived : WrapperClass where
  kind := .esb .rawPdu
  Memory := RawPacketReceived × EsbRecvdPacket
  Object := RawPacketReceived
  construct m memory := do
    let params ← parsedBy (whadEsbRawPduReceivedParse (some m) (some memory.2))
    let o ← memory.1.init.unpack params
    some (m,o)
  pack m o := packed (whadEsbRawPduReceived (some m) (some o.params))
  Shows m o := o.Shows (m.msg (.esb .rawPdu))

/-- The constructor of the base class unpacks a raw packet; then `unpack()` calls `getRaw()`, so that the
message is packed before it is parsed again. -/
def packetReceived : WrapperClass where
  kind := .esb .pdu
  Memory := RawPacketReceived × EsbRecvdPacket × EsbRecvdPacket
  Object := RawPacketReceived
  construct m memory := do
    let params ← parsedBy (whadEsbRawPduReceivedParse (some m) (some memory.2.1))
    let base ← memory.1.init.unpack params
    let m ← packed (whadEsbPduReceived (some m) (some base.params))
    let params ← parsedBy (whadEsbPduReceivedParse (some m) (some memory.2.2))
    let o ← base.unpack params
    some (m,o)
  pack m o := packed (whadEsbPduReceived (some m) (some o.params))
  Shows m o := o.Shows (m.msg (.esb .pdu))

def prxMode : WrapperClass :=
  .unpacking (.esb .prx) whadEsbPrxParse whadEsbPrx fun m o => o = ChannelCmd.channel (m.msg (.esb .prx))

def ptxMode : WrapperClass :=
  .unpacking (.esb .ptx) whadEsbPtxParse whadEsbPtx fun m o => o = ChannelCmd.channel (m.msg (.esb .ptx))

/-- `unpack()` calls `getRaw()`, so that the message is packed before it is parsed. -/
def sendPacket : WrapperClass where
  kind := .esb .send
  Memory := SendPacket × EsbSendParams
  Object := SendPacket
  construct m memory := do
    let m ← SendPacket.pack whadEsbSend m { memory.1 with packet := .empty }
    let params ← parsedBy (whadEsbSendParse (some m) (some memory.2))
    let o ← SendPacket.ofParams params
    some (m,o)
  pack := SendPacket.pack whadEsbSend
  Shows m o :=
    let p : SendCmd := m.msg (.esb .send)
    o.channel = p.channel ∧ o.retries = p.retransmissionCount ∧ ReadsAs p.pdu o.packet.getBytes o.packet.getSize

def sendPacketRaw : WrapperClass :=
  sending (.esb .sendRaw) whadEsbSendRawParse whadEsbSendRaw (fun m => m.msg (.esb .sendRaw)) fun retries count =>
    retries = count

def setNodeAddress : WrapperClass :=
  nodeAddress esbAddress (.esb .setNodeAddr) whadEsbSetNodeAddressParse whadEsbSetNodeAddress fun m =>
    m.msg (.esb .setNodeAddr)

def sniffMode : WrapperClass :=
  sniffing esbAddress (.esb .sniff) whadEsbSniffParse whadEsbSniff fun m => m.msg (.esb .sniff)

def start : WrapperClass := .plain (.esb .start) whadEsbStart

def stop : WrapperClass := .plain (.esb .stop) whadEsbStop

end WhadLib.Esb.Wrapper
