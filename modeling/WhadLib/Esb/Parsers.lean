import WhadLib.Esb.Builders
import WhadLib.Parse

/-! The parsers of the ESB domain, in the order of the source. Two of them look at the tag of the member,
none at that of the domain. What they share with the Unifying domain is stated on the member. -/
namespace WhadLib.Esb
open Library

/-- `whad_esb_sniff_params_t`. -/
structure EsbSniffParams where
  address : EsbAddress
  channel : UInt32
  showAcks : Bool
  deriving Inhabited

/-- `whad_esb_send_params_t`. -/
structure EsbSendParams where
  channel : UInt32
  retrCount : UInt32
  packet : EsbPacket
  deriving Inhabited

/-! The bodies that the two domains share. -/

/-- The size is stored before it is checked. -/
def loadNodeAddress (p : SetNodeAddressCmd) (s : EsbAddress) : Option (WhadResult × EsbAddress) :=
  let s := { s with size := p.address.size }
  if p.address.size ≤ 5 then do
    let address ← memcpy s.address (bufferOf p.address.bytes) s.size
    done { s with address := address }
  else failed s

def loadSniff (p : SniffCmd) (s : EsbSniffParams) : Option (WhadResult × EsbSniffParams) :=
  let s := { s with channel := p.channel, showAcks := p.showAcknowledgements,
                    address := { s.address with size := p.address.size } }
  if esbAddrMaxSize < s.address.size then failed s
  else do
    let address ← memcpy s.address.address (bufferOf p.address.bytes) s.address.size
    done { s with address := { s.address with address := address } }

/-- The length has eight bits, so that the check cannot fail; what is copied is the size of the field. -/
def loadSend (p : SendCmd) (s : EsbSendParams) : Option (WhadResult × EsbSendParams) :=
  let s := { s with channel := p.channel, retrCount := p.retransmissionCount,
                    packet := { s.packet with length := UInt8.ofNat p.pdu.size } }
  if 255 < s.packet.length.toNat then failed s
  else do
    let bytes ← memcpy s.packet.bytes (bufferOf p.pdu.bytes) p.pdu.size
    done { s with packet := { s.packet with bytes := bytes } }

/-- The length has eight bits, and that many bytes are copied. The address comes last. -/
def loadRecvdPacket (p : PduReceived) (s : EsbRecvdPacket) : Option (WhadResult × EsbRecvdPacket) := do
  let length := UInt8.ofNat p.pdu.size
  let bytes ← memcpy s.packet.bytes (bufferOf p.pdu.bytes) length.toNat
  let s := { s with
    channel := p.channel, packet := ⟨bytes,length⟩, rssi := loadOptional s.rssi p.rssi id
    timestamp := loadOptional s.timestamp p.timestamp UInt64.toUInt32
    crcValidity := loadOptional s.crcValidity p.crcValidity id, address := { s.address with has := p.address.has } }
  if p.address.has then
    if 5 < p.address.value.size then failed s
    else do
      let address ← memcpy s.address.value.address (bufferOf p.address.value.bytes) p.address.value.size
      done { s with address := ⟨true,⟨address,p.address.value.size⟩⟩ }
  else done s

/-! The parsers. -/

def whadEsbSetNodeAddressParse (message : Option FullMessage) (pAddr : Option EsbAddress) : Parsed EsbAddress :=
  parse message pAddr fun m s =>
    if m.whichDomainMsg = EsbKind.tag .setNodeAddr then loadNodeAddress (m.msg (.esb .setNodeAddr)) s else failed s

def whadEsbSniffParse (message : Option FullMessage) (pParams : Option EsbSniffParams) : Parsed EsbSniffParams :=
  parse message pParams fun m s =>
    if m.whichDomainMsg = EsbKind.tag .sniff then loadSniff (m.msg (.esb .sniff)) s else failed s

def whadEsbJamParse (message : Option FullMessage) (pChannel : Option UInt32) : Parsed UInt32 :=
  fetch message pChannel fun m _ => ChannelCmd.channel (m.msg (.esb .jam))

def whadEsbSendParse (message : Option FullMessage) (pParams : Option EsbSendParams) : Parsed EsbSendParams :=
  parse message pParams fun m => loadSend (m.msg (.esb .send))

def whadEsbSendRawParse (message : Option FullMessage) (pParams : Option EsbSendParams) : Parsed EsbSendParams :=
  parse message pParams fun m => loadSend (m.msg (.esb .sendRaw))

def whadEsbPrxParse (message : Option FullMessage) (pChannel : Option UInt32) : Parsed UInt32 :=
  fetch message pChannel fun m _ => ChannelCmd.channel (m.msg (.esb .prx))

def whadEsbPtxParse (message : Option FullMessage) (pChannel : Option UInt32) : Parsed UInt32 :=
  fetch message pChannel fun m _ => ChannelCmd.channel (m.msg (.esb .ptx))

def whadEsbJammedParse (message : Option FullMessage) (pTimestamp : Option UInt32) : Parsed UInt32 :=
  fetch message pTimestamp fun m _ => (Jammed.timestamp (m.msg (.esb .jammed))).toUInt32

def whadEsbRawPduReceivedParse (message : Option FullMessage) (pPdu : Option EsbRecvdPacket) : Parsed EsbRecvdPacket :=
  parse message pPdu fun m => loadRecvdPacket (m.msg (.esb .rawPdu))

def whadEsbPduReceivedParse (message : Option FullMessage) (pPdu : Option EsbRecvdPacket) : Parsed EsbRecvdPacket :=
  parse message pPdu fun m => loadRecvdPacket (m.msg (.esb .pdu))

/-- The calls of the parsers, with their outputs. -/
inductive EsbParser
  | setNodeAddress (pAddr : Option EsbAddress)
  | sniff (pParams : Option EsbSniffParams)
  | jam (pChannel : Option UInt32)
  | send (pParams : Option EsbSendParams)
  | sendRaw (pParams : Option EsbSendParams)
  | prx (pChannel : Option UInt32)
  | ptx (pChannel : Option UInt32)
  | jammed (pTimestamp : Option UInt32)
  | rawPduReceived (pPdu : Option EsbRecvdPacket)
  | pduReceived (pPdu : Option EsbRecvdPacket)

/-- What a call returns. -/
abbrev EsbParser.result : EsbParser → FullMessage → Option WhadResult
  | .setNodeAddress pAddr, m => (whadEsbSetNodeAddressParse (some m) pAddr).map Prod.fst
  | .sniff pParams, m => (whadEsbSniffParse (some m) pParams).map Prod.fst
  | .jam pChannel, m => (whadEsbJamParse (some m) pChannel).map Prod.fst
  | .send pParams, m => (whadEsbSendParse (some m) pParams).map Prod.fst
  | .sendRaw pParams, m => (whadEsbSendRawParse (some m) pParams).map Prod.fst
  | .prx pChannel, m => (whadEsbPrxParse (some m) pChannel).map Prod.fst
  | .ptx pChannel, m => (whadEsbPtxParse (some m) pChannel).map Prod.fst
  | .jammed pTimestamp, m => (whadEsbJammedParse (some m) pTimestamp).map Prod.fst
  | .rawPduReceived pPdu, m => (whadEsbRawPduReceivedParse (some m) pPdu).map Prod.fst
  | .pduReceived pPdu, m => (whadEsbPduReceivedParse (some m) pPdu).map Prod.fst

/-- The messages that a parser is for. -/
def EsbParser.kind : EsbParser → Kind
  | .setNodeAddress .. => .esb .setNodeAddr
  | .sniff .. => .esb .sniff
  | .jam .. => .esb .jam
  | .send .. => .esb .send
  | .sendRaw .. => .esb .sendRaw
  | .prx .. => .esb .prx
  | .ptx .. => .esb .ptx
  | .jammed .. => .esb .jammed
  | .rawPduReceived .. => .esb .rawPdu
  | .pduReceived .. => .esb .pdu

/-- Every output is there. -/
def EsbParser.given : EsbParser → Bool
  | .setNodeAddress pAddr => pAddr.isSome
  | .sniff pParams => pParams.isSome
  | .jam pChannel => pChannel.isSome
  | .send pParams => pParams.isSome
  | .sendRaw pParams => pParams.isSome
  | .prx pChannel => pChannel.isSome
  | .ptx pChannel => pChannel.isSome
  | .jammed pTimestamp => pTimestamp.isSome
  | .rawPduReceived pPdu => pPdu.isSome
  | .pduReceived pPdu => pPdu.isSome

end WhadLib.Esb
