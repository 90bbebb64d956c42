import WhadLib.Dot15d4.Builders
import WhadLib.Parse

/-! The parsers of the 802.15.4 domain, in the order of the source. No one of them looks at the tags of the
message. -/
namespace WhadLib.Dot15d4
open Library

def whadDot15d4SetNodeAddressParse (message : Option FullMessage) (pAddr : Option Dot15d4Address) :
    Parsed Dot15d4Address :=
  fetch message pAddr fun m _ =>
    let p : SetNodeAddressCmd := m.msg (.dot15d4 .setNodeAddr)
    ⟨p.addressType,p.address⟩

def whadDot15d4SniffParse (message : Option FullMessage) (pChannel : Option UInt32) : Parsed UInt32 :=
  fetch message pChannel fun m _ => ChannelCmd.channel (m.msg (.dot15d4 .sniff))

def whadDot15d4JamParse (message : Option FullMessage) (pChannel : Option UInt32) : Parsed UInt32 :=
  fetch message pChannel fun m _ => ChannelCmd.channel (m.msg (.dot15d4 .jam))

def whadDot15d4EnergyDetectParse (message : Option FullMessage) (pChannel : Option UInt32) : Parsed UInt32 :=
  fetch message pChannel fun m _ => ChannelCmd.channel (m.msg (.dot15d4 .ed))

/-- `whad_dot15d4_send_params_t`. -/
structure Dot15d4SendParams where
  channel : UInt32
  packet : Dot15d4Packet
  fcs : UInt32
  deriving Inhabited

/-- The body of the two parsers of packets to send. -/
def loadSend (channel : UInt32) (x : BytesArray 255) (fcs : UInt32) (s : Dot15d4SendParams) :
    Option (WhadResult × Dot15d4SendParams) :=
  let s := { s with channel := channel }
  if 255 < x.size then failed s
  else do
    let bytes ← memcpy s.packet.bytes (bufferOf x.bytes) x.size
    done { s with packet := ⟨bytes,x.size⟩, fcs := fcs }

def whadDot15d4SendParse (message : Option FullMessage) (pParams : Option Dot15d4SendParams) :
    Parsed Dot15d4SendParams :=
  parse message pParams fun m s =>
    let p : SendCmd := m.msg (.dot15d4 .send)
    loadSend p.channel p.pdu 0 s

def whadDot15d4SendRawParse (message : Option FullMessage) (pParams : Option Dot15d4SendParams) :
    Parsed Dot15d4SendParams :=
  parse message pParams fun m s =>
    let p : SendRawCmd := m.msg (.dot15d4 .sendRaw)
    loadSend p.channel p.pdu p.fcs s

def whadDot15d4EndDeviceModeParse (message : Option FullMessage) (pChannel : Option UInt32) : Parsed UInt32 :=
  fetch message pChannel fun m _ => ChannelCmd.channel (m.msg (.dot15d4 .endDevice))

def whadDot15d4RouterModeParse (message : Option FullMessage) (pChannel : Option UInt32) : Parsed UInt32 :=
  fetch message pChannel fun m _ => ChannelCmd.channel (m.msg (.dot15d4 .router))

def whadDot15d4CoordModeParse (message : Option FullMessage) (pChannel : Option UInt32) : Parsed UInt32 :=
  fetch message pChannel fun m _ => ChannelCmd.channel (m.msg (.dot15d4 .coordinator))

def whadDot15d4MitmModeParse (message : Option FullMessage) (pRole : Option (EnumField Dot15d4MitmRole)) :
    Parsed (EnumField Dot15d4MitmRole) :=
  fetch message pRole fun m _ => ManInTheMiddleCmd.role (m.msg (.dot15d4 .mitm))

def whadDot15d4JammedParse (message : Option FullMessage) (pTimestamp : Option UInt32) : Parsed UInt32 :=
  fetch message pTimestamp fun m _ => (Jammed.timestamp (m.msg (.dot15d4 .jammed))).toUInt32

/-- `whad_dot15d4_ed_sample_t`. -/
structure Dot15d4EdSample where
  timestamp : UInt32
  sample : UInt32
  deriving Inhabited

def whadDot15d4EnergyDetectSampleParse (message : Option FullMessage) (pSample : Option Dot15d4EdSample) :
    Parsed Dot15d4EdSample :=
  fetch message pSample fun m _ =>
    let p : EnergyDetectionSample := m.msg (.dot15d4 .edSample)
    ⟨p.timestamp.toUInt32,p.sample⟩

/-- What both parsers of received packets read; the size is not checked. -/
def loadRecvdPacket (p : RawPduReceived) (s : Dot15d4RecvdPacket) : Option (WhadResult × Dot15d4RecvdPacket) := do
  let bytes ← memcpy s.packet.bytes (bufferOf p.pdu.bytes) p.pdu.size
  done { s with
    channel := p.channel, packet := ⟨bytes,p.pdu.size⟩, rssi := loadOptional s.rssi p.rssi id
    timestamp := loadOptional s.timestamp p.timestamp UInt64.toUInt32
    fcsValidity := loadOptional s.fcsValidity p.fcsValidity id, lqi := loadOptional s.lqi p.lqi id }

def whadDot15d4RawPduReceivedParse (message : Option FullMessage) (pPacket : Option Dot15d4RecvdPacket) :
    Parsed Dot15d4RecvdPacket :=
  parse message pPacket fun m s =>
    let p : RawPduReceived := m.msg (.dot15d4 .rawPdu)
    loadRecvdPacket p { s with fcs := p.fcs }

/-- It reads the member of raw packets: the fields up to the packet lie where those of `pdu` do, the link
quality does not. -/
def whadDot15d4PduReceivedParse (message : Option FullMessage) (pPacket : Option Dot15d4RecvdPacket) :
    Parsed Dot15d4RecvdPacket :=
  parse message pPacket fun m => loadRecvdPacket (m.msg (.dot15d4 .rawPdu))

/-- The calls of the parsers, with their outputs. -/
inductive Dot15d4Parser
  | setNodeAddress (pAddr : Option Dot15d4Address)
  | sniff (pChannel : Option UInt32)
  | jam (pChannel : Option UInt32)
  | energyDetect (pChannel : Option UInt32)
  | send (pParams : Option Dot15d4SendParams)
  | sendRaw (pParams : Option Dot15d4SendParams)
  | endDeviceMode (pChannel : Option UInt32)
  | routerMode (pChannel : Option UInt32)
  | coordMode (pChannel : Option UInt32)
  | mitmMode (pRole : Option (EnumField Dot15d4MitmRole))
  | jammed (pTimestamp : Option UInt32)
  | energyDetectSample (pSample : Option Dot15d4EdSample)
  | rawPduReceived (pPacket : Option Dot15d4RecvdPacket)
  | pduReceived (pPacket : Option Dot15d4RecvdPacket)

/-- What a call returns. -/
abbrev Dot15d4Parser.result : Dot15d4Parser → FullMessage → Option WhadResult
  | .setNodeAddress pAddr, m => (whadDot15d4SetNodeAddressParse (some m) pAddr).map Prod.fst
  | .sniff pChannel, m => (whadDot15d4SniffParse (some m) pChannel).map Prod.fst
  | .jam pChannel, m => (whadDot15d4JamParse (some m) pChannel).map Prod.fst
  | .energyDetect pChannel, m => (whadDot15d4EnergyDetectParse (some m) pChannel).map Prod.fst
  | .send pParams, m => (whadDot15d4SendParse (some m) pParams).map Prod.fst
  | .sendRaw pParams, m => (whadDot15d4SendRawParse (some m) pParams).map Prod.fst
  | .endDeviceMode pChannel, m => (whadDot15d4EndDeviceModeParse (some m) pChannel).map Prod.fst
  | .routerMode pChannel, m => (whadDot15d4RouterModeParse (some m) pChannel).map Prod.fst
  | .coordMode pChannel, m => (whadDot15d4CoordModeParse (some m) pChannel).map Prod.fst
  | .mitmMode pRole, m => (whadDot15d4MitmModeParse (some m) pRole).map Prod.fst
  | .jammed pTimestamp, m => (whadDot15d4JammedParse (some m) pTimestamp).map Prod.fst
  | .energyDetectSample pSample, m => (whadDot15d4EnergyDetectSampleParse (some m) pSample).map Prod.fst
  | .rawPduReceived pPacket, m => (whadDot15d4RawPduReceivedParse (some m) pPacket).map Prod.fst
  | .pduReceived pPacket, m => (whadDot15d4PduReceivedParse (some m) pPacket).map Prod.fst

/-- The messages that a parser is for. -/
def Dot15d4Parser.kind : Dot15d4Parser → Kind
  | .setNodeAddress .. => .dot15d4 .setNodeAddr
  | .sniff .. => .dot15d4 .sniff
  | .jam .. => .dot15d4 .jam
  | .energyDetect .. => .dot15d4 .ed
  | .send .. => .dot15d4 .send
  | .sendRaw .. => .dot15d4 .sendRaw
  | .endDeviceMode .. => .dot15d4 .endDevice
  | .routerMode .. => .dot15d4 .router
  | .coordMode .. => .dot15d4 .coordinator
  | .mitmMode .. => .dot15d4 .mitm
  | .jammed .. => .dot15d4 .jammed
  | .energyDetectSample .. => .dot15d4 .edSample
  | .rawPduReceived .. => .dot15d4 .rawPdu
  | .pduReceived .. => .dot15d4 .pdu

/-- Every output is there. -/
def Dot15d4Parser.given : Dot15d4Parser → Bool
  | .setNodeAddress pAddr => pAddr.isSome
  | .sniff pChannel => pChannel.isSome
  | .jam pChannel => pChannel.isSome
  | .energyDetect pChannel => pChannel.isSome
  | .send pParams => pParams.isSome
  | .sendRaw pParams => pParams.isSome
  | .endDeviceMode pChannel => pChannel.isSome
  | .routerMode pChannel => pChannel.isSome
  | .coordMode pChannel => pChannel.isSome
  | .mitmMode pRole => pRole.isSome
  | .jammed pTimestamp => pTimestamp.isSome
  | .energyDetectSample pSample => pSample.isSome
  | .rawPduReceived pPacket => pPacket.isSome
  | .pduReceived pPacket => pPacket.isSome

end WhadLib.Dot15d4
