import WhadLib.Esb.Parsers

/-! The parsers of the Unifying domain, in the order of the source. Their bodies are those of ESB, but none
looks at a tag. -/
namespace WhadLib.Unifying
open Library
open Esb (EsbAddress EsbRecvdPacket EsbSniffParams EsbSendParams loadNodeAddress loadSniff loadSend loadRecvdPacket)

def whadUnifyingSetNodeAddressParse (message : Option FullMessage) (pAddr : Option EsbAddress) : Parsed EsbAddress :=
  parse message pAddr fun m => loadNodeAddress (m.msg (.unifying .setNodeAddr))

def whadUnifyingSniffParse (message : Option FullMessage) (pParams : Option EsbSniffParams) : Parsed EsbSniffParams :=
  parse message pParams fun m => loadSniff (m.msg (.unifying .sniff))

def whadUnifyingJamParse (message : Option FullMessage) (pChannel : Option UInt32) : Parsed UInt32 :=
  fetch message pChannel fun m _ => ChannelCmd.channel (m.msg (.unifying .jam))

def whadUnifyingSendParse (message : Option FullMessage) (pParams : Option EsbSendParams) : Parsed EsbSendParams :=
  parse message pParams fun m => loadSend (m.msg (.unifying .send))

def whadUnifyingSendRawParse (message : Option FullMessage) (pParams : Option EsbSendParams) : Parsed EsbSendParams :=
  parse message pParams fun m => loadSend (m.msg (.unifying .sendRaw))

def whadUnifyingDongleModeParse (message : Option FullMessage) (pChannel : Option UInt32) : Parsed UInt32 :=
  fetch message pChannel fun m _ => ChannelCmd.channel (m.msg (.unifying .dongle))

def whadUnifyingKeyboardModeParse (message : Option FullMessage) (pChannel : Option UInt32) : Parsed UInt32 :=
  fetch message pChannel fun m _ => ChannelCmd.channel (m.msg (.unifying .keyboard))

def whadUnifyingMouseModeParse (message : Option FullMessage) (pChannel : Option UInt32) : Parsed UInt32 :=
  fetch message pChannel fun m _ => ChannelCmd.channel (m.msg (.unifying .mouse))

def whadUnifyingJammedParse (message : Option FullMessage) (pTimestamp : Option UInt32) : Parsed UInt32 :=
  fetch message pTimestamp fun m _ => (Jammed.timestamp (m.msg (.unifying .jammed))).toUInt32

def whadUnifyingRawPduReceivedParse (message : Option FullMessage) (pPdu : Option EsbRecvdPacket) :
    Parsed EsbRecvdPacket :=
  parse message pPdu fun m => loadRecvdPacket (m.msg (.unifying .rawPdu))

def whadUnifyingPduReceivedParse (message : Option FullMessage) (pPdu : Option EsbRecvdPacket) :
    Parsed EsbRecvdPacket :=
  parse message pPdu fun m => loadRecvdPacket (m.msg (.unifying .pdu))

/-- The calls of the parsers, with their outputs. -/
inductive UnifyingParser
  | setNodeAddress (pAddr : Option EsbAddress)
  | sniff (pParams : Option EsbSniffParams)
  | jam (pChannel : Option UInt32)
  | send (pParams : Option EsbSendParams)
  | sendRaw (pParams : Option EsbSendParams)
  | dongleMode (pChannel : Option UInt32)
  | keyboardMode (pChannel : Option UInt32)
  | mouseMode (pChannel : Option UInt32)
  | jammed (pTimestamp : Option UInt32)
  | rawPduReceived (pPdu : Option EsbRecvdPacket)
  | pduReceived (pPdu : Option EsbRecvdPacket)

/-- What a call returns. -/
abbrev UnifyingParser.result : UnifyingParser → FullMessage → Option WhadResult
  | .setNodeAddress pAddr, m => (whadUnifyingSetNodeAddressParse (some m) pAddr).map Prod.fst
  | .sniff pParams, m => (whadUnifyingSniffParse (some m) pParams).map Prod.fst
  | .jam pChannel, m => (whadUnifyingJamParse (some m) pChannel).map Prod.fst
  | .send pParams, m => (whadUnifyingSendParse (some m) pParams).map Prod.fst
  | .sendRaw pParams, m => (whadUnifyingSendRawParse (some m) pParams).map Prod.fst
  | .dongleMode pChannel, m => (whadUnifyingDongleModeParse (some m) pChannel).map Prod.fst
  | .keyboardMode pChannel, m => (whadUnifyingKeyboardModeParse (some m) pChannel).map Prod.fst
  | .mouseMode pChannel, m => (whadUnifyingMouseModeParse (some m) pChannel).map Prod.fst
  | .jammed pTimestamp, m => (whadUnifyingJammedParse (some m) pTimestamp).map Prod.fst
  | .rawPduReceived pPdu, m => (whadUnifyingRawPduReceivedParse (some m) pPdu).map Prod.fst
  | .pduReceived pPdu, m => (whadUnifyingPduReceivedParse (some m) pPdu).map Prod.fst

/-- The messages that a parser is for. -/
def UnifyingParser.kind : UnifyingParser → Kind
  | .setNodeAddress .. => .unifying .setNodeAddr
  | .sniff .. => .unifying .sniff
  | .jam .. => .unifying .jam
  | .send .. => .unifying .send
  | .sendRaw .. => .unifying .sendRaw
  | .dongleMode .. => .unifying .dongle
  | .keyboardMode .. => .unifying .keyboard
  | .mouseMode .. => .unifying .mouse
  | .jammed .. => .unifying .jammed
  | .rawPduReceived .. => .unifying .rawPdu
  | .pduReceived .. => .unifying .pdu

/-- Every output is there. -/
def UnifyingParser.given : UnifyingParser → Bool
  | .setNodeAddress pAddr => pAddr.isSome
  | .sniff pParams => pParams.isSome
  | .jam pChannel => pChannel.isSome
  | .send pParams => pParams.isSome
  | .sendRaw pParams => pParams.isSome
  | .dongleMode pChannel => pChannel.isSome
  | .keyboardMode pChannel => pChannel.isSome
  | .mouseMode pChannel => pChannel.isSome
  | .jammed pTimestamp => pTimestamp.isSome
  | .rawPduReceived pPdu => pPdu.isSome
  | .pduReceived pPdu => pPdu.isSome

end WhadLib.Unifying
