import WhadLib.Esb.Builders

/-! The builders of the Unifying domain, in the order of the source. Their bodies are those of ESB, and
`whad_unifying_address_t` and the other parameters are those of ESB under another name. -/
namespace WhadLib.Unifying
open Library
open Esb (EsbAddress EsbRecvdPacket storeNodeAddress storeSniff storeSend storeRecvdPacket)

def whadUnifyingSetNodeAddress (message : Option FullMessage) (pAddr : Option EsbAddress) : Outcome :=
  match message, pAddr with
  | some m, some addr => m.build (.unifying .setNodeAddr) (storeNodeAddress addr)
  | _, _ => refuse message

def whadUnifyingSniff (message : Option FullMessage) (pAddr : Option EsbAddress) (channel : UInt32)
    (showAck : Bool) : Outcome :=
  match message, pAddr with
  | some m, some addr =>
    if 5 < addr.size then refuse message else m.build (.unifying .sniff) (storeSniff addr channel showAck)
  | _, _ => refuse message

def whadUnifyingJam (message : Option FullMessage) (channel : UInt32) : Outcome :=
  checked message fun m => m.assign (.unifying .jam) fun (p : ChannelCmd) => { p with channel := channel }

def whadUnifyingSend (message : Option FullMessage) (channel : UInt32) (retrCount : ℤ) (pPacket : Option Buffer)
    (packetLen : UInt8) : Outcome :=
  match message, pPacket with
  | some m, some pPacket => m.build (.unifying .send) (storeSend channel retrCount pPacket packetLen)
  | _, _ => refuse message

def whadUnifyingSendRaw (message : Option FullMessage) (channel : UInt32) (retrCount : ℤ)
    (pPacket : Option Buffer) (packetLen : UInt8) : Outcome :=
  match message, pPacket with
  | some m, some pPacket => m.build (.unifying .sendRaw) (storeSend channel retrCount pPacket packetLen)
  | _, _ => refuse message

def whadUnifyingDongleMode (message : Option FullMessage) (channel : UInt32) : Outcome :=
  checked message fun m => m.assign (.unifying .dongle) fun (p : ChannelCmd) => { p with channel := channel }

def whadUnifyingKeyboardMode (message : Option FullMessage) (channel : UInt32) : Outcome :=
  checked message fun m => m.assign (.unifying .keyboard) fun (p : ChannelCmd) => { p with channel := channel }

def whadUnifyingMouseMode (message : Option FullMessage) (channel : UInt32) : Outcome :=
  checked message fun m => m.assign (.unifying .mouse) fun (p : ChannelCmd) => { p with channel := channel }

def whadUnifyingStart (message : Option FullMessage) : Outcome :=
  checked message fun m => m.assign (.unifying .start) fun p => p

def whadUnifyingStop (message : Option FullMessage) : Outcome :=
  checked message fun m => m.assign (.unifying .stop) fun p => p

def whadUnifyingSniffPairing (message : Option FullMessage) : Outcome :=
  checked message fun m => m.assign (.unifying .sniffPairing) fun p => p

def whadUnifyingJammed (message : Option FullMessage) (timestamp : UInt32) : Outcome :=
  checked message fun m => m.assign (.unifying .jammed) fun (p : Jammed) =>
    { p with timestamp := timestamp.toUInt64 }

/-- Without an address the source clears the address of `esb.msg.raw_pdu`: that member lies where the
one of `unifying` does, field for field. -/
def whadUnifyingRawPduReceived (message : Option FullMessage) (pPdu : Option EsbRecvdPacket) : Outcome :=
  match message, pPdu with
  | some m, some pdu => m.build (.unifying .rawPdu) (storeRecvdPacket pdu)
  | _, _ => refuse message

def whadUnifyingPduReceived (message : Option FullMessage) (pPdu : Option EsbRecvdPacket) : Outcome :=
  match message, pPdu with
  | some m, some pdu => m.build (.unifying .pdu) (storeRecvdPacket pdu)
  | _, _ => refuse message

/-- The calls of the builders, with every argument but the message. -/
inductive UnifyingBuilder
  | setNodeAddress (pAddr : Option EsbAddress)
  | sniff (pAddr : Option EsbAddress) (channel : UInt32) (showAck : Bool)
  | jam (channel : UInt32)
  | send (channel : UInt32) (retrCount : ℤ) (pPacket : Option Buffer) (packetLen : UInt8)
  | sendRaw (channel : UInt32) (retrCount : ℤ) (pPacket : Option Buffer) (packetLen : UInt8)
  | dongleMode (channel : UInt32)
  | keyboardMode (channel : UInt32)
  | mouseMode (channel : UInt32)
  | start
  | stop
  | sniffPairing
  | jammed (timestamp : UInt32)
  | rawPduReceived (pPdu : Option EsbRecvdPacket)
  | pduReceived (pPdu : Option EsbRecvdPacket)

abbrev UnifyingBuilder.run : UnifyingBuilder → Option FullMessage → Outcome
  | .setNodeAddress pAddr, m => whadUnifyingSetNodeAddress m pAddr
  | .sniff pAddr channel showAck, m => whadUnifyingSniff m pAddr channel showAck
  | .jam channel, m => whadUnifyingJam m channel
  | .send channel retrCount pPacket packetLen, m => whadUnifyingSend m channel retrCount pPacket packetLen
  | .sendRaw channel retrCount pPacket packetLen, m =>
    whadUnifyingSendRaw m channel retrCount pPacket packetLen
  | .dongleMode channel, m => whadUnifyingDongleMode m channel
  | .keyboardMode channel, m => whadUnifyingKeyboardMode m channel
  | .mouseMode channel, m => whadUnifyingMouseMode m channel
  | .start, m => whadUnifyingStart m
  | .stop, m => whadUnifyingStop m
  | .sniffPairing, m => whadUnifyingSniffPairing m
  | .jammed timestamp, m => whadUnifyingJammed m timestamp
  | .rawPduReceived pPdu, m => whadUnifyingRawPduReceived m pPdu
  | .pduReceived pPdu, m => whadUnifyingPduReceived m pPdu

end WhadLib.Unifying
