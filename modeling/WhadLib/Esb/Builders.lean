import WhadLib.FullMessage

/-! The builders of the ESB domain, in the order of the source. What they share with the Unifying domain,
whose structures and parameters are the same, is stated on the member that is written. -/
namespace WhadLib.Esb
open Library

/-- `whad_esb_address_t`. -/
structure EsbAddress where
  address : Vector UInt8 5
  size : ℤ
  deriving Inhabited

/-- `whad_esb_packet_t`. -/
structure EsbPacket where
  bytes : Vector UInt8 255
  length : UInt8
  deriving Inhabited

/-- `whad_esb_recvd_packet_t`. -/
structure EsbRecvdPacket where
  channel : UInt32
  rssi : OptionalField Int32
  timestamp : OptionalField UInt32
  crcValidity : OptionalField Bool
  address : OptionalField EsbAddress
  packet : EsbPacket
  deriving Inhabited

/-- `ESB_ADDR_MAX_SIZE`. -/
def esbAddrMaxSize : ℤ := 5

/-! The bodies that the two domains share. -/

/-- The size is checked after the tags are set. -/
def storeNodeAddress (addr : EsbAddress) (p : SetNodeAddressCmd) : Option (WhadResult × SetNodeAddressCmd) :=
  if addr.size ≤ 5 then do
    let address ← p.address.fill (bufferOf addr.address) addr.size
    done { p with address := address }
  else failed p

def storeSniff (addr : EsbAddress) (channel : UInt32) (showAck : Bool) (p : SniffCmd) :
    Option (WhadResult × SniffCmd) := do
  let address ← p.address.fill (bufferOf addr.address) addr.size
  done { p with channel := channel, showAcknowledgements := showAck, address := address }

def storeSend (channel : UInt32) (retrCount : ℤ) (pPacket : Buffer) (packetLen : UInt8) (p : SendCmd) :
    Option (WhadResult × SendCmd) := do
  let pdu ← p.pdu.fill pPacket packetLen.toNat
  done { p with channel := channel, retransmissionCount := UInt32.ofInt retrCount, pdu := pdu }

/-- A value that is not given leaves the old one behind its cleared flag. -/
def storeOptional {α β : Type} (given : OptionalField α) (convert : α → β) (x : OptionalField β) : OptionalField β :=
  if given.has then ⟨true,convert given.value⟩ else { x with has := false }

/-- The size of the address is checked last. -/
def storeRecvdPacket (pdu : EsbRecvdPacket) (p : PduReceived) : Option (WhadResult × PduReceived) := do
  let stored ← p.pdu.fill (bufferOf pdu.packet.bytes) pdu.packet.length.toNat
  let p := { p with
    channel := pdu.channel, pdu := stored
    rssi := storeOptional pdu.rssi id p.rssi
    timestamp := storeOptional pdu.timestamp UInt32.toUInt64 p.timestamp
    crcValidity := storeOptional pdu.crcValidity id p.crcValidity }
  if pdu.address.has then
    let p := { p with address := { p.address with has := true } }
    if 5 < pdu.address.value.size then failed p
    else do
      let address ← p.address.value.fill (bufferOf pdu.address.value.address) pdu.address.value.size
      done { p with address := ⟨true,address⟩ }
  else done { p with address := ⟨false,⟨0,memset 0⟩⟩ }

/-! The builders. -/

def whadEsbSetNodeAddress (message : Option FullMessage) (pAddr : Option EsbAddress) : Outcome :=
  match message, pAddr with
  | some m, some addr => m.build (.esb .setNodeAddr) (storeNodeAddress addr)
  | _, _ => refuse message

def whadEsbSniff (message : Option FullMessage) (pAddr : Option EsbAddress) (channel : UInt32) (showAck : Bool) :
    Outcome :=
  match message, pAddr with
  | some m, some addr =>
    if 5 < addr.size then refuse message else m.build (.esb .sniff) (storeSniff addr channel showAck)
  | _, _ => refuse message

def whadEsbJam (message : Option FullMessage) (channel : UInt32) : Outcome :=
  checked message fun m => m.assign (.esb .jam) fun (p : ChannelCmd) => { p with channel := channel }

def whadEsbSend (message : Option FullMessage) (channel : UInt32) (retrCount : ℤ) (pPacket : Option Buffer)
    (packetLen : UInt8) : Outcome :=
  match message, pPacket with
  | some m, some pPacket => m.build (.esb .send) (storeSend channel retrCount pPacket packetLen)
  | _, _ => refuse message

def whadEsbSendRaw (message : Option FullMessage) (channel : UInt32) (retrCount : ℤ) (pPacket : Option Buffer)
    (packetLen : UInt8) : Outcome :=
  match message, pPacket with
  | some m, some pPacket => m.build (.esb .sendRaw) (storeSend channel retrCount pPacket packetLen)
  | _, _ => refuse message

def whadEsbPrx (message : Option FullMessage) (channel : UInt32) : Outcome :=
  checked message fun m => m.assign (.esb .prx) fun (p : ChannelCmd) => { p with channel := channel }

def whadEsbPtx (message : Option FullMessage) (channel : UInt32) : Outcome :=
  checked message fun m => m.assign (.esb .ptx) fun (p : ChannelCmd) => { p with channel := channel }

def whadEsbStart (message : Option FullMessage) : Outcome :=
  checked message fun m => m.assign (.esb .start) fun p => p

def whadEsbStop (message : Option FullMessage) : Outcome :=
  checked message fun m => m.assign (.esb .stop) fun p => p

def whadEsbJammed (message : Option FullMessage) (timestamp : UInt32) : Outcome :=
  checked message fun m => m.assign (.esb .jammed) fun (p : Jammed) => { p with timestamp := timestamp.toUInt64 }

def whadEsbRawPduReceived (message : Option FullMessage) (pPdu : Option EsbRecvdPacket) : Outcome :=
  match message, pPdu with
  | some m, some pdu => m.build (.esb .rawPdu) (storeRecvdPacket pdu)
  | _, _ => refuse message

def whadEsbPduReceived (message : Option FullMessage) (pPdu : Option EsbRecvdPacket) : Outcome :=
  match message, pPdu with
  | some m, some pdu => m.build (.esb .pdu) (storeRecvdPacket pdu)
  | _, _ => refuse message

/-- The calls of the builders, with every argument but the message. -/
inductive EsbBuilder
  | setNodeAddress (pAddr : Option EsbAddress)
  | sniff (pAddr : Option EsbAddress) (channel : UInt32) (showAck : Bool)
  | jam (channel : UInt32)
  | send (channel : UInt32) (retrCount : ℤ) (pPacket : Option Buffer) (packetLen : UInt8)
  | sendRaw (channel : UInt32) (retrCount : ℤ) (pPacket : Option Buffer) (packetLen : UInt8)
  | prx (channel : UInt32)
  | ptx (channel : UInt32)
  | start
  | stop
  | jammed (timestamp : UInt32)
  | rawPduReceived (pPdu : Option EsbRecvdPacket)
  | pduReceived (pPdu : Option EsbRecvdPacket)

abbrev EsbBuilder.run : EsbBuilder → Option FullMessage → Outcome
  | .setNodeAddress pAddr, m => whadEsbSetNodeAddress m pAddr
  | .sniff pAddr channel showAck, m => whadEsbSniff m pAddr channel showAck
  | .jam channel, m => whadEsbJam m channel
  | .send channel retrCount pPacket packetLen, m => whadEsbSend m channel retrCount pPacket packetLen
  | .sendRaw channel retrCount pPacket packetLen, m =>
    whadEsbSendRaw m channel retrCount pPacket packetLen
  | .prx channel, m => whadEsbPrx m channel
  | .ptx channel, m => whadEsbPtx m channel
  | .start, m => whadEsbStart m
  | .stop, m => whadEsbStop m
  | .jammed timestamp, m => whadEsbJammed m timestamp
  | .rawPduReceived pPdu, m => whadEsbRawPduReceived m pPdu
  | .pduReceived pPdu, m => whadEsbPduReceived m pPdu

end WhadLib.Esb
