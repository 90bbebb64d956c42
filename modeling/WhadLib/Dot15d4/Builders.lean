import WhadLib.Esb.Builders

/-! The builders of the 802.15.4 domain, in the order of the source. -/
namespace WhadLib.Dot15d4
open Library
open Esb (storeOptional)

/-- `whad_dot15d4_address_t`. -/
structure Dot15d4Address where
  type : EnumField AddressType
  address : UInt64
  deriving Inhabited

/-- `whad_dot15d4_packet_t`. -/
structure Dot15d4Packet where
  bytes : Vector UInt8 255
  length : ℤ
  deriving Inhabited

/-- `whad_dot15d4_recvd_packet_t`. -/
structure Dot15d4RecvdPacket where
  channel : UInt32
  rssi : OptionalField Int32
  timestamp : OptionalField UInt32
  fcsValidity : OptionalField Bool
  fcs : UInt32
  lqi : OptionalField UInt32
  packet : Dot15d4Packet
  deriving Inhabited

/-- The check of `p_addr` is the wrong way round: a `NULL` pointer passes it and is read. -/
def whadDot15d4SetNodeAddress (message : Option FullMessage) (pAddr : Option Dot15d4Address) : Outcome :=
  match message, pAddr with
  | some m, none => m.build (.dot15d4 .setNodeAddr) fun (p : SetNodeAddressCmd) => do
    let addr ← pAddr
    done { p with addressType := addr.type, address := addr.address }
  | _, _ => refuse message

def whadDot15d4Sniff (message : Option FullMessage) (channel : UInt32) : Outcome :=
  checked message fun m => m.assign (.dot15d4 .sniff) fun (p : ChannelCmd) => { p with channel := channel }

def whadDot15d4Jam (message : Option FullMessage) (channel : UInt32) : Outcome :=
  checked message fun m => m.assign (.dot15d4 .jam) fun (p : ChannelCmd) => { p with channel := channel }

def whadDot15d4EnergyDetect (message : Option FullMessage) (channel : UInt32) : Outcome :=
  checked message fun m => m.assign (.dot15d4 .ed) fun (p : ChannelCmd) => { p with channel := channel }

/-- The body of the two sending builders: the length is checked after the channel is stored. -/
def storeSend (channel : UInt32) (pPacket : Buffer) (length : ℤ) (p : SendCmd) : Option (WhadResult × SendCmd) :=
  let p := { p with channel := channel }
  if 0 ≤ length ∧ length ≤ 255 then do
    let pdu ← p.pdu.fill pPacket length
    done { p with pdu := pdu }
  else failed p

def whadDot15d4Send (message : Option FullMessage) (channel : UInt32) (pPacket : Option Buffer) (length : ℤ) :
    Outcome :=
  match message, pPacket with
  | some m, some pPacket => m.build (.dot15d4 .send) (storeSend channel pPacket length)
  | _, _ => refuse message

/-- The member and the tag are those of `send`, and the FCS is not stored. -/
def whadDot15d4SendRaw (message : Option FullMessage) (channel : UInt32) (pPacket : Option Buffer) (length : ℤ)
    (_fcs : UInt32) : Outcome :=
  match message, pPacket with
  | some m, some pPacket => m.build (.dot15d4 .send) (storeSend channel pPacket length)
  | _, _ => refuse message

def whadDot15d4EndDeviceMode (message : Option FullMessage) (channel : UInt32) : Outcome :=
  checked message fun m => m.assign (.dot15d4 .endDevice) fun (p : ChannelCmd) => { p with channel := channel }

def whadDot15d4RouterMode (message : Option FullMessage) (channel : UInt32) : Outcome :=
  checked message fun m => m.assign (.dot15d4 .router) fun (p : ChannelCmd) => { p with channel := channel }

def whadDot15d4CoordMode (message : Option FullMessage) (channel : UInt32) : Outcome :=
  checked message fun m => m.assign (.dot15d4 .coordinator) fun (p : ChannelCmd) => { p with channel := channel }

def whadDot15d4MitmMode (message : Option FullMessage) (role : EnumField Dot15d4MitmRole) : Outcome :=
  checked message fun m => m.assign (.dot15d4 .mitm) fun (p : ManInTheMiddleCmd) => { p with role := role }

def whadDot15d4Start (message : Option FullMessage) : Outcome :=
  checked message fun m => m.assign (.dot15d4 .start) fun p => p

def whadDot15d4Stop (message : Option FullMessage) : Outcome :=
  checked message fun m => m.assign (.dot15d4 .stop) fun p => p

def whadDot15d4Jammed (message : Option FullMessage) (timestamp : UInt32) : Outcome :=
  checked message fun m => m.assign (.dot15d4 .jammed) fun (p : Jammed) =>
    { p with timestamp := timestamp.toUInt64 }

def whadDot15d4EnergyDetectSample (message : Option FullMessage) (timestamp sample : UInt32) : Outcome :=
  checked message fun m => m.assign (.dot15d4 .edSample) fun (p : EnergyDetectionSample) =>
    { p with timestamp := timestamp.toUInt64, sample := sample }

/-- A link quality that is not given is cleared as well. -/
def storeLqi (given : OptionalField UInt32) : OptionalField UInt32 :=
  if given.has then ⟨true,given.value⟩ else ⟨false,0⟩

def whadDot15d4RawPduReceived (message : Option FullMessage) (pPacket : Option Dot15d4RecvdPacket) : Outcome :=
  match message, pPacket with
  | some m, some packet => m.build (.dot15d4 .rawPdu) fun (p : RawPduReceived) => do
    let pdu ← p.pdu.fill (bufferOf packet.packet.bytes) packet.packet.length
    done { p with
      channel := packet.channel, pdu := pdu, fcs := packet.fcs
      rssi := storeOptional packet.rssi id p.rssi
      timestamp := storeOptional packet.timestamp UInt32.toUInt64 p.timestamp
      fcsValidity := storeOptional packet.fcsValidity id p.fcsValidity
      lqi := storeLqi packet.lqi }
  | _, _ => refuse message

def whadDot15d4PduReceived (message : Option FullMessage) (pPacket : Option Dot15d4RecvdPacket) : Outcome :=
  match message, pPacket with
  | some m, some packet => m.build (.dot15d4 .pdu) fun (p : PduReceived) => do
    let pdu ← p.pdu.fill (bufferOf packet.packet.bytes) packet.packet.length
    done { p with
      channel := packet.channel, pdu := pdu
      rssi := storeOptional packet.rssi id p.rssi
      timestamp := storeOptional packet.timestamp UInt32.toUInt64 p.timestamp
      fcsValidity := storeOptional packet.fcsValidity id p.fcsValidity
      lqi := storeLqi packet.lqi }
  | _, _ => refuse message

/-- The calls of the builders, with every argument but the message. -/
inductive Dot15d4Builder
  | setNodeAddress (pAddr : Option Dot15d4Address)
  | sniff (channel : UInt32)
  | jam (channel : UInt32)
  | energyDetect (channel : UInt32)
  | send (channel : UInt32) (pPacket : Option Buffer) (length : ℤ)
  | sendRaw (channel : UInt32) (pPacket : Option Buffer) (length : ℤ) (fcs : UInt32)
  | endDeviceMode (channel : UInt32)
  | routerMode (channel : UInt32)
  | coordMode (channel : UInt32)
  | mitmMode (role : EnumField Dot15d4MitmRole)
  | start
  | stop
  | jammed (timestamp : UInt32)
  | energyDetectSample (timestamp sample : UInt32)
  | rawPduReceived (pPacket : Option Dot15d4RecvdPacket)
  | pduReceived (pPacket : Option Dot15d4RecvdPacket)

abbrev Dot15d4Builder.run : Dot15d4Builder → Option FullMessage → Outcome
  | .setNodeAddress pAddr, m => whadDot15d4SetNodeAddress m pAddr
  | .sniff channel, m => whadDot15d4Sniff m channel
  | .jam channel, m => whadDot15d4Jam m channel
  | .energyDetect channel, m => whadDot15d4EnergyDetect m channel
  | .send channel pPacket length, m => whadDot15d4Send m channel pPacket length
  | .sendRaw channel pPacket length fcs, m => whadDot15d4SendRaw m channel pPacket length fcs
  | .endDeviceMode channel, m => whadDot15d4EndDeviceMode m channel
  | .routerMode channel, m => whadDot15d4RouterMode m channel
  | .coordMode channel, m => whadDot15d4CoordMode m channel
  | .mitmMode role, m => whadDot15d4MitmMode m role
  | .start, m => whadDot15d4Start m
  | .stop, m => whadDot15d4Stop m
  | .jammed timestamp, m => whadDot15d4Jammed m timestamp
  | .energyDetectSample timestamp sample, m => whadDot15d4EnergyDetectSample m timestamp sample
  | .rawPduReceived pPacket, m => whadDot15d4RawPduReceived m pPacket
  | .pduReceived pPacket, m => whadDot15d4PduReceived m pPacket

end WhadLib.Dot15d4
