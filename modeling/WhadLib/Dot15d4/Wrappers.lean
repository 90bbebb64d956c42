import WhadLib.Cpp.Wrapper
import WhadLib.Dot15d4.Parsers

/-! The wrapper classes of the 802.15.4 domain, in the order of the source. -/
namespace WhadLib.Dot15d4.Wrapper
open Library Cpp

def coordMode : WrapperClass :=
  .unpacking (.dot15d4 .coordinator) whadDot15d4CoordModeParse whadDot15d4CoordMode fun m o =>
    o = ChannelCmd.channel (m.msg (.dot15d4 .coordinator))

def endDeviceMode : WrapperClass :=
  .unpacking (.dot15d4 .endDevice) whadDot15d4EndDeviceModeParse whadDot15d4EndDeviceMode fun m o =>
    o = ChannelCmd.channel (m.msg (.dot15d4 .endDevice))

def jamMode : WrapperClass :=
  .unpacking (.dot15d4 .jam) whadDot15d4JamParse whadDot15d4Jam fun m o =>
    o = ChannelCmd.channel (m.msg (.dot15d4 .jam))

def jammed : WrapperClass :=
  .unpacking (.dot15d4 .jammed) whadDot15d4JammedParse whadDot15d4Jammed fun m o =>
    o.toUInt64 = Jammed.timestamp (m.msg (.dot15d4 .jammed))

def mitmMode : WrapperClass :=
  .unpacking (.dot15d4 .mitm) whadDot15d4MitmModeParse whadDot15d4MitmMode fun m o =>
    o = ManInTheMiddleCmd.role (m.msg (.dot15d4 .mitm))

def energyDetect : WrapperClass :=
  .unpacking (.dot15d4 .ed) whadDot15d4EnergyDetectParse whadDot15d4EnergyDetect fun m o =>
    o = ChannelCmd.channel (m.msg (.dot15d4 .ed))

def energySample : WrapperClass :=
  .unpacking (.dot15d4 .edSample) whadDot15d4EnergyDetectSampleParse
    (fun message o => whadDot15d4EnergyDetectSample message o.timestamp o.sample) fun m o =>
      let p : EnergyDetectionSample := m.msg (.dot15d4 .edSample)
      o.timestamp.toUInt64 = p.timestamp ∧ o.sample = p.sample

/-- `Dot15d4Packet`; the members with a flag are optional. -/
structure Received where
  channel : UInt32
  pdu : Packet 255
  timestamp : OptionalField UInt32
  fcs : UInt32
  rssi : OptionalField Int32
  fcsValidity : OptionalField Bool
  lqi : OptionalField UInt32

/-- What `unpack()` makes of a new packet. -/
def Received.ofParams (params : Dot15d4RecvdPacket) : Option Received := do
  let pdu ← Packet.setBytes (n := 255) (bufferOf params.packet.bytes) params.packet.length
  let pdu ← Packet.setBytes pdu.getBytes pdu.getSize
  some ⟨params.channel,pdu,added params.timestamp 0,params.fcs,added params.rssi 0,added params.fcsValidity false,
    added params.lqi 0⟩

/-- The local structure of `pack()`, which the builder reads as far as it was filled. -/
def Received.params (o : Received) : Dot15d4RecvdPacket where
  channel := o.channel
  rssi := o.rssi
  timestamp := o.timestamp
  fcsValidity := o.fcsValidity
  fcs := o.fcs
  lqi := o.lqi
  packet := ⟨copyOf o.pdu.getBytes,o.pdu.getSize⟩

/-- The two classes with a received packet. They call the same parser, which does not write the FCS. -/
def receiving (kind : Kind) (builder : Option FullMessage → Option Dot15d4RecvdPacket → Outcome)
    (shows : FullMessage → Received → Prop) : WrapperClass where
  kind := kind
  Memory := Dot15d4RecvdPacket
  Object := Received
  construct m memory := do
    let params ← parsedBy (whadDot15d4PduReceivedParse (some m) (some memory))
    let o ← Received.ofParams params
    some (m,o)
  pack m o := packed (builder (some m) (some o.params))
  Shows := shows

def pduReceived : WrapperClass :=
  receiving (.dot15d4 .pdu) whadDot15d4PduReceived fun m o =>
    let p : PduReceived := m.msg (.dot15d4 .pdu)
    o.channel = p.channel ∧ ReadsAs p.pdu o.pdu.getBytes o.pdu.getSize ∧ o.rssi.Same p.rssi ∧
      o.fcsValidity.Same p.fcsValidity ∧ o.lqi.Same p.lqi ∧ o.timestamp.has = p.timestamp.has ∧
      p.timestamp.Shown o.timestamp.value.toUInt64

def rawPduReceived : WrapperClass :=
  receiving (.dot15d4 .rawPdu) whadDot15d4RawPduReceived fun m o =>
    let p : RawPduReceived := m.msg (.dot15d4 .rawPdu)
    o.channel = p.channel ∧ ReadsAs p.pdu o.pdu.getBytes o.pdu.getSize ∧ o.rssi.Same p.rssi ∧
      o.fcsValidity.Same p.fcsValidity ∧ o.lqi.Same p.lqi ∧ o.timestamp.has = p.timestamp.has ∧
      p.timestamp.Shown o.timestamp.value.toUInt64 ∧ o.fcs = p.fcs

def routerMode : WrapperClass :=
  .unpacking (.dot15d4 .router) whadDot15d4RouterModeParse whadDot15d4RouterMode fun m o =>
    o = ChannelCmd.channel (m.msg (.dot15d4 .router))

/-- `SendPdu`. -/
structure SendPdu where
  channel : UInt32
  pdu : Packet 255

def sendPdu : WrapperClass where
  kind := .dot15d4 .send
  Memory := Dot15d4SendParams
  Object := SendPdu
  construct m memory := do
    let params ← parsedBy (whadDot15d4SendParse (some m) (some memory))
    let pdu ← Packet.setBytes (bufferOf params.packet.bytes) params.packet.length
    some (m,⟨params.channel,pdu⟩)
  pack m o := packed (whadDot15d4Send (some m) o.channel (some o.pdu.getBytes) o.pdu.getSize)
  Shows m o :=
    let p : SendCmd := m.msg (.dot15d4 .send)
    o.channel = p.channel ∧ ReadsAs p.pdu o.pdu.getBytes o.pdu.getSize

/-- `SendRawPdu`. -/
structure SendRawPdu where
  channel : UInt32
  pdu : Packet 255
  fcs : UInt32

def sendRawPdu : WrapperClass where
  kind := .dot15d4 .sendRaw
  Memory := Dot15d4SendParams
  Object := SendRawPdu
  construct m memory := do
    let params ← parsedBy (whadDot15d4SendRawParse (some m) (some memory))
    let pdu ← Packet.setBytes (bufferOf params.packet.bytes) params.packet.length
    some (m,⟨params.channel,pdu,params.fcs⟩)
  pack m o := packed (whadDot15d4SendRaw (some m) o.channel (some o.pdu.getBytes) o.pdu.getSize o.fcs)
  Shows m o :=
    let p : SendRawCmd := m.msg (.dot15d4 .sendRaw)
    o.channel = p.channel ∧ ReadsAs p.pdu o.pdu.getBytes o.pdu.getSize ∧ o.fcs = p.fcs

/-- The builder refuses what `pack()` passes to it. -/
def setNodeAddress : WrapperClass :=
  .unpacking (.dot15d4 .setNodeAddr) whadDot15d4SetNodeAddressParse
    (fun message o => whadDot15d4SetNodeAddress message (some o)) fun m o =>
      let p : SetNodeAddressCmd := m.msg (.dot15d4 .setNodeAddr)
      o.type = p.addressType ∧ o.address = p.address

def sniffMode : WrapperClass :=
  .unpacking (.dot15d4 .sniff) whadDot15d4SniffParse whadDot15d4Sniff fun m o =>
    o = ChannelCmd.channel (m.msg (.dot15d4 .sniff))

end WhadLib.Dot15d4.Wrapper
