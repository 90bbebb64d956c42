import WhadLib.Esb.Wrappers
import WhadLib.Unifying.Builders
import WhadLib.Unifying.Parsers

/-! The wrapper classes of the Unifying domain, in the order of the source. -/
namespace WhadLib.Unifying.Wrapper
open Library Cpp
open Esb (EsbAddress EsbRecvdPacket PduReceived SetNodeAddressCmd SendCmd SniffCmd)
open Esb.Wrapper (AddressClass nodeAddress sniffing sending)

/-- `UnifyingAddress`, a `DeviceAddress<1,5>`: it keeps its value when the length is out of bounds. -/
def unifyingAddress : AddressClass where
  construct memory := ⟨memory,0⟩
  set address pBytes length :=
    if 1 ≤ length ∧ length ≤ 5 then do
      let bytes ← memcpy address.address pBytes length
      some ⟨bytes,length⟩
    else some address

def dongleMode : WrapperClass :=
  .unpacking (.unifying .dongle) whadUnifyingDongleModeParse whadUnifyingDongleMode fun m o =>
    o = ChannelCmd.channel (m.msg (.unifying .dongle))

def jamMode : WrapperClass :=
  .unpacking (.unifying .jam) whadUnifyingJamParse whadUnifyingJam fun m o =>
    o = ChannelCmd.channel (m.msg (.unifying .jam))

/-- It parses and packs a jamming command. -/
def jammed : WrapperClass :=
  .unpacking (.unifying .jammed) whadUnifyingJamParse whadUnifyingJam fun m o =>
    o.toUInt64 = Jammed.timestamp (m.msg (.unifying .jammed))

def keyboardMode : WrapperClass :=
  .unpacking (.unifying .keyboard) whadUnifyingKeyboardModeParse whadUnifyingKeyboardMode fun m o =>
    o = ChannelCmd.channel (m.msg (.unifying .keyboard))

def mouseMode : WrapperClass :=
  .unpacking (.unifying .mouse) whadUnifyingMouseModeParse whadUnifyingMouseMode fun m o =>
    o = ChannelCmd.channel (m.msg (.unifying .mouse))

/-- `UnifyingPacket`, less its CRC, which is not part of a message. -/
structure UnifyingPacket where
  channel : UInt32
  pdu : Packet 255
  timestamp : OptionalField UInt32
  rssi : OptionalField Int32
  crcValidity : OptionalField Bool

/-- `PduReceived` and `RawPduReceived`. -/
structure Received where
  packet : UnifyingPacket
  hasAddress : Bool
  address : EsbAddress

/-- The local structure of `pack()`. -/
def Received.params (o : Received) : EsbRecvdPacket where
  channel := o.packet.channel
  rssi := o.packet.rssi
  timestamp := o.packet.timestamp
  crcValidity := o.packet.crcValidity
  address := ⟨o.hasAddress,o.address⟩
  packet := ⟨copyOf o.packet.pdu.getBytes,UInt8.ofInt o.packet.pdu.getSize⟩

/-- The two classes with a received packet. Whether there is an address is left to what lies in memory. -/
def receiving (kind : Kind) (parser : Option FullMessage → Option EsbRecvdPacket → Parsed EsbRecvdPacket)
    (builder : Option FullMessage → Option EsbRecvdPacket → Outcome) (member : FullMessage → PduReceived) :
    WrapperClass where
  kind := kind
  Memory := (Bool × Vector UInt8 5) × EsbRecvdPacket
  Object := Received
  construct m memory := do
    let packet ← parsedBy (parser (some m) (some memory.2))
    let address ← if packet.address.has then
        unifyingAddress.set (unifyingAddress.construct memory.1.2) (bufferOf packet.address.value.address)
          packet.address.value.size
      else some (unifyingAddress.construct memory.1.2)
    let pdu ← Packet.setBytes (n := 255) (bufferOf packet.packet.bytes) packet.packet.length.toNat
    let pdu ← Packet.setBytes pdu.getBytes pdu.getSize
    some (m,⟨⟨packet.channel,pdu,added packet.timestamp 0,added packet.rssi 0,added packet.crcValidity false⟩,
      memory.1.1,address⟩)
  pack m o := packed (builder (some m) (some o.params))
  Shows m o :=
    let p := member m
    o.packet.channel = p.channel ∧ ReadsAs p.pdu o.packet.pdu.getBytes o.packet.pdu.getSize ∧
      o.packet.rssi.Same p.rssi ∧ o.packet.crcValidity.Same p.crcValidity ∧ o.packet.timestamp.has = p.timestamp.has ∧
      p.timestamp.Shown o.packet.timestamp.value.toUInt64 ∧ o.hasAddress = p.address.has ∧
      (p.address.has = true → ReadsAs p.address.value (bufferOf o.address.address) o.address.size)

def pduReceived : WrapperClass :=
  receiving (.unifying .pdu) whadUnifyingPduReceivedParse whadUnifyingPduReceived fun m => m.msg (.unifying .pdu)

def rawPduReceived : WrapperClass :=
  receiving (.unifying .rawPdu) whadUnifyingRawPduReceivedParse whadUnifyingRawPduReceived fun m =>
    m.msg (.unifying .rawPdu)

/-- Its number of retries is an `int`, and so is what its accessor returns. -/
def sendPdu : WrapperClass :=
  sending (.unifying .send) whadUnifyingSendParse whadUnifyingSend (fun m => m.msg (.unifying .send)) fun retries count =>
    retries.toInt32.toInt = count.toNat

def sendRawPdu : WrapperClass :=
  sending (.unifying .sendRaw) whadUnifyingSendRawParse whadUnifyingSendRaw (fun m => m.msg (.unifying .sendRaw))
    fun retries count => retries.toInt32.toInt = count.toNat

def setNodeAddress : WrapperClass :=
  nodeAddress unifyingAddress (.unifying .setNodeAddr) whadUnifyingSetNodeAddressParse whadUnifyingSetNodeAddress
    fun m => m.msg (.unifying .setNodeAddr)

def sniffMode : WrapperClass :=
  sniffing unifyingAddress (.unifying .sniff) whadUnifyingSniffParse whadUnifyingSniff fun m =>
    m.msg (.unifying .sniff)

end WhadLib.Unifying.Wrapper
