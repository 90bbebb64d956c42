import WhadLib.Structs

/-! The structures of the 802.15.4 protocol, from the generated header. -/
namespace WhadLib.Dot15d4
open Library

/-- `dot15d4_Dot15d4MitmRole`. -/
inductive Dot15d4MitmRole
  | reactiveJammer | corrector
  deriving DecidableEq, Repr

/-- `dot15d4_AddressType`. -/
inductive AddressType
  | short | extended
  deriving DecidableEq, Repr

structure EnergyDetectionSample where
  sample : UInt32
  timestamp : UInt64
  deriving Inhabited

def EnergyDetectionSample.wire (p : EnergyDetectionSample) : Wire :=
  .field 1 (value p.sample) <| .field 2 (value p.timestamp) <| .nil

structure ManInTheMiddleCmd where
  role : EnumField Dot15d4MitmRole
  deriving Inhabited

def ManInTheMiddleCmd.wire (p : ManInTheMiddleCmd) : Wire :=
  .field 1 (value p.role) <| .nil

structure PduReceived where
  channel : UInt32
  rssi : OptionalField Int32
  timestamp : OptionalField UInt64
  fcsValidity : OptionalField Bool
  pdu : BytesArray 255
  lqi : OptionalField UInt32
  deriving Inhabited

def PduReceived.wire (p : PduReceived) : Wire :=
  .field 1 (value p.channel) <| .field 2 (value p.rssi) <| .field 3 (value p.timestamp) <|
  .field 4 (value p.fcsValidity) <| .field 5 (value p.pdu) <| .field 6 (value p.lqi) <| .nil

structure RawPduReceived where
  channel : UInt32
  rssi : OptionalField Int32
  timestamp : OptionalField UInt64
  fcsValidity : OptionalField Bool
  pdu : BytesArray 255
  fcs : UInt32
  lqi : OptionalField UInt32
  deriving Inhabited

def RawPduReceived.wire (p : RawPduReceived) : Wire :=
  .field 1 (value p.channel) <| .field 2 (value p.rssi) <| .field 3 (value p.timestamp) <|
  .field 4 (value p.fcsValidity) <| .field 5 (value p.pdu) <| .field 6 (value p.fcs) <|
  .field 7 (value p.lqi) <| .nil

structure SendCmd where
  channel : UInt32
  pdu : BytesArray 255
  deriving Inhabited

def SendCmd.wire (p : SendCmd) : Wire :=
  .field 1 (value p.channel) <| .field 2 (value p.pdu) <| .nil

structure SendRawCmd where
  channel : UInt32
  pdu : BytesArray 255
  fcs : UInt32
  deriving Inhabited

def SendRawCmd.wire (p : SendRawCmd) : Wire :=
  .field 1 (value p.channel) <| .field 2 (value p.pdu) <| .field 3 (value p.fcs) <| .nil

structure SetNodeAddressCmd where
  address : UInt64
  addressType : EnumField AddressType
  deriving Inhabited

def SetNodeAddressCmd.wire (p : SetNodeAddressCmd) : Wire :=
  .field 1 (value p.address) <| .field 2 (value p.addressType) <| .nil

/-- The members of the union of `dot15d4_Message`. -/
inductive Dot15d4Kind
  | setNodeAddr | sniff | jam | ed | send | sendRaw | endDevice | router | coordinator | start
  | stop | mitm | jammed | edSample | rawPdu | pdu
  deriving DecidableEq, Repr

/-- Their types. -/
abbrev Dot15d4Kind.Struct : Dot15d4Kind → Type
  | .setNodeAddr => SetNodeAddressCmd
  | .sniff => ChannelCmd
  | .jam => ChannelCmd
  | .ed => ChannelCmd
  | .send => SendCmd
  | .sendRaw => SendRawCmd
  | .endDevice => ChannelCmd
  | .router => ChannelCmd
  | .coordinator => ChannelCmd
  | .start => EmptyMessage
  | .stop => EmptyMessage
  | .mitm => ManInTheMiddleCmd
  | .jammed => Jammed
  | .edSample => EnergyDetectionSample
  | .rawPdu => RawPduReceived
  | .pdu => PduReceived

instance (k : Dot15d4Kind) : Inhabited k.Struct := by
  cases k <;> exact inferInstance

/-- `dot15d4_Message_*_tag`. -/
def Dot15d4Kind.tag : Dot15d4Kind → ℕ
  | .setNodeAddr => 1
  | .sniff => 2
  | .jam => 3
  | .ed => 4
  | .send => 5
  | .sendRaw => 6
  | .endDevice => 7
  | .router => 8
  | .coordinator => 9
  | .start => 10
  | .stop => 11
  | .mitm => 12
  | .jammed => 13
  | .edSample => 14
  | .rawPdu => 15
  | .pdu => 16

def Dot15d4Kind.wire : (k : Dot15d4Kind) → k.Struct → Wire
  | .setNodeAddr, p => SetNodeAddressCmd.wire p
  | .sniff, p => ChannelCmd.wire p
  | .jam, p => ChannelCmd.wire p
  | .ed, p => ChannelCmd.wire p
  | .send, p => SendCmd.wire p
  | .sendRaw, p => SendRawCmd.wire p
  | .endDevice, p => ChannelCmd.wire p
  | .router, p => ChannelCmd.wire p
  | .coordinator, p => ChannelCmd.wire p
  | .start, p => EmptyMessage.wire p
  | .stop, p => EmptyMessage.wire p
  | .mitm, p => ManInTheMiddleCmd.wire p
  | .jammed, p => Jammed.wire p
  | .edSample, p => EnergyDetectionSample.wire p
  | .rawPdu, p => RawPduReceived.wire p
  | .pdu, p => PduReceived.wire p

/-- The members in the order of `dot15d4_Message_FIELDLIST`. -/
def Dot15d4Kind.all : List Dot15d4Kind :=
  [.setNodeAddr,.sniff,.jam,.ed,.send,.sendRaw,.endDevice,.router,.coordinator,.start,.stop,.mitm,
    .jammed,.edSample,.rawPdu,.pdu]

end WhadLib.Dot15d4
