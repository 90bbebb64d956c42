import WhadLib.Structs

/-! The structures of the ESB protocol, from the generated header. `RawPduReceived` and `SendRawCmd` have
the fields of `PduReceived` and `SendCmd`. -/
namespace WhadLib.Esb
open Library

structure PduReceived where
  channel : UInt32
  rssi : OptionalField Int32
  timestamp : OptionalField UInt64
  crcValidity : OptionalField Bool
  address : OptionalField (BytesArray 5)
  pdu : BytesArray 255
  deriving Inhabited

def PduReceived.wire (p : PduReceived) : Wire :=
  .field 1 (value p.channel) <| .field 2 (value p.rssi) <| .field 3 (value p.timestamp) <|
  .field 4 (value p.crcValidity) <| .field 5 (value p.address) <| .field 6 (value p.pdu) <| .nil

structure SendCmd where
  channel : UInt32
  retransmissionCount : UInt32
  pdu : BytesArray 255
  deriving Inhabited

def SendCmd.wire (p : SendCmd) : Wire :=
  .field 1 (value p.channel) <| .field 2 (value p.retransmissionCount) <| .field 3 (value p.pdu) <|
  .nil

structure SetNodeAddressCmd where
  address : BytesArray 5
  deriving Inhabited

def SetNodeAddressCmd.wire (p : SetNodeAddressCmd) : Wire :=
  .field 1 (value p.address) <| .nil

structure SniffCmd where
  channel : UInt32
  address : BytesArray 5
  showAcknowledgements : Bool
  deriving Inhabited

def SniffCmd.wire (p : SniffCmd) : Wire :=
  .field 1 (value p.channel) <| .field 2 (value p.address) <|
  .field 3 (value p.showAcknowledgements) <| .nil

/-- The members of the union of `esb_Message`. -/
inductive EsbKind
  | setNodeAddr | sniff | jam | send | sendRaw | prx | ptx | start | stop | jammed | rawPdu | pdu
  deriving DecidableEq, Repr

/-- Their types. -/
abbrev EsbKind.Struct : EsbKind → Type
  | .setNodeAddr => SetNodeAddressCmd
  | .sniff => SniffCmd
  | .jam => ChannelCmd
  | .send => SendCmd
  | .sendRaw => SendCmd
  | .prx => ChannelCmd
  | .ptx => ChannelCmd
  | .start => EmptyMessage
  | .stop => EmptyMessage
  | .jammed => Jammed
  | .rawPdu => PduReceived
  | .pdu => PduReceived

instance (k : EsbKind) : Inhabited k.Struct := by
  cases k <;> exact inferInstance

/-- `esb_Message_*_tag`. -/
def EsbKind.tag : EsbKind → ℕ
  | .setNodeAddr => 1
  | .sniff => 2
  | .jam => 3
  | .send => 4
  | .sendRaw => 5
  | .prx => 6
  | .ptx => 7
  | .start => 8
  | .stop => 9
  | .jammed => 10
  | .rawPdu => 11
  | .pdu => 12

def EsbKind.wire : (k : EsbKind) → k.Struct → Wire
  | .setNodeAddr, p => SetNodeAddressCmd.wire p
  | .sniff, p => SniffCmd.wire p
  | .jam, p => ChannelCmd.wire p
  | .send, p => SendCmd.wire p
  | .sendRaw, p => SendCmd.wire p
  | .prx, p => ChannelCmd.wire p
  | .ptx, p => ChannelCmd.wire p
  | .start, p => EmptyMessage.wire p
  | .stop, p => EmptyMessage.wire p
  | .jammed, p => Jammed.wire p
  | .rawPdu, p => PduReceived.wire p
  | .pdu, p => PduReceived.wire p

/-- The members in the order of `esb_Message_FIELDLIST`. -/
def EsbKind.all : List EsbKind :=
  [.setNodeAddr,.sniff,.jam,.send,.sendRaw,.prx,.ptx,.start,.stop,.jammed,.rawPdu,.pdu]

end WhadLib.Esb
