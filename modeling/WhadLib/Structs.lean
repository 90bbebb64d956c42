import WhadLib.Wire

/-! Structures that the generated headers of several domains declare field for field alike: they are
declared here once. -/
namespace WhadLib

/-- A message without fields: `char dummy_field`. -/
structure EmptyMessage where
  dummyField : UInt8
  deriving Inhabited

def EmptyMessage.wire (_ : EmptyMessage) : Wire := .nil

/-- A command with nothing but a channel. -/
structure ChannelCmd where
  channel : UInt32
  deriving Inhabited

def ChannelCmd.wire (p : ChannelCmd) : Wire :=
  .field 1 (value p.channel) <| .nil

/-- `Jammed` of PHY, ESB, Unifying and 802.15.4. -/
structure Jammed where
  timestamp : UInt64
  deriving Inhabited

def Jammed.wire (p : Jammed) : Wire :=
  .field 1 (value p.timestamp) <| .nil

end WhadLib
