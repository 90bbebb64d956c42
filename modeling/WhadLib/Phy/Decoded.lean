import WhadLib.Decoded
import WhadLib.Phy.Descriptors

/-! Every tree that a reader makes of a PHY message shows a structure. -/
namespace WhadLib.Phy

theorem DeviationCmd.covers : DeviationCmd.descriptor.Covers fun w => ∃ p : DeviationCmd, p.wire = w :=
  .singular .uint32 fun deviation => .nil ⟨⟨deviation⟩,rfl⟩

theorem PhyKind.covers (k : PhyKind) : k.descriptor.Covers fun w => ∃ p : k.Struct, k.wire p = w := by
  cases k with
  | modAsk => exact .singular .bool fun ook => .nil ⟨⟨ook⟩,rfl⟩
  | modFsk => exact DeviationCmd.covers
  | modGfsk => exact DeviationCmd.covers
  | modBpsk => exact EmptyMessage.covers
  | modQpsk => exact .singular .bool fun offsetQpsk => .nil ⟨⟨offsetQpsk⟩,rfl⟩
  | mod4fsk => exact DeviationCmd.covers
  | modMsk => exact DeviationCmd.covers
  | getSupportedFreq => exact EmptyMessage.covers
  | setFreq => exact .singular .uint32 fun frequency => .nil ⟨⟨frequency⟩,rfl⟩
  | datarate => exact .singular .uint32 fun rate => .nil ⟨⟨rate⟩,rfl⟩
  | endianness => exact .singular .uenum fun endianness => .nil ⟨⟨endianness⟩,rfl⟩
  | txPower => exact .singular .uenum fun txPower => .nil ⟨⟨txPower⟩,rfl⟩
  | packetSize => exact .singular .uint32 fun packetSize => .nil ⟨⟨packetSize⟩,rfl⟩
  | syncWord => exact .singular .bytes fun syncWord => .nil ⟨⟨syncWord⟩,rfl⟩
  | sniff => exact .optional .bool fun iqStream => .nil ⟨⟨iqStream⟩,rfl⟩
  | send => exact .singular .bytes fun packet => .nil ⟨⟨packet⟩,rfl⟩
  | sendRaw => exact .callback <| .nil ⟨⟨.unset⟩,rfl⟩
  | start => exact EmptyMessage.covers
  | stop => exact EmptyMessage.covers
  | jam => exact .singular .uenum fun mode => .nil ⟨⟨mode⟩,rfl⟩
  | monitor => exact EmptyMessage.covers
  | packet =>
    exact .singular .uint32 fun frequency => .optional .int32 fun rssi => .optional .uint64 fun timestamp =>
      .singular .bytes fun packet => .singular .uint32 fun deviation => .singular .uint32 fun datarate =>
      .singular .uenum fun endian => .singular .uenum fun modulation => .singular .bytes fun syncword =>
      .nil ⟨⟨frequency,rssi,timestamp,packet,deviation,datarate,endian,modulation,syncword⟩,rfl⟩
  | rawPacket =>
    exact .singular .uint32 fun frequency => .optional .int32 fun rssi => .optional .uint64 fun timestamp =>
      .singular .bytes fun packet => .callback <| .singular .uint32 fun deviation => .singular .uint32 fun datarate =>
      .singular .uenum fun endian => .singular .uenum fun modulation => .singular .bytes fun syncword =>
      .nil ⟨⟨frequency,rssi,timestamp,packet,.unset,deviation,datarate,endian,modulation,syncword⟩,rfl⟩
  | jammed => exact Jammed.covers
  | monitorReport => exact .singular .uint64 fun timestamp => .callback <| .nil ⟨⟨timestamp,.unset⟩,rfl⟩
  | supportedFreq => exact .callback <| .nil ⟨⟨.unset⟩,rfl⟩
  | modLora =>
    exact .singular .uint32 fun bandwidth => .singular .uenum fun spreadingFactor =>
      .singular .uenum fun codingRate => .singular .uint32 fun preambleLength => .singular .bool fun enableCrc =>
      .singular .bool fun explicitMode => .singular .bool fun invertIq =>
      .nil ⟨⟨bandwidth,spreadingFactor,codingRate,preambleLength,enableCrc,explicitMode,invertIq⟩,rfl⟩
  | schedSend => exact .singular .bytes fun packet => .singular .uint64 fun timestamp => .nil ⟨⟨packet,timestamp⟩,rfl⟩
  | schedPktRsp => exact .singular .int32 fun id => .optional .bool fun full => .nil ⟨⟨id,full⟩,rfl⟩
  | schedPktSent => exact .singular .int32 fun id => .nil ⟨⟨id⟩,rfl⟩

end WhadLib.Phy
