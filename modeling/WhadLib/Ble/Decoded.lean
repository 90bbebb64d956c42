import WhadLib.Ble.Descriptors
import WhadLib.Decoded

/-! Every tree that a reader makes of a BLE message shows a structure. -/
namespace WhadLib.Ble

theorem AccessAddressMsg.covers : AccessAddressMsg.descriptor.Covers fun w => ∃ p : AccessAddressMsg, p.wire = w :=
  .singular .uint32 fun accessAddress => .nil ⟨⟨accessAddress⟩,rfl⟩

theorem SequenceMsg.covers : SequenceMsg.descriptor.Covers fun w => ∃ p : SequenceMsg, p.wire = w :=
  .singular .uint32 fun id => .nil ⟨⟨id⟩,rfl⟩

theorem AdvModeCmd.covers : AdvModeCmd.descriptor.Covers fun w => ∃ p : AdvModeCmd, p.wire = w :=
  .singular .bytes fun scanData => .singular .bytes fun scanrspData => .nil ⟨⟨scanData,scanrspData⟩,rfl⟩

/-- A trigger shows one of its members, or none. -/
theorem Trigger.covers : Trigger.descriptor.Covers fun w => ∃ p : Trigger, p.wire = w := by
  have hreception : ReceptionTrigger.descriptor.Covers fun w => ∃ p : Trigger, p.wire = .message receptionTag w .nil :=
    .singular .bytes fun pattern => .singular .bytes fun mask => .singular .uint32 fun offset =>
      .nil ⟨⟨receptionTag,⟨pattern,mask,offset⟩,default⟩,rfl⟩
  have hevent : ConnectionEventTrigger.descriptor.Covers fun w =>
      ∃ p : Trigger, p.wire = .message connectionEventTag w .nil :=
    .singular .uint32 fun connectionEvent => .nil ⟨⟨connectionEventTag,default,⟨connectionEvent⟩⟩,rfl⟩
  have hmanual : Descriptor.nil.Covers fun w => ∃ p : Trigger, p.wire = .message manualTag w .nil :=
    .nil ⟨⟨manualTag,default,default⟩,rfl⟩
  exact .oneofMessage hreception (.oneofMessage hevent (.oneofMessage hmanual (.nil ⟨⟨0,default,default⟩,rfl⟩)))

theorem PrepareSequenceCmd.covers :
    PrepareSequenceCmd.descriptor.Covers fun w => ∃ p : PrepareSequenceCmd, p.wire = w := by
  have hpacket : PendingPacket.descriptor.Covers fun w => ∃ p : PendingPacket, p.wire = w :=
    .singular .bytes fun packet => .nil ⟨⟨packet⟩,rfl⟩
  exact .optionalMessage Trigger.covers fun trigger => .singular .uint32 fun id => .singular .uenum fun direction =>
    .repeated hpacket fun sequence => .nil ⟨⟨trigger,id,direction,sequence⟩,rfl⟩

theorem BleKind.covers (k : BleKind) : k.descriptor.Covers fun w => ∃ p : k.Struct, k.wire p = w := by
  cases k with
  | setBdAddr =>
    exact .singular .fixed fun bdAddress => .singular .uenum fun addrType => .nil ⟨⟨bdAddress,addrType⟩,rfl⟩
  | sniffAdv =>
    exact .singular .bool fun useExtendedAdv => .singular .uint32 fun channel => .singular .fixed fun bdAddress =>
      .nil ⟨⟨useExtendedAdv,channel,bdAddress⟩,rfl⟩
  | jamAdv => exact EmptyMessage.covers
  | jamAdvChan => exact ChannelCmd.covers
  | sniffConnreq =>
    exact .singular .bool fun showEmptyPackets => .singular .bool fun showAdvertisements =>
      .singular .uint32 fun channel => .singular .fixed fun bdAddress =>
      .nil ⟨⟨showEmptyPackets,showAdvertisements,channel,bdAddress⟩,rfl⟩
  | sniffAa => exact .singular .fixed fun monitoredChannels => .nil ⟨⟨monitoredChannels⟩,rfl⟩
  | sniffConn =>
    exact .singular .uint32 fun accessAddress => .singular .uint32 fun crcInit => .singular .fixed fun channelMap =>
      .singular .uint32 fun hopInterval => .singular .uint32 fun hopIncrement =>
      .singular .fixed fun monitoredChannels =>
      .nil ⟨⟨accessAddress,crcInit,channelMap,hopInterval,hopIncrement,monitoredChannels⟩,rfl⟩
  | jamConn => exact AccessAddressMsg.covers
  | scanMode => exact .singular .bool fun activeScan => .nil ⟨⟨activeScan⟩,rfl⟩
  | advMode => exact AdvModeCmd.covers
  | setAdvData => exact .callback <| .callback <| .nil ⟨⟨.unset,.unset⟩,rfl⟩
  | centralMode => exact EmptyMessage.covers
  | connect =>
    exact .singular .fixed fun bdAddress => .singular .uenum fun addrType => .optional .uint32 fun accessAddress =>
      .optional .fixed fun channelMap => .optional .uint32 fun hopInterval => .optional .uint32 fun hopIncrement =>
      .optional .uint32 fun crcInit =>
      .nil ⟨⟨bdAddress,addrType,accessAddress,channelMap,hopInterval,hopIncrement,crcInit⟩,rfl⟩
  | sendRawPdu =>
    exact .singular .uenum fun direction => .singular .uint32 fun connHandle => .singular .uint32 fun accessAddress =>
      .singular .bytes fun pdu => .singular .uint32 fun crc => .singular .bool fun encrypt =>
      .nil ⟨⟨direction,connHandle,accessAddress,pdu,crc,encrypt⟩,rfl⟩
  | sendPdu =>
    exact .singular .uenum fun direction => .singular .uint32 fun connHandle => .singular .bytes fun pdu =>
      .singular .bool fun encrypt => .nil ⟨⟨direction,connHandle,pdu,encrypt⟩,rfl⟩
  | disconnect => exact .singular .int32 fun connHandle => .nil ⟨⟨connHandle⟩,rfl⟩
  | periphMode => exact AdvModeCmd.covers
  | start => exact EmptyMessage.covers
  | stop => exact EmptyMessage.covers
  | hijackMaster => exact AccessAddressMsg.covers
  | hijackSlave => exact AccessAddressMsg.covers
  | hijackBoth => exact AccessAddressMsg.covers
  | aaDisc =>
    exact .singular .uint32 fun accessAddress => .optional .int32 fun rssi => .optional .uint64 fun timestamp =>
      .nil ⟨⟨accessAddress,rssi,timestamp⟩,rfl⟩
  | advPdu =>
    exact .singular .uenum fun advType => .singular .int32 fun rssi => .singular .fixed fun bdAddress =>
      .singular .bytes fun advData => .singular .uenum fun addrType =>
      .nil ⟨⟨advType,rssi,bdAddress,advData,addrType⟩,rfl⟩
  | connected =>
    exact .singular .fixed fun initiator => .singular .fixed fun advertiser => .singular .uint32 fun accessAddress =>
      .singular .uint32 fun connHandle => .singular .uenum fun advAddrType => .singular .uenum fun initAddrType =>
      .nil ⟨⟨initiator,advertiser,accessAddress,connHandle,advAddrType,initAddrType⟩,rfl⟩
  | disconnected =>
    exact .singular .uint32 fun reason => .singular .uint32 fun connHandle => .nil ⟨⟨reason,connHandle⟩,rfl⟩
  | synchronized =>
    exact .singular .uint32 fun accessAddress => .singular .uint32 fun crcInit => .singular .uint32 fun hopInterval =>
      .singular .uint32 fun hopIncrement => .singular .fixed fun channelMap =>
      .nil ⟨⟨accessAddress,crcInit,hopInterval,hopIncrement,channelMap⟩,rfl⟩
  | hijacked =>
    exact .singular .bool fun success => .singular .uint32 fun accessAddress => .nil ⟨⟨success,accessAddress⟩,rfl⟩
  | pdu =>
    exact .singular .uenum fun direction => .singular .bytes fun pdu => .singular .uint32 fun connHandle =>
      .singular .bool fun processed => .singular .bool fun decrypted =>
      .nil ⟨⟨direction,pdu,connHandle,processed,decrypted⟩,rfl⟩
  | rawPdu =>
    exact .singular .uenum fun direction => .singular .uint32 fun channel => .optional .int32 fun rssi =>
      .optional .uint64 fun timestamp => .optional .uint64 fun relativeTimestamp => .optional .bool fun crcValidity =>
      .singular .uint32 fun accessAddress => .singular .bytes fun pdu => .singular .uint32 fun crc =>
      .singular .uint32 fun connHandle => .singular .bool fun processed => .singular .bool fun decrypted =>
      .nil ⟨⟨direction,channel,rssi,timestamp,relativeTimestamp,crcValidity,accessAddress,pdu,crc,connHandle,
        processed,decrypted⟩,rfl⟩
  | injected =>
    exact .singular .bool fun success => .singular .uint32 fun accessAddress =>
      .singular .uint32 fun injectionAttempts => .nil ⟨⟨success,accessAddress,injectionAttempts⟩,rfl⟩
  | desynchronized => exact AccessAddressMsg.covers
  | encryption =>
    exact .singular .int32 fun connHandle => .singular .bool fun enabled => .singular .fixed fun llKey =>
      .singular .fixed fun llIv => .singular .fixed fun key => .singular .fixed fun rand =>
      .singular .fixed fun ediv => .nil ⟨⟨connHandle,enabled,llKey,llIv,key,rand,ediv⟩,rfl⟩
  | reactiveJam =>
    exact .singular .uint32 fun channel => .singular .bytes fun pattern => .singular .uint32 fun position =>
      .nil ⟨⟨channel,pattern,position⟩,rfl⟩
  | prepare => exact PrepareSequenceCmd.covers
  | trigger => exact SequenceMsg.covers
  | triggered => exact SequenceMsg.covers
  | deleteSeq => exact SequenceMsg.covers

end WhadLib.Ble
