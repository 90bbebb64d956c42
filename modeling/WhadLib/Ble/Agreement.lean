import WhadLib.Agreement
import WhadLib.Ble.Parsers

/-! The parsers of the BLE domain look at the visible fields of their member only. One of them takes it on trust
that a sequence waits for a connection event. -/
namespace WhadLib.Ble
open Library

instance : Output BlePdu := ⟨fun p => { p with pPdu := p.pPdu.cut p.pduLength }⟩
instance : Output BlePduParams := ⟨fun p => { p with pPdu := p.pPdu.cut p.length.toNat }⟩
instance : Output BleAdvPdu := ⟨fun p => { p with pAdvData := p.pAdvData.cut p.advDataLength.toNat }⟩

def PreparedPacketRef.seen (x : PreparedPacketRef) : PreparedPacketRef :=
  { x with pBytes := x.pBytes.map (Buffer.cut x.length) }

instance : Output BlePrepseqParams := ⟨fun p => { p with packets := p.packets.map PreparedPacketRef.seen }⟩

/-- A parser says the same of two messages. -/
def BleParser.ReadsAlike : BleParser → FullMessage → FullMessage → Prop
  | .pdu pParameters => WhadLib.ReadsAlike (whadBlePduParse · pParameters)
  | .notifyDisconnected pParameters => WhadLib.ReadsAlike (whadBleNotifyDisconnectedParse · pParameters)
  | .setBdaddress pAddrType pBdaddr => WhadLib.ReadsAlike (whadBleSetBdaddressParse · pAddrType pBdaddr)
  | .sniffAdv pParameters => WhadLib.ReadsAlike (whadBleSniffAdvParse · pParameters)
  | .jamAdvChannel pChannel => WhadLib.ReadsAlike (whadBleJamAdvChannelParse · pChannel)
  | .sniffConnReq pParameters => WhadLib.ReadsAlike (whadBleSniffConnReqParse · pParameters)
  | .sniffAccessAddress pChannelmap => WhadLib.ReadsAlike (whadBleSniffAccessAddressParse · pChannelmap)
  | .sniffActiveConn pParameters => WhadLib.ReadsAlike (whadBleSniffActiveConnParse · pParameters)
  | .jamActiveConn pAccessAddress => WhadLib.ReadsAlike (whadBleJamActiveConnParse · pAccessAddress)
  | .scanMode pActiveScan => WhadLib.ReadsAlike (whadBleScanModeParse · pActiveScan)
  | .advMode pParameters => WhadLib.ReadsAlike (whadBleAdvModeParse · pParameters)
  | .setAdvData => WhadLib.ReadsAlike (whadBleSetAdvDataParse · (none : Option Unit))
  | .connectTo pParameters => WhadLib.ReadsAlike (whadBleConnectToParse · pParameters)
  | .sendRawPdu pParameters => WhadLib.ReadsAlike (whadBleSendRawPduParse · pParameters)
  | .sendPdu pParameters => WhadLib.ReadsAlike (whadBleSendPduParse · pParameters)
  | .disconnect pConnHandle => WhadLib.ReadsAlike (whadBleDisconnectParse · pConnHandle)
  | .peripheralMode pParameters => WhadLib.ReadsAlike (whadBlePeripheralModeParse · pParameters)
  | .hijackMaster pAccessAddress => WhadLib.ReadsAlike (whadBleHijackMasterParse · pAccessAddress)
  | .hijackSlave pAccessAddress => WhadLib.ReadsAlike (whadBleHijackSlaveParse · pAccessAddress)
  | .hijackBoth pAccessAddress => WhadLib.ReadsAlike (whadBleHijackBothParse · pAccessAddress)
  | .setEncryption pParameters => WhadLib.ReadsAlike (whadBleSetEncryptionParse · pParameters)
  | .reactiveJam pParameters => WhadLib.ReadsAlike (whadBleReactiveJamParse · pParameters)
  | .prepareSequenceManual pParameters => WhadLib.ReadsAlike (whadBlePrepareSequenceManualParse · pParameters)
  | .prepareSequenceConnEvt pParameters => WhadLib.ReadsAlike (whadBlePrepareSequenceConnEvtParse · pParameters)
  | .prepareSequenceTrigger pId => WhadLib.ReadsAlike (whadBlePrepareSequenceTriggerParse · pId)
  | .triggered pId => WhadLib.ReadsAlike (whadBleTriggeredParse · pId)
  | .accessAddressDiscovered pParameters => WhadLib.ReadsAlike (whadBleAccessAddressDiscoveredParse · pParameters)
  | .advPdu pParameters => WhadLib.ReadsAlike (whadBleAdvPduParse · pParameters)
  | .synchronized pParameters => WhadLib.ReadsAlike (whadBleSynchronizedParse · pParameters)
  | .desynchronized pAccessAddress => WhadLib.ReadsAlike (whadBleDesynchronizedParse · pAccessAddress)
  | .hijacked pParameters => WhadLib.ReadsAlike (whadBleHijackedParse · pParameters)
  | .injected pParameters => WhadLib.ReadsAlike (whadBleInjectedParse · pParameters)

/-- The message shows all that a parser reads of it. -/
def BleParser.Shown : BleParser → FullMessage → Prop
  | .prepareSequenceConnEvt _, m =>
    let p : PrepareSequenceCmd := m.msg (.ble .prepare)
    p.trigger.has = true ∧ p.trigger.value.whichTrigger = Trigger.connectionEventTag
  | _, _ => True

theorem loadAdvData_congr {x y : BytesArray 31} (h : value x = value y) (hx : x.size ≤ 31) (data : Vector UInt8 31) :
    loadAdvData data x = loadAdvData data y := by
  obtain ⟨hsize,htake⟩ := value_bytes_eq h hx
  have hlen : (UInt8.ofNat y.size).toNat = y.size := UInt8.toNat_ofNat_of_lt' (show y.size < 256 by omega)
  rw [loadAdvData, loadAdvData, hsize, hlen, memcpy_congr htake]

theorem loadAdvMode_congr {p q : AdvModeCmd} (h : p.wire = q.wire) (hacc : p.wire.Accepted) (s : BleAdvModeParams) :
    loadAdvMode p s = loadAdvMode q s := by
  simp [AdvModeCmd.wire] at h
  rw [loadAdvMode, loadAdvMode, loadAdvData_congr h.1 ((accepted_bytes_iff _).mp hacc.1),
    loadAdvData_congr h.2 ((accepted_bytes_iff _).mp hacc.2.1)]

theorem orZero_congr {x y : OptionalField UInt32} (h : value x = value y) : orZero x = orZero y :=
  value_orElse value_uint32_inj h 0

theorem loadReactiveJam_congr {p q : ReactiveJamCmd} (h : p.wire = q.wire) (hacc : p.wire.Accepted)
    (s : BleReactiveJamParams) : loadReactiveJam p s = loadReactiveJam q s := by
  simp [ReactiveJamCmd.wire] at h
  obtain ⟨hchannel,hpattern,hposition⟩ := h
  obtain ⟨hsize,htake⟩ := value_bytes_eq hpattern ((accepted_bytes_iff _).mp hacc.2.1)
  simp only [loadReactiveJam, hchannel, hposition, hsize, memcpy_congr htake]

/-- The packets of two sequences that show the same. -/
theorem loadPackets_congr {x y : RepeatedField PendingPacket 25} (hx : x.count ≤ 25) (hcount : x.count = y.count)
    (h : ∀ i (hi : i < 25), i < x.count → x.items[i].wire = y.items[i].wire)
    (hacc : ∀ i (hi : i < 25), i < x.count → x.items[i].packet.size ≤ 255) :
    (loadPackets x).map (Vector.map PreparedPacketRef.seen) = (loadPackets y).map (Vector.map PreparedPacketRef.seen) := by
  rw [loadPackets, loadPackets, if_pos hx, if_pos (hcount ▸ hx), Option.map_some, Option.map_some, Option.some.injEq]
  apply Vector.ext
  intro i hi
  simp only [Vector.getElem_map, Vector.getElem_ofFn, hcount]
  split
  · rename_i hlt
    have hwire := h i hi (hcount ▸ hlt)
    simp only [PendingPacket.wire, Wire.field.injEq, true_and, and_true] at hwire
    obtain ⟨hsize,hcut⟩ := cut_bytes hwire (hacc i hi (hcount ▸ hlt))
    simp only [PreparedPacketRef.seen, Option.map_some, Fin.getElem_fin]
    rw [hsize, hcut]
  · rfl

/-- The number of the event is visible where a sequence waits for one. -/
theorem connectionEvent_congr {x y : Trigger} (h : x.wire = y.wire) (hx : x.whichTrigger = Trigger.connectionEventTag) :
    x.connectionEvent.connectionEvent = y.connectionEvent.connectionEvent := by
  have hxwire : x.wire = .message Trigger.connectionEventTag x.connectionEvent.wire .nil := by
    unfold Trigger.wire
    rw [hx]
    rfl
  rw [hxwire] at h
  unfold Trigger.wire at h
  split at h
  · exact absurd (Wire.message.inj h).1 (by decide)
  · have hbody := (Wire.message.inj h).2.1
    simpa only [ConnectionEventTrigger.wire, Wire.field.injEq, value_uint32_inj, true_and, and_true] using hbody
  · exact absurd (Wire.message.inj h).1 (by decide)
  · contradiction

/-- Of a sequence the parsers read everything but the trigger. -/
theorem loadSequence_congr {p q : PrepareSequenceCmd} (h : p.wire = q.wire) (hacc : p.wire.Accepted) (connEvt : UInt32) :
    (loadSequence p connEvt).map (Prod.map id Output.seen) = (loadSequence q connEvt).map (Prod.map id Output.seen) := by
  have hsequence := (Wire.optional_accepted hacc).2.2
  obtain ⟨-,-,h⟩ := Wire.optional_inj h
  simp [] at h
  obtain ⟨hid,hdirection,hrest⟩ := h
  have hle := Wire.repeated_accepted hsequence
  obtain ⟨hcount,hitems⟩ := Wire.repeated_inj hle hrest
  have hsizes (i : ℕ) (hi : i < 25) (hlt : i < p.sequence.count) : p.sequence.items[i].packet.size ≤ 255 :=
    (accepted_bytes_iff _).mp (Wire.repeated_items_accepted hsequence i hi hlt).1
  have hpackets := loadPackets_congr hle hcount hitems hsizes
  rw [loadPackets, loadPackets, if_pos hle, if_pos (hcount ▸ hle), Option.map_some, Option.map_some,
    Option.some.injEq] at hpackets
  rw [loadSequence, loadSequence, loadPackets, loadPackets, if_pos hle, if_pos (hcount ▸ hle), hid, hdirection]
  simp only [bind, Option.bind_some, done, Option.map_some, Prod.map, Output.seen, hpackets]

/-- A sequence that waits for an event shows its number, too. -/
theorem loadTriggered_congr {p q : PrepareSequenceCmd} (h : p.wire = q.wire) (hacc : p.wire.Accepted)
    (hhas : p.trigger.has = true) (htag : p.trigger.value.whichTrigger = Trigger.connectionEventTag) :
    (loadSequence p p.trigger.value.connectionEvent.connectionEvent).map (Prod.map id Output.seen) =
      (loadSequence q q.trigger.value.connectionEvent.connectionEvent).map (Prod.map id Output.seen) := by
  obtain ⟨-,htrigger,-⟩ := Wire.optional_inj h
  rw [← connectionEvent_congr (htrigger hhas) htag]
  exact loadSequence_congr h hacc _

section
variable {m m' : FullMessage}

theorem bleParser_readsAlike (c : BleParser) (hshown : c.Shown m)
    (h : c.kind.wire (m.msg c.kind) = c.kind.wire (m'.msg c.kind)) (hacc : (c.kind.wire (m.msg c.kind)).Accepted) :
    c.ReadsAlike m m' := by
  cases c
  case setAdvData => rfl
  case pdu s =>
    have hpdu := (accepted_bytes_iff _).mp hacc.2.1
    simp [BleParser.kind, Kind.wire, BleKind.wire, PduReceived.wire] at h
    obtain ⟨hsize,hcut⟩ := cut_bytes h.2.1 hpdu
    exact readsAlike_fetch fun s => by simp only [Output.seen, h, hcut, hsize]
  case sendRawPdu s =>
    have hpdu := (accepted_bytes_iff _).mp hacc.2.2.2.1
    simp [BleParser.kind, Kind.wire, BleKind.wire, SendRawPDUCmd.wire] at h
    obtain ⟨hsize,hcut⟩ := cut_bytes h.2.2.2.1 hpdu
    exact readsAlike_fetch fun s => by simp only [Output.seen, h, Int.toNat_natCast, hcut, hsize]
  case sendPdu s =>
    have hpdu := (accepted_bytes_iff _).mp hacc.2.2.1
    simp [BleParser.kind, Kind.wire, BleKind.wire, SendPDUCmd.wire] at h
    obtain ⟨hsize,hcut⟩ := cut_bytes h.2.2.1 hpdu
    exact readsAlike_fetch fun s => by simp only [Output.seen, h, Int.toNat_natCast, hcut, hsize]
  case advMode s => exact readsAlike_of_body (loadAdvMode_congr h hacc)
  case peripheralMode s => exact readsAlike_of_body (loadAdvMode_congr h hacc)
  case connectTo s =>
    simp [BleParser.kind, Kind.wire, BleKind.wire, ConnectToCmd.wire] at h
    obtain ⟨haddr,htype,haccess,hmap,hinterval,hincrement,hcrc⟩ := h
    exact readsAlike_of_read fun s => by
      dsimp only
      rw [haddr, htype, orZero_congr haccess, value_orElse value_vector_inj hmap, orZero_congr hinterval,
        orZero_congr hincrement, orZero_congr hcrc]
  case reactiveJam s => exact readsAlike_of_body (loadReactiveJam_congr h hacc)
  case prepareSequenceManual s => exact readsAlike_parse fun _ => loadSequence_congr h hacc 0
  case prepareSequenceConnEvt s =>
    exact readsAlike_parse fun _ => loadTriggered_congr h hacc hshown.1 hshown.2
  case accessAddressDiscovered s =>
    simp [BleParser.kind, Kind.wire, BleKind.wire, AccessAddressDiscovered.wire] at h
    obtain ⟨haccess,hrssi,htimestamp⟩ := h
    have htime := value_elim value_uint64_inj htimestamp UInt64.toUInt32 0
    exact readsAlike_of_read fun s => by
      dsimp only
      rw [haccess, htime, value_orElse value_int32_inj hrssi, value_optional_has htimestamp, value_optional_has hrssi]
  case advPdu s =>
    have hdata := (accepted_bytes_iff _).mp hacc.2.2.2.1
    simp [BleParser.kind, Kind.wire, BleKind.wire, AdvPduReceived.wire] at h
    obtain ⟨hsize,hcut⟩ := cut_bytes h.2.2.2.1 hdata
    exact readsAlike_fetch fun s => by simp only [Output.seen, h, Int.toNat_natCast, hcut, hsize]
  -- the others read whole fields only
  all_goals
    simp [BleParser.kind, Kind.wire, BleKind.wire, Disconnected.wire, SetBdAddressCmd.wire, SniffAdvCmd.wire,
      ChannelCmd.wire, SniffConnReqCmd.wire, SniffAccessAddressCmd.wire, SniffActiveConnCmd.wire, AccessAddressMsg.wire,
      ScanModeCmd.wire, DisconnectCmd.wire, SetEncryptionCmd.wire, SequenceMsg.wire, Synchronized.wire, Hijacked.wire,
      Injected.wire] at h
    exact readsAlike_of_read fun s => by simp only [h]

end
end WhadLib.Ble
