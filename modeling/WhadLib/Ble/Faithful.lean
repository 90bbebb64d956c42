import WhadLib.Ble.Wrappers

/-! Which messages of the BLE domain the wrapper classes leave as they were. -/
namespace WhadLib.Ble
open Library Cpp

/-- The wrapper classes; `JamAdv` counts for each of its two commands. -/
inductive BleWrapper
  | advMode | centralMode | connectTo | connected | deleteSequence | disconnect | disconnected | hijackBoth
  | hijackMaster | hijackSlave | hijacked | injected | jamActiveConn | jamAdv | jamAdvChannel | reactiveJam
  | linkLayerPdu | manualTrigger | peripheralMode | prepareSequenceManual | prepareSequenceConnEvt | rawPdu
  | scanMode | advPdu | sendPdu | sendRawPdu | sequenceTriggered | setAdvData | setBdAddress | setEncryption
  | sniffAccessAddress | accessAddressDiscovered | sniffActiveConn | sniffAdv | sniffConnReq | start | stop
  | synchronized | desynchronized | triggered
  deriving DecidableEq, Repr

namespace BleWrapper

def wrapperClass : BleWrapper → WrapperClass
  | .advMode => Wrapper.advMode
  | .centralMode => Wrapper.centralMode
  | .connectTo => Wrapper.connectTo
  | .connected => Wrapper.connected
  | .deleteSequence => Wrapper.deleteSequence
  | .disconnect => Wrapper.disconnect
  | .disconnected => Wrapper.disconnected
  | .hijackBoth => Wrapper.hijackBoth
  | .hijackMaster => Wrapper.hijackMaster
  | .hijackSlave => Wrapper.hijackSlave
  | .hijacked => Wrapper.hijacked
  | .injected => Wrapper.injected
  | .jamActiveConn => Wrapper.jamActiveConn
  | .jamAdv => Wrapper.jamAdv .jamAdv
  | .jamAdvChannel => Wrapper.jamAdv .jamAdvChan
  | .reactiveJam => Wrapper.reactiveJam
  | .linkLayerPdu => Wrapper.linkLayerPdu
  | .manualTrigger => Wrapper.manualTrigger
  | .peripheralMode => Wrapper.peripheralMode
  | .prepareSequenceManual => Wrapper.prepareSequenceManual
  | .prepareSequenceConnEvt => Wrapper.prepareSequenceConnEvt
  | .rawPdu => Wrapper.rawPdu
  | .scanMode => Wrapper.scanMode
  | .advPdu => Wrapper.advPdu
  | .sendPdu => Wrapper.sendPdu
  | .sendRawPdu => Wrapper.sendRawPdu
  | .sequenceTriggered => Wrapper.sequenceTriggered
  | .setAdvData => Wrapper.setAdvData
  | .setBdAddress => Wrapper.setBdAddress
  | .setEncryption => Wrapper.setEncryption
  | .sniffAccessAddress => Wrapper.sniffAccessAddress
  | .accessAddressDiscovered => Wrapper.accessAddressDiscovered
  | .sniffActiveConn => Wrapper.sniffActiveConn
  | .sniffAdv => Wrapper.sniffAdv
  | .sniffConnReq => Wrapper.sniffConnReq
  | .start => Wrapper.start
  | .stop => Wrapper.stop
  | .synchronized => Wrapper.synchronized
  | .desynchronized => Wrapper.desynchronized
  | .triggered => Wrapper.triggered

end BleWrapper

/-- Advertising data of 31 bytes is lost. -/
def AdvDataKept (x : BytesArray 31) : Prop := x.size = 31 → x.bytes = memset 0

/-- The messages that a class leaves as they were. -/
def BleWrapper.Keeps : BleWrapper → FullMessage → Prop
  | .advMode, m =>
    let p : AdvModeCmd := m.msg (.ble .advMode)
    AdvDataKept p.scanData ∧ AdvDataKept p.scanrspData
  | .peripheralMode, m =>
    let p : AdvModeCmd := m.msg (.ble .periphMode)
    AdvDataKept p.scanData ∧ AdvDataKept p.scanrspData
  | .connectTo, m => (ConnectToCmd.channelMap (m.msg (.ble .connect))).has = true
  | .connected, m => Connected.accessAddress (m.msg (.ble .connected)) = 0
  | .jamActiveConn, m => AccessAddressMsg.accessAddress (m.msg (.ble .jamConn)) = 0
  -- a longer one does not fit in a packet, and the constructor throws
  | .linkLayerPdu, m => 255 < (PduReceived.pdu (m.msg (.ble .pdu))).size
  | .prepareSequenceManual, m => (PrepareSequenceCmd.sequence (m.msg (.ble .prepare))).count = 0
  | .prepareSequenceConnEvt, m => (PrepareSequenceCmd.sequence (m.msg (.ble .prepare))).count = 0
  | .sendPdu, m =>
    let pdu := SendPDUCmd.pdu (m.msg (.ble .sendPdu))
    255 < pdu.size ∨ ∀ i, i+4 < pdu.size → bufferOf pdu.bytes (i+4) = bufferOf pdu.bytes i
  | .accessAddressDiscovered, m =>
    let timestamp := AccessAddressDiscovered.timestamp (m.msg (.ble .aaDisc))
    timestamp.has = true → timestamp.value.toNat < 2^32
  | .disconnected, _ => False
  | .hijacked, _ => False
  | .jamAdv, _ => False
  | .jamAdvChannel, _ => False
  | .rawPdu, _ => False
  | .setEncryption, _ => False
  | .triggered, _ => False
  | _, _ => True

namespace Wrapper
variable {m : FullMessage}

theorem connected_faithful_iff (hown : m.Holds (.ble .connected)) :
    connected.Faithful m ↔ Ble.Connected.accessAddress (m.msg (.ble .connected)) = 0 := by
  refine (WrapperClass.faithful_iff (c := connected) hown (fun _ => rfl) (fun _ => rfl)).trans ?_
  simp [connected, Kind.wire, BleKind.wire, Ble.Connected.wire, copyOf_bufferOf, eq_comm]

theorem disconnected_not_faithful (hown : m.Holds (.ble .disconnected)) : ¬disconnected.Faithful m := by
  let p : Ble.Disconnected := m.msg (.ble .disconnected)
  refine WrapperClass.not_faithful (s := (⟨p.connHandle+1,p.reason⟩,⟨0,0⟩)) rfl rfl hown ?_
  simp [Kind.wire, BleKind.wire, Ble.Disconnected.wire, p]

theorem hijacked_not_faithful (hown : m.Holds (.ble .hijacked)) : ¬hijacked.Faithful m := by
  refine WrapperClass.not_faithful (s := !Ble.Hijacked.success (m.msg (.ble .hijacked))) rfl rfl hown ?_
  simp [Kind.wire, BleKind.wire, Ble.Hijacked.wire]

theorem jamActiveConn_faithful_iff (hown : m.Holds (.ble .jamConn)) :
    jamActiveConn.Faithful m ↔ AccessAddressMsg.accessAddress (m.msg (.ble .jamConn)) = 0 := by
  refine (WrapperClass.faithful_iff (c := jamActiveConn) hown (fun _ => rfl) (fun _ => rfl)).trans ?_
  simp [jamActiveConn, Kind.wire, BleKind.wire, AccessAddressMsg.wire, eq_comm]

theorem triggered_not_faithful (hown : m.Holds (.ble .triggered)) : ¬triggered.Faithful m := by
  let id : UInt32 := SequenceMsg.id (m.msg (.ble .triggered))
  -- one of two numbers is not that of the message
  by_cases hid : id = 0
  · refine WrapperClass.not_faithful (s := (1 : UInt8)) rfl rfl hown ?_
    have hid' : SequenceMsg.id (m.msg (.ble .triggered)) = 0 := hid
    simp [Kind.wire, BleKind.wire, SequenceMsg.wire, hid']
  · refine WrapperClass.not_faithful (s := (0 : UInt8)) rfl rfl hown ?_
    have hid' : ¬0 = SequenceMsg.id (m.msg (.ble .triggered)) := fun h => hid h.symm
    simp [Kind.wire, BleKind.wire, SequenceMsg.wire, hid']

theorem not_holds_of_ne {k k' : Kind} (hown : m.Holds k) (hne : k ≠ k') : ¬m.Holds k' := by
  intro h
  exact hne (Option.some.inj (hown.kind.symm.trans h.kind))

/-- The flag is left to chance, and decides which command is packed. -/
theorem jamAdv_not_faithful {kind : BleKind} (hown : m.Holds (.ble kind)) (hkind : kind = .jamAdv ∨ kind = .jamAdvChan) :
    ¬(jamAdv kind).Faithful m := by
  have htype : whadBleGetMessageType m = kind.tag := by
    rw [whadBleGetMessageType, if_pos (show m.whichMsg = Message.bleTag from hown.domain)]
    exact hown.tag
  intro h
  obtain rfl | rfl := hkind
  · have hc : (jamAdv .jamAdv).construct m ⟨0,true⟩ = some (m,⟨0,true⟩) := if_pos htype
    obtain ⟨-,hshows,-⟩ := h ⟨0,true⟩ m ⟨0,true⟩ hc
    exact not_holds_of_ne hown (by decide) (hshows.mp rfl)
  · have hc : (jamAdv .jamAdvChan).construct m ⟨0,false⟩ =
        some (m,⟨ChannelCmd.channel (m.msg (.ble .jamAdvChan)),false⟩) :=
      (if_neg (by rw [htype]; decide)).trans (if_pos htype)
    obtain ⟨-,hshows,-⟩ := h _ _ _ hc
    exact nomatch hshows.mpr hown

/-! Sequences: the number of packets is not parsed, and without packets nothing is packed. -/

theorem showsPackets_nil_iff (x : RepeatedField PendingPacket 25) : ShowsPackets [] x ↔ x.count = 0 := by
  constructor
  · intro h
    exact h.1.symm
  · intro h
    exact ⟨h.symm,fun i _ hi => by omega⟩

theorem parsedBy_loadSequence {parser : Parsed BlePrepseqParams} {p : PrepareSequenceCmd} {connEvt : UInt32}
    (hparser : parser = (loadSequence p connEvt).map fun written => (written.1,some written.2))
    (hcount : p.sequence.count ≤ 25) :
    ∃ params, parsedBy parser = some params ∧ params.id = p.id ∧ params.direction = p.direction ∧
      params.connEvt = connEvt ∧ unpackPackets params = some [] := by
  subst hparser
  simp only [loadSequence, loadPackets, if_pos hcount]
  exact ⟨_,rfl,rfl,rfl,rfl,rfl⟩

theorem prepareSequenceManual_faithful_iff (hm : Decoded m) (hown : m.Holds (.ble .prepare)) :
    prepareSequenceManual.Faithful m ↔ BleWrapper.prepareSequenceManual.Keeps m := by
  let p : PrepareSequenceCmd := m.msg (.ble .prepare)
  have hc (s) : prepareSequenceManual.construct m s = some (m,⟨p.id,p.direction,[]⟩) := by
    have hparser : whadBlePrepareSequenceManualParse (some m) (some s) =
        (loadSequence p 0).map fun written => (written.1,some written.2) := rfl
    obtain ⟨params,hparams,hid,hdirection,-,hpackets⟩ := parsedBy_loadSequence hparser (sequence_fits hm hown)
    simp only [prepareSequenceManual, hparams, Option.bind_eq_bind, Option.bind_some, hpackets, hid, hdirection]
  constructor
  · intro h
    obtain ⟨-,-,-,hshows⟩ := h (default : BlePrepseqParams) m _ (hc _)
    exact (showsPackets_nil_iff _).mp hshows
  · intro h s m₁ o ho
    obtain ⟨rfl,rfl⟩ := Prod.mk.inj (Option.some.inj ((hc s).symm.trans ho))
    exact ⟨⟨m,rfl,sameWire_refl m⟩,rfl,rfl,(showsPackets_nil_iff _).mpr h⟩

theorem prepareSequenceConnEvt_faithful_iff (hm : Decoded m) (hown : m.Holds (.ble .prepare)) :
    prepareSequenceConnEvt.Faithful m ↔ BleWrapper.prepareSequenceConnEvt.Keeps m := by
  let p : PrepareSequenceCmd := m.msg (.ble .prepare)
  let connEvt := p.trigger.value.connectionEvent.connectionEvent
  have hc (s) : prepareSequenceConnEvt.construct m s = some (m,⟨⟨p.id,p.direction,[]⟩,connEvt⟩) := by
    have hparser : whadBlePrepareSequenceConnEvtParse (some m) (some s) =
        (loadSequence p connEvt).map fun written => (written.1,some written.2) := rfl
    obtain ⟨params,hparams,hid,hdirection,hevent,hpackets⟩ := parsedBy_loadSequence hparser (sequence_fits hm hown)
    simp only [prepareSequenceConnEvt, hparams, Option.bind_eq_bind, Option.bind_some, hpackets, hid, hdirection, hevent]
  constructor
  · intro h
    obtain ⟨-,-,-,hshows,-⟩ := h (default : BlePrepseqParams) m _ (hc _)
    exact (showsPackets_nil_iff _).mp hshows
  · intro h s m₁ o ho
    obtain ⟨rfl,rfl⟩ := Prod.mk.inj (Option.some.inj ((hc s).symm.trans ho))
    exact ⟨⟨m,rfl,sameWire_refl m⟩,rfl,rfl,(showsPackets_nil_iff _).mpr h,fun _ => rfl⟩

theorem accessAddressDiscovered_faithful_iff (hown : m.Holds (.ble .aaDisc)) :
    accessAddressDiscovered.Faithful m ↔ BleWrapper.accessAddressDiscovered.Keeps m := by
  let p : Ble.AccessAddressDiscovered := m.msg (.ble .aaDisc)
  refine (WrapperClass.unpacking_faithful_iff hown (fun _ => rfl) (fun _ => rfl)).trans ?_
  constructor
  · intro h
    have hwire := (h (default : BleAaDiscParams)).1
    simp only [Kind.wire, BleKind.wire, Ble.AccessAddressDiscovered.wire, Wire.field.injEq, true_and, and_true] at hwire
    exact (value_timestamp_iff p.timestamp).mp hwire.2
  · intro h s
    refine ⟨?_,rfl,rfl,fun hrssi => if_pos hrssi,rfl,fun htimestamp => ?_⟩
    · have htimestamp := (value_timestamp_iff p.timestamp).mpr h
      have hrssi := included_restored p.rssi 0
      simp only [Kind.wire, BleKind.wire, Ble.AccessAddressDiscovered.wire]
      rw [hrssi, htimestamp]
    · change (if p.timestamp.has = true then p.timestamp.value.toUInt32 else 0).toUInt64 = p.timestamp.value
      rw [if_pos htimestamp]
      exact (toUInt32_toUInt64_iff _).mpr (h htimestamp)

theorem setBdAddress_faithful : setBdAddress.Faithful m := by
  rintro s m₁ o ⟨rfl⟩
  exact ⟨⟨m,rfl,sameWire_refl m⟩,fun _ _ => rfl⟩

theorem setAdvData_faithful : setAdvData.Faithful m := WrapperClass.faithful_of_throws fun _ => rfl

theorem setEncryption_not_faithful (hown : m.Holds (.ble .encryption)) : ¬setEncryption.Faithful m := by
  let p : SetEncryptionCmd := m.msg (.ble .encryption)
  let s : SetEncryption := ⟨0,!p.enabled,p.llKey,p.llIv,p.key,p.rand,p.ediv⟩
  let zero : Buffer := fun _ => 0
  refine WrapperClass.not_faithful (s := (s,⟨0,false,zero,zero,zero,zero,zero⟩)) rfl rfl hown ?_
  simp [Kind.wire, BleKind.wire, SetEncryptionCmd.wire, FullMessage.put_msg_self, s, p]

/-! Advertising data. -/

theorem readsAs_memset_iff {x : BytesArray 31} (hx : x.size = 31) :
    ReadsAs x (bufferOf (memset 0 : Vector UInt8 31)) x.size ↔ x.bytes = memset 0 := by
  constructor
  · intro h
    have hcontent := (content_eq hx.le).symm.trans h.content
    rw [hx, take_bufferOf _ le_rfl, take_bufferOf _ le_rfl, List.take_of_length_le (by simp),
      List.take_of_length_le (by simp)] at hcontent
    exact Vector.toList_inj.mp (Option.some.inj hcontent)
  · intro h
    refine ⟨rfl,?_⟩
    rw [← h]
    exact content_eq hx.le

/-- The parser keeps what the message has unless that fills the array. -/
theorem loadAdvData_spec (data : Vector UInt8 31) {x : BytesArray 31} (hx : x.size ≤ 31) :
    ∃ loaded, loadAdvData data x = some (loaded,UInt8.ofNat x.size) ∧
      (ReadsAs x (bufferOf loaded) x.size ↔ AdvDataKept x) := by
  have hlength : (UInt8.ofNat x.size).toNat = x.size := toNat_uint8_ofNat (by omega)
  have hcheck : (0 < UInt8.ofNat x.size ∧ UInt8.ofNat x.size < 31) ↔ 0 < x.size ∧ x.size < 31 := by
    rw [UInt8.lt_iff_toNat_lt, UInt8.lt_iff_toNat_lt, hlength]
    rfl
  by_cases h : 0 < x.size ∧ x.size < 31
  · obtain ⟨loaded,hloaded,htake⟩ := exists_memcpy data (bufferOf x.bytes) hx
    refine ⟨loaded,?_,iff_of_true (readsAs_of_take hx htake) (fun hfull => by omega)⟩
    simp only [loadAdvData, if_pos (hcheck.mpr h), hlength, hloaded]
    rfl
  · refine ⟨memset 0,by simp only [loadAdvData, if_neg (mt hcheck.mp h)],?_⟩
    by_cases hfull : x.size = 31
    · exact (readsAs_memset_iff hfull).trans ⟨fun h _ => h,fun h => h hfull⟩
    · exact iff_of_true (readsAs_empty (by omega) _) (fun h => absurd h hfull)

/-- The builder restores what it is given back. -/
theorem storeAdvData_spec {x : BytesArray 31} (hx : x.size ≤ 31) (src : Buffer) :
    ∃ z, storeAdvData x src x.size = some z ∧ (value z = value x ↔ ReadsAs x src x.size) := by
  by_cases hpos : 0 < x.size
  · obtain ⟨z,hz⟩ : ∃ z, x.fill src x.size = some z := x.exists_fill src (by omega) (by omega)
    refine ⟨z,?_,value_fill_iff (by omega) hz⟩
    rw [storeAdvData, if_pos (by omega), if_neg (by omega), hz]
  · exact ⟨x,if_neg (by omega),iff_of_true rfl (readsAs_empty (by omega) src)⟩

theorem keepAdvData_spec (memory data : Vector UInt8 31) {length : ℕ} (h : length ≤ 31) :
    ∃ kept, keepAdvData memory data length = some kept ∧
      (bufferOf kept).take length = (bufferOf data).take length := by
  by_cases hpos : 0 < length
  · obtain ⟨kept,hkept,htake⟩ := exists_memcpy memory (bufferOf data) h
    exact ⟨kept,(if_pos (by omega)).trans hkept,htake⟩
  · obtain rfl : length = 0 := by omega
    exact ⟨memory,if_neg (by omega),rfl⟩

theorem keepPeripheralData_spec (memory data : Vector UInt8 31) {length : ℕ} (h : length ≤ 31) :
    ∃ kept, keepPeripheralData memory data length = some kept ∧
      (bufferOf kept).take length = (bufferOf data).take length := by
  obtain ⟨kept,hkept,htake⟩ := exists_memcpy memory (bufferOf data) h
  exact ⟨kept,(if_pos (by omega)).trans hkept,htake⟩

/-- Both classes keep the data unless one of the two arrays is full. What they differ in is their member
of the message. -/
theorem advertising_faithful_iff {kind : Kind} {parser : Option FullMessage → Option BleAdvModeParams → Parsed BleAdvModeParams}
    {keep : Vector UInt8 31 → Vector UInt8 31 → ℤ → Option (Vector UInt8 31)}
    {builder : Option FullMessage → Option Buffer → ℤ → Option Buffer → ℤ → Outcome} {member : FullMessage → AdvModeCmd}
    (hown : m.Holds kind) (haccepted : (member m).wire.Accepted) (hmember : kind.wire (m.msg kind) = (member m).wire)
    (hparser : ∀ s, parser (some m) (some s) = (loadAdvMode (member m) s).map fun written => (written.1,some written.2))
    (hkeep : ∀ memory data {length : ℕ}, length ≤ 31 → ∃ kept, keep memory data length = some kept ∧
      (bufferOf kept).take length = (bufferOf data).take length)
    (hbuilder : ∀ a b (n k : ℤ) q, storeAdvMode a n b k (member m) = some (.success,q) →
      ∃ q', packed (builder (some m) (some a) n (some b) k) = some (m.put kind q') ∧ kind.wire q' = q.wire) :
    (advertising kind parser keep builder member).Faithful m ↔
      AdvDataKept (member m).scanData ∧ AdvDataKept (member m).scanrspData := by
  have hscan : (member m).scanData.size ≤ 31 := (accepted_bytes_iff _).mp haccepted.1
  have hscanrsp : (member m).scanrspData.size ≤ 31 := (accepted_bytes_iff _).mp haccepted.2.1
  have hlength {n : ℕ} (hn : n ≤ 31) : (UInt8.ofNat n).toNat = n := toNat_uint8_ofNat (by omega)
  refine WrapperClass.faithful_iff_of hown (⟨memset 0,0,memset 0,0⟩,⟨memset 0,0,memset 0,0⟩) fun s => ?_
  obtain ⟨a,ha,hareads⟩ := loadAdvData_spec s.2.advData hscan
  obtain ⟨b,hb,hbreads⟩ := loadAdvData_spec s.2.scanrspData hscanrsp
  obtain ⟨a',ha',hatake⟩ := hkeep s.1.advData a hscan
  obtain ⟨b',hb',hbtake⟩ := hkeep s.1.scanRsp b hscanrsp
  obtain ⟨x,hx,hxvalue⟩ := storeAdvData_spec hscan (bufferOf a')
  obtain ⟨y,hy,hyvalue⟩ := storeAdvData_spec hscanrsp (bufferOf b')
  have hload : parsedBy (parser (some m) (some s.2)) = some ⟨a,UInt8.ofNat (member m).scanData.size,b,
      UInt8.ofNat (member m).scanrspData.size⟩ := by
    rw [hparser]
    simp only [loadAdvMode, ha, hb]
    rfl
  have hstore : storeAdvMode (bufferOf a') (member m).scanData.size (bufferOf b') (member m).scanrspData.size (member m) =
      some (.success,{ scanData := x, scanrspData := y }) := by
    simp only [storeAdvMode, hx, hy]
    rfl
  obtain ⟨q,hq,hqwire⟩ := hbuilder _ _ _ _ _ hstore
  refine ⟨⟨a',(member m).scanData.size,b',(member m).scanrspData.size⟩,q,?_,hq,?_⟩
  · simp only [advertising, hload, Option.bind_eq_bind, Option.bind_some, hlength hscan, hlength hscanrsp, ha', hb']
  · change (kind.wire q = kind.wire (m.msg kind)) ∧ (ReadsAs _ _ _ ∧ ReadsAs _ _ _) ↔ _
    rw [hqwire, hmember, readsAs_congr hatake, readsAs_congr hbtake, hareads, hbreads]
    have hwire : AdvModeCmd.wire ⟨x,y⟩ = (member m).wire ↔ value x = value (member m).scanData ∧
        value y = value (member m).scanrspData := by simp [AdvModeCmd.wire]
    rw [hwire, hxvalue, hyvalue, readsAs_congr hatake, readsAs_congr hbtake, hareads, hbreads]
    exact and_self_iff

theorem advMode_faithful_iff (hm : Decoded m) (hown : m.Holds (.ble .advMode)) :
    advMode.Faithful m ↔ BleWrapper.advMode.Keeps m := by
  refine advertising_faithful_iff hown (hm.accepted _ hown) rfl (fun _ => rfl) keepAdvData_spec ?_
  intro a b n k q hq
  exact ⟨q,packed_build hq,rfl⟩

theorem peripheralMode_faithful_iff (hm : Decoded m) (hown : m.Holds (.ble .periphMode)) :
    peripheralMode.Faithful m ↔ BleWrapper.peripheralMode.Keeps m := by
  refine advertising_faithful_iff hown (hm.accepted _ hown) rfl (fun _ => rfl) keepPeripheralData_spec ?_
  intro a b n k q hq
  exact ⟨q,packed_build hq,rfl⟩

/-! Connection parameters. -/

theorem orZero_restored {x : OptionalField UInt32} : (if orZero x ≠ 0 then ⟨true,orZero x⟩ else x) = x := by
  obtain ⟨has,v⟩ := x
  cases has <;> by_cases hv : v = 0 <;> simp [orZero, hv]

theorem orZero_restored_pos {x : OptionalField UInt32} : (if 0 < orZero x then ⟨true,orZero x⟩ else x) = x := by
  have hpos : 0 < orZero x ↔ orZero x ≠ 0 := UInt32.pos_iff_ne_zero
  simp only [hpos]
  exact orZero_restored

theorem orZero_shown (x : OptionalField UInt32) : x.Shown (orZero x) := fun h => if_pos h

theorem connectTo_faithful_iff (hown : m.Holds (.ble .connect)) :
    connectTo.Faithful m ↔ (ConnectToCmd.channelMap (m.msg (.ble .connect))).has = true := by
  let p : ConnectToCmd := m.msg (.ble .connect)
  refine (WrapperClass.faithful_iff (c := connectTo) hown (fun _ => rfl) (fun _ => rfl)).trans ?_
  constructor
  · intro h
    have hwire := (h ⟨p.bdAddress,⟨0⟩,0,memset 0,0,0,0⟩).1
    simp only [connectTo, Kind.wire, BleKind.wire, ConnectToCmd.wire, Wire.field.injEq, value_optional_iff] at hwire
    tauto
  · intro h s
    have hmap : value (⟨true,if p.channelMap.has = true then p.channelMap.value else memset 0⟩ :
        OptionalField (Vector UInt8 5)) = value p.channelMap := by
      rw [value_optional_iff, if_pos h]
      exact ⟨h.symm,fun _ => rfl⟩
    refine ⟨?_,rfl,rfl,orZero_shown _,fun h => if_pos h,orZero_shown _,orZero_shown _,orZero_shown _⟩
    simp only [connectTo, Kind.wire, BleKind.wire, ConnectToCmd.wire, copyOf_bufferOf, orZero_restored,
      orZero_restored_pos]
    rw [hmap]

section
attribute [local irreducible] FullMessage.build

theorem rawPdu_not_faithful (hown : m.Holds (.ble .rawPdu)) : ¬rawPdu.Faithful m := by
  let p : RawPduReceived := m.msg (.ble .rawPdu)
  obtain ⟨pdu,hpdu⟩ := p.pdu.exists_fill (Packet.getBytes (.empty : Packet 255)) le_rfl (by omega)
  let s : RawPdu := ⟨p.channel+1,0,0,0,.empty,0,false,0,0,⟨0⟩,false,false,false⟩
  have hpack : rawPdu.pack m s = some (m.put (.ble .rawPdu) { p with
      channel := p.channel+1, accessAddress := 0, connHandle := 0, direction := ⟨0⟩, pdu := pdu, crc := 0
      crcValidity := ⟨true,false⟩, rssi := ⟨true,0⟩, processed := false, decrypted := false }) := by
    refine packed_build (r := .success) ?_
    change (p.pdu.fill (Packet.getBytes s.pdu) (Packet.getSize s.pdu)).bind _ = _
    rw [show p.pdu.fill (Packet.getBytes s.pdu) (Packet.getSize s.pdu) = some pdu from hpdu]
    rfl
  refine WrapperClass.not_faithful (s := s) (o := s) rfl hpack hown ?_
  simp [Kind.wire, BleKind.wire, RawPduReceived.wire, p]

/-! Packets. -/

theorem linkLayerPdu_faithful_iff :
    linkLayerPdu.Faithful m ↔ BleWrapper.linkLayerPdu.Keeps m := by
  let p : PduReceived := m.msg (.ble .pdu)
  by_cases hlt : 255 < p.pdu.size
  · refine iff_of_true (WrapperClass.faithful_of_throws fun s => ?_) hlt
    change (Packet.setBytes (n := 255) (bufferOf p.pdu.bytes) p.pdu.size).bind _ = none
    rw [Packet.setBytes_of_lt _ hlt]
    rfl
  · refine iff_of_false (fun h => ?_) hlt
    obtain ⟨packet,hpacket⟩ := Packet.setBytes_of_le (n := 255) (bufferOf p.pdu.bytes) (not_lt.mp hlt)
    -- the direction that lies in memory is not that of the message
    let s : BlePdu := ⟨0,fun _ => 0,0,⟨p.direction.raw+1⟩,false,false⟩
    have hc : linkLayerPdu.construct m s =
        some (m,⟨p.connHandle,packet,⟨p.direction.raw+1⟩,p.processed,p.decrypted⟩) := by
      change (Packet.setBytes (n := 255) (bufferOf p.pdu.bytes) p.pdu.size).bind _ = _
      rw [hpacket]
      rfl
    obtain ⟨-,-,-,hdirection,-⟩ := h s m _ hc
    have hraw := congrArg EnumField.raw hdirection
    simp only [p] at hraw
    omega

theorem sendRawPdu_faithful (hm : Decoded m) (hown : m.Holds (.ble .sendRawPdu)) : sendRawPdu.Faithful m := by
  let p : SendRawPDUCmd := m.msg (.ble .sendRawPdu)
  have hsize : p.pdu.size ≤ 300 := (accepted_bytes_iff _).mp (hm.accepted _ hown).2.2.2.1
  refine WrapperClass.faithful_of hown fun s m₁ o ho => ?_
  obtain ⟨packet,hpacket,ho⟩ := Option.bind_eq_some_iff.mp ho
  obtain ⟨rfl,rfl⟩ := Prod.mk.inj (Option.some.inj ho)
  have hreads : ReadsAs p.pdu packet.getBytes packet.getSize := (readsAs_self hsize).setBytes hpacket
  obtain ⟨z,hz,hzsize,hvalue⟩ := hreads.fill (by omega) p.pdu
  refine ⟨⟨{ p with pdu := { p.pdu with bytes := z.bytes } },?_,?_⟩,rfl,rfl,rfl,hreads,rfl,rfl⟩
  · refine packed_build (r := .success) ?_
    change (memcpy p.pdu.bytes packet.getBytes packet.getSize).bind _ = _
    rw [(BytesArray.fill_eq_some_iff.mp hz).1]
    rfl
  · have hrestored : value (⟨p.pdu.size,z.bytes⟩ : BytesArray 300) = value p.pdu := by
      rw [← hzsize]
      exact hvalue
    simp only [sendRawPdu, Kind.wire, BleKind.wire, SendRawPDUCmd.wire]
    rw [hrestored]

/-- The bytes are packed four places behind where they were. -/
theorem sendPdu_faithful_iff (hm : Decoded m) (hown : m.Holds (.ble .sendPdu)) :
    sendPdu.Faithful m ↔ BleWrapper.sendPdu.Keeps m := by
  let p : SendPDUCmd := m.msg (.ble .sendPdu)
  have hsize : p.pdu.size ≤ 300 := (accepted_bytes_iff _).mp (hm.accepted _ hown).2.2.1
  by_cases hlt : 255 < p.pdu.size
  · refine iff_of_true (WrapperClass.faithful_of_throws fun s => ?_) (.inl hlt)
    change (Packet.setBytes (n := 255) (bufferOf p.pdu.bytes) p.pdu.size).bind _ = none
    rw [Packet.setBytes_of_lt _ hlt]
    rfl
  · refine WrapperClass.faithful_iff_of hown ⟨⟨0⟩,0,0,fun _ => 0,0,0,false⟩ fun s => ?_
    obtain ⟨packet,hpacket⟩ := Packet.setBytes_of_le (n := 255) (bufferOf p.pdu.bytes) (not_lt.mp hlt)
    have hreads : ReadsAs p.pdu packet.getBytes packet.getSize := (readsAs_self hsize).setBytes hpacket
    let bytes : Vector UInt8 300 := Vector.ofFn fun i =>
      if 4 ≤ i.val ∧ (i : ℤ) < packet.getSize+4 then packet.getBytes (i.val-4) else p.pdu.bytes[i]
    refine ⟨⟨p.direction,p.connHandle,packet,p.encrypt⟩,{ p with pdu := { p.pdu with bytes := bytes } },?_,?_,?_⟩
    · change (Packet.setBytes (n := 255) (bufferOf p.pdu.bytes) p.pdu.size).bind _ = _
      rw [hpacket]
      rfl
    · refine packed_build (r := .success) ?_
      have hcopy : SendPDUCmd.copyToRaw p packet.getBytes packet.getSize =
          some { p with pdu := { p.pdu with bytes := bytes } } := by
        rw [SendPDUCmd.copyToRaw, if_pos (by rw [hreads.size]; omega), if_neg (by rw [hreads.size]; omega)]
      change (SendPDUCmd.copyToRaw p packet.getBytes packet.getSize).bind _ = _
      rw [hcopy]
      rfl
    · have hsrc (i : ℕ) (hi : i < p.pdu.size) : packet.getBytes i = bufferOf p.pdu.bytes i := by
        have htake := Option.some.inj (hreads.content.symm.trans (content_eq hsize))
        exact take_eq_iff.mp htake i hi
      have hbyte (i : ℕ) (hi : i < 300) : bufferOf bytes i =
          if 4 ≤ i ∧ (i : ℤ) < packet.getSize+4 then packet.getBytes (i-4) else bufferOf p.pdu.bytes i := by
        simp [bufferOf, bytes, hi]
      have hwire : Kind.wire (.ble .sendPdu) { p with pdu := { p.pdu with bytes := bytes } } = Kind.wire (.ble .sendPdu) p ↔
          ∀ i < p.pdu.size, bufferOf bytes i = bufferOf p.pdu.bytes i := by
        rw [← value_bytes_iff hsize]
        simp [Kind.wire, BleKind.wire, SendPDUCmd.wire]
      change (Kind.wire (.ble .sendPdu) _ = Kind.wire (.ble .sendPdu) p ∧ _) ↔ _
      rw [hwire]
      constructor
      · rintro ⟨hkept,-⟩
        refine .inr fun i (hi : i+4 < p.pdu.size) => ?_
        have h := hkept (i+4) hi
        rw [hbyte _ (by omega), if_pos (by rw [hreads.size]; omega), Nat.add_sub_cancel, hsrc i (by omega)] at h
        exact h.symm
      · rintro hkept
        refine ⟨fun i hi => ?_,rfl,rfl,hreads,rfl⟩
        rw [hbyte _ (by omega)]
        split
        · rename_i h
          obtain ⟨j,rfl⟩ : ∃ j, i = j+4 := ⟨i-4,by omega⟩
          rw [Nat.add_sub_cancel, hsrc j (by omega)]
          exact (hkept.resolve_left hlt j hi).symm
        · rfl

theorem loadReactiveJam_spec (s : BleReactiveJamParams) {p : ReactiveJamCmd} (h : p.pattern.size ≤ 20) :
    ∃ pattern, loadReactiveJam p s = done ⟨p.channel,pattern,p.pattern.size,p.position⟩ ∧
      (bufferOf pattern).take p.pattern.size = (bufferOf p.pattern.bytes).take p.pattern.size := by
  by_cases hpos : 0 < p.pattern.size
  · obtain ⟨pattern,hpattern,htake⟩ := exists_memcpy s.pattern (bufferOf p.pattern.bytes) h
    have hbounds : 0 < (p.pattern.size : ℤ) ∧ (p.pattern.size : ℤ) ≤ 20 := by omega
    refine ⟨pattern,(if_pos hbounds).trans ?_,htake⟩
    rw [hpattern]
    rfl
  · have hbounds : ¬(0 < (p.pattern.size : ℤ) ∧ (p.pattern.size : ℤ) ≤ 20) := by omega
    have hmax : ¬20 < (p.pattern.size : ℤ) := by omega
    refine ⟨memset 0,(if_neg hbounds).trans (if_neg hmax),?_⟩
    rw [show p.pattern.size = 0 by omega]
    rfl

theorem reactiveJam_faithful (hm : Decoded m) (hown : m.Holds (.ble .reactiveJam)) : reactiveJam.Faithful m := by
  let p : ReactiveJamCmd := m.msg (.ble .reactiveJam)
  have hsize : p.pattern.size ≤ 20 := (accepted_bytes_iff _).mp (hm.accepted _ hown).2.1
  have hsize16 : sizeOf16 p.pattern.size = p.pattern.size := sizeOf16_of_lt (by omega) (by omega)
  refine WrapperClass.faithful_of hown fun s m₁ o ho => ?_
  obtain ⟨loaded,hloaded,hloadedtake⟩ := loadReactiveJam_spec s.2 hsize
  obtain ⟨pattern,hpattern,htake⟩ := exists_memcpy s.1.pattern (bufferOf loaded) hsize
  have hparsed : parsedBy (whadBleReactiveJamParse (some m) (some s.2)) =
      some ⟨p.channel,loaded,p.pattern.size,p.position⟩ := parsedBy_parse hloaded
  have hc : reactiveJam.construct m s = some (m,⟨p.channel,pattern,p.pattern.size,p.position⟩) := by
    simp only [reactiveJam, hparsed, Option.bind_eq_bind, Option.bind_some]
    rw [if_pos (by omega), hpattern]
    rfl
  obtain ⟨rfl,rfl⟩ := Prod.mk.inj (Option.some.inj (hc.symm.trans ho))
  have hreads : ReadsAs p.pattern (bufferOf pattern) p.pattern.size :=
    readsAs_of_take hsize (htake.trans hloadedtake)
  by_cases hpos : 0 < p.pattern.size
  · obtain ⟨bytes,hbytes,hbytestake⟩ := exists_memcpy p.pattern.bytes (bufferOf pattern) hsize
    refine ⟨⟨{ p with pattern := ⟨p.pattern.size,bytes⟩ },?_,?_⟩,rfl,hreads,rfl⟩
    · refine packed_build (r := .success) ?_
      have hposint : 0 < (p.pattern.size : ℤ) := by omega
      have hmax : ¬20 < (p.pattern.size : ℤ) := by omega
      refine (if_pos hposint).trans ((if_neg hmax).trans ?_)
      rw [hsize16]
      exact congrArg (fun copied => Option.bind copied _) hbytes
    · have hvalue : value (⟨p.pattern.size,bytes⟩ : BytesArray 20) = value p.pattern :=
        (value_bytes_iff hsize).mpr (take_eq_iff.mp (hbytestake.trans (htake.trans hloadedtake)))
      simp only [reactiveJam, Kind.wire, BleKind.wire, ReactiveJamCmd.wire, hvalue]
      rfl
  · refine ⟨⟨{ p with pattern := { p.pattern with size := p.pattern.size } },?_,rfl⟩,rfl,hreads,rfl⟩
    have hzero : ¬0 < (p.pattern.size : ℤ) := by omega
    refine packed_build (r := .success) ((if_neg hzero).trans ?_)
    rw [hsize16]
    rfl

/-- The data is copied onto itself, or not at all. -/
theorem advPdu_faithful (hm : Decoded m) (hown : m.Holds (.ble .advPdu)) : advPdu.Faithful m := by
  let p : AdvPduReceived := m.msg (.ble .advPdu)
  have hsize : p.advData.size ≤ 31 := (accepted_bytes_iff _).mp (hm.accepted _ hown).2.2.2.1
  let address : Vector UInt8 6 := copyOf (bufferOf (copyOf (bufferOf p.bdAddress) : Vector UInt8 6))
  have haddress : address = p.bdAddress := by simp only [address, copyOf_bufferOf]
  refine WrapperClass.faithful_of hown ?_
  rintro s m₁ o ⟨rfl⟩
  by_cases hlen : 0 < (p.advData.size : ℤ) ∧ (p.advData.size : ℤ) < 31
  · obtain ⟨z,hz,-,hvalue⟩ := (readsAs_self hsize).fill (by omega) p.advData
    refine ⟨⟨{ p with bdAddress := address, advData := z },?_,?_⟩,trivial⟩
    · refine packed_build (r := .success) ?_
      refine (if_pos hlen).trans ?_
      rw [hz]
      rfl
    · simp only [advPdu, Kind.wire, BleKind.wire, AdvPduReceived.wire, haddress, hvalue]
      rfl
  · refine ⟨⟨{ p with bdAddress := address },?_,?_⟩,trivial⟩
    · refine packed_build (r := .success) ?_
      exact if_neg hlen
    · simp only [advPdu, Kind.wire, BleKind.wire, AdvPduReceived.wire, haddress]
      rfl

end
end Wrapper

section
open Wrapper
variable {m : FullMessage}

/-- A class leaves the messages as they were that it keeps, and no others. -/
theorem bleWrapper_faithful_iff (w : BleWrapper) (hm : Decoded m) (hown : m.Holds w.wrapperClass.kind) :
    w.wrapperClass.Faithful m ↔ w.Keeps m := by
  cases w
  case advMode => exact advMode_faithful_iff hm hown
  case peripheralMode => exact peripheralMode_faithful_iff hm hown
  case connectTo => exact connectTo_faithful_iff hown
  case connected => exact connected_faithful_iff hown
  case jamActiveConn => exact jamActiveConn_faithful_iff hown
  case linkLayerPdu => exact linkLayerPdu_faithful_iff
  case prepareSequenceManual => exact prepareSequenceManual_faithful_iff hm hown
  case prepareSequenceConnEvt => exact prepareSequenceConnEvt_faithful_iff hm hown
  case sendPdu => exact sendPdu_faithful_iff hm hown
  case accessAddressDiscovered => exact accessAddressDiscovered_faithful_iff hown
  -- classes that break every message
  case disconnected => exact iff_of_false (disconnected_not_faithful hown) id
  case hijacked => exact iff_of_false (hijacked_not_faithful hown) id
  case jamAdv => exact iff_of_false (jamAdv_not_faithful hown (.inl rfl)) id
  case jamAdvChannel => exact iff_of_false (jamAdv_not_faithful hown (.inr rfl)) id
  case rawPdu => exact iff_of_false (rawPdu_not_faithful hown) id
  case setEncryption => exact iff_of_false (setEncryption_not_faithful hown) id
  case triggered => exact iff_of_false (triggered_not_faithful hown) id
  -- classes that break none
  all_goals refine iff_of_true ?_ trivial
  case reactiveJam => exact reactiveJam_faithful hm hown
  case sendRawPdu => exact sendRawPdu_faithful hm hown
  case advPdu => exact advPdu_faithful hm hown
  case setAdvData => exact setAdvData_faithful
  case setBdAddress => exact setBdAddress_faithful
  case centralMode => exact WrapperClass.plain_faithful hown rfl
  case start => exact WrapperClass.plain_faithful hown rfl
  case stop => exact WrapperClass.plain_faithful hown rfl
  case deleteSequence =>
    exact (WrapperClass.faithful_iff hown (fun _ => rfl) (fun _ => rfl)).mpr fun _ => ⟨rfl,rfl⟩
  case disconnect => exact WrapperClass.unpacking_faithful hown (fun _ => rfl) (fun _ => rfl) fun _ => ⟨rfl,trivial⟩
  case sequenceTriggered =>
    exact WrapperClass.unpacking_faithful hown (fun _ => rfl) (fun _ => rfl) fun _ => ⟨rfl,trivial⟩
  case hijackBoth =>
    exact WrapperClass.unpacking_faithful hown (fun _ => rfl) (fun _ => rfl) fun _ => ⟨rfl,rfl⟩
  case hijackMaster =>
    exact WrapperClass.unpacking_faithful hown (fun _ => rfl) (fun _ => rfl) fun _ => ⟨rfl,rfl⟩
  case hijackSlave =>
    exact WrapperClass.unpacking_faithful hown (fun _ => rfl) (fun _ => rfl) fun _ => ⟨rfl,rfl⟩
  case manualTrigger =>
    exact WrapperClass.unpacking_faithful hown (fun _ => rfl) (fun _ => rfl) fun _ => ⟨rfl,rfl⟩
  case scanMode =>
    exact WrapperClass.unpacking_faithful hown (fun _ => rfl) (fun _ => rfl) fun _ => ⟨rfl,rfl⟩
  case desynchronized =>
    exact WrapperClass.unpacking_faithful hown (fun _ => rfl) (fun _ => rfl) fun _ => ⟨rfl,rfl⟩
  case injected =>
    exact WrapperClass.unpacking_faithful hown (fun _ => rfl) (fun _ => rfl) fun _ => ⟨rfl,rfl,rfl,rfl⟩
  case sniffAccessAddress =>
    refine WrapperClass.unpacking_faithful hown (fun _ => rfl) (fun _ => rfl) fun _ => ⟨?_,rfl⟩
    simp only [Kind.wire, BleKind.wire, SniffAccessAddressCmd.wire, copyOf_bufferOf]
  case sniffActiveConn =>
    refine WrapperClass.unpacking_faithful hown (fun _ => rfl) (fun _ => rfl) fun _ => ⟨?_,rfl,rfl,rfl,rfl,rfl,rfl⟩
    simp only [Kind.wire, BleKind.wire, SniffActiveConnCmd.wire, copyOf_bufferOf]
  case sniffConnReq =>
    refine WrapperClass.unpacking_faithful hown (fun _ => rfl) (fun _ => rfl) fun _ => ⟨?_,rfl,rfl,rfl,rfl⟩
    simp only [Kind.wire, BleKind.wire, SniffConnReqCmd.wire, copyOf_bufferOf]
  case synchronized =>
    refine WrapperClass.unpacking_faithful hown (fun _ => rfl) (fun _ => rfl) fun _ => ⟨?_,rfl,rfl,rfl,rfl,rfl⟩
    simp only [Kind.wire, BleKind.wire, Synchronized.wire, copyOf_bufferOf]
  case sniffAdv =>
    refine (WrapperClass.faithful_iff hown (fun _ => rfl) (fun _ => rfl)).mpr fun _ => ⟨?_,rfl,rfl,?_⟩
    · simp only [BleWrapper.wrapperClass, Wrapper.sniffAdv, Kind.wire, BleKind.wire, SniffAdvCmd.wire, copyOf_bufferOf]
    · exact copyOf_bufferOf _

end
end WhadLib.Ble
