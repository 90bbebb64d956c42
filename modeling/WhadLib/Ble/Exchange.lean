import WhadLib.Ble.Faithful
import WhadLib.Exchange

/-! The commands and notifications of the BLE domain that have a parser of their own: the other side reads the
arguments of the builder. Where a builder leaves what it was not given, that holds of a clean message. -/
namespace WhadLib.Ble
open Library

/-- The calls of the builders, with pointers that are not `NULL`, but for the channel map of a connection. -/
inductive BleCommand
  | notifyDisconnected (connHandle reason : UInt32)
  | setBdaddress (addrType : EnumField BleAddrType) (pBdaddr : Buffer)
  | sniffAdv (useExtAdv : Bool) (channel : UInt32) (pBdaddr : Buffer)
  | jamAdvChannel (channel : UInt32)
  | sniffConnReq (showEmptyPackets showAdv : Bool) (channel : UInt32) (pBdaddr : Buffer)
  | sniffAccessAddress (pChannelmap : Buffer)
  | sniffActiveConn (accessAddress crcInit hopInterval hopIncrement : UInt32) (pChannelmap pChannels : Buffer)
  | jamActiveConn (accessAddress : UInt32)
  | scanMode (activeScan : Bool)
  | connectTo (pBdaddr : Buffer) (addrType : EnumField BleAddrType) (accessAddress : UInt32)
      (pChannelmap : Option Buffer) (hopInterval hopIncrement crcInit : UInt32)
  | disconnect (connHandle : UInt32)
  | hijackMaster (accessAddress : UInt32)
  | hijackSlave (accessAddress : UInt32)
  | hijackBoth (accessAddress : UInt32)
  | setEncryption (connHandle : UInt32) (enabled : Bool) (pLlKey pLlIv pKey pRand pEdiv : Buffer)
  | reactiveJam (channel : UInt32) (pPattern : Buffer) (patternLength : ℤ) (position : UInt32)
  | prepareSequenceTrigger (id : UInt32)
  | triggered (id : UInt32)
  | accessAddressDiscovered (accessAddress timestamp : UInt32) (rssi : Int32) (incTs incRssi : Bool)
  | synchronized (accessAddress crcInit hopInterval hopIncrement : UInt32) (pChannelmap : Buffer)
  | desynchronized (accessAddress : UInt32)
  | hijacked (accessAddress : UInt32) (success : Bool)
  | injected (accessAddress attempts : UInt32) (success : Bool)

namespace BleCommand

def builder : BleCommand → BleBuilder
  | notifyDisconnected connHandle reason => .notifyDisconnected connHandle reason
  | setBdaddress addrType pBdaddr => .setBdaddress addrType (some pBdaddr)
  | sniffAdv useExtAdv channel pBdaddr => .sniffAdv useExtAdv channel (some pBdaddr)
  | jamAdvChannel channel => .jamAdvChannel channel
  | sniffConnReq showEmptyPackets showAdv channel pBdaddr =>
    .sniffConnReq showEmptyPackets showAdv channel (some pBdaddr)
  | sniffAccessAddress pChannelmap => .sniffAccessAddress (some pChannelmap)
  | sniffActiveConn accessAddress crcInit hopInterval hopIncrement pChannelmap pChannels =>
    .sniffActiveConn accessAddress crcInit hopInterval hopIncrement (some pChannelmap) (some pChannels)
  | jamActiveConn accessAddress => .jamActiveConn accessAddress
  | scanMode activeScan => .scanMode activeScan
  | connectTo pBdaddr addrType accessAddress pChannelmap hopInterval hopIncrement crcInit =>
    .connectTo (some pBdaddr) addrType accessAddress pChannelmap hopInterval hopIncrement crcInit
  | disconnect connHandle => .disconnect connHandle
  | hijackMaster accessAddress => .hijackMaster accessAddress
  | hijackSlave accessAddress => .hijackSlave accessAddress
  | hijackBoth accessAddress => .hijackBoth accessAddress
  | setEncryption connHandle enabled pLlKey pLlIv pKey pRand pEdiv =>
    .setEncryption connHandle enabled (some pLlKey) (some pLlIv) (some pKey) (some pRand) (some pEdiv)
  | reactiveJam channel pPattern patternLength position => .reactiveJam channel (some pPattern) patternLength position
  | prepareSequenceTrigger id => .prepareSequenceTrigger id
  | triggered id => .triggered id
  | accessAddressDiscovered accessAddress timestamp rssi incTs incRssi =>
    .accessAddressDiscovered accessAddress timestamp rssi incTs incRssi
  | synchronized accessAddress crcInit hopInterval hopIncrement pChannelmap =>
    .synchronized accessAddress crcInit hopInterval hopIncrement (some pChannelmap)
  | desynchronized accessAddress => .desynchronized accessAddress
  | hijacked accessAddress success => .hijacked accessAddress success
  | injected accessAddress attempts success => .injected accessAddress attempts success

/-- The parser of the command returns its arguments. A missing parameter is zero, and the monitored channels of a
synchronization are not returned. -/
def Returned : BleCommand → FullMessage → Prop
  | notifyDisconnected connHandle reason => Returns whadBleNotifyDisconnectedParse (· = ⟨connHandle,reason⟩)
  | setBdaddress addrType pBdaddr =>
    Returns (fun m out => whadBleSetBdaddressParse m (out.map Prod.fst) (out.map Prod.snd)) (· = (addrType,copyOf pBdaddr))
  | sniffAdv useExtAdv channel pBdaddr =>
    Returns whadBleSniffAdvParse (· = ⟨useExtAdv,channel,bufferOf (copyOf pBdaddr : Vector UInt8 6)⟩)
  | jamAdvChannel channel => Returns whadBleJamAdvChannelParse (· = channel)
  | sniffConnReq showEmptyPackets showAdv channel pBdaddr =>
    Returns whadBleSniffConnReqParse (· = ⟨showEmptyPackets,showAdv,channel,copyOf pBdaddr⟩)
  | sniffAccessAddress pChannelmap => Returns whadBleSniffAccessAddressParse (· = copyOf pChannelmap)
  | sniffActiveConn accessAddress crcInit hopInterval hopIncrement pChannelmap pChannels =>
    Returns whadBleSniffActiveConnParse
      (· = ⟨accessAddress,crcInit,hopInterval,hopIncrement,copyOf pChannelmap,copyOf pChannels⟩)
  | jamActiveConn accessAddress => Returns whadBleJamActiveConnParse (· = accessAddress)
  | scanMode activeScan => Returns whadBleScanModeParse (· = activeScan)
  | connectTo pBdaddr addrType accessAddress pChannelmap hopInterval hopIncrement crcInit =>
    Returns whadBleConnectToParse (· = ⟨copyOf pBdaddr,addrType,accessAddress,pChannelmap.elim (memset 0) copyOf,
      hopInterval,hopIncrement,crcInit⟩)
  | disconnect connHandle => Returns whadBleDisconnectParse (· = connHandle)
  | hijackMaster accessAddress => Returns whadBleHijackMasterParse (· = accessAddress)
  | hijackSlave accessAddress => Returns whadBleHijackSlaveParse (· = accessAddress)
  | hijackBoth accessAddress => Returns whadBleHijackBothParse (· = accessAddress)
  | setEncryption connHandle enabled pLlKey pLlIv pKey pRand pEdiv =>
    Returns whadBleSetEncryptionParse (· = ⟨connHandle,enabled,bufferOf (copyOf pLlKey : Vector UInt8 16),
      bufferOf (copyOf pLlIv : Vector UInt8 8),bufferOf (copyOf pKey : Vector UInt8 16),
      bufferOf (copyOf pRand : Vector UInt8 8),bufferOf (copyOf pEdiv : Vector UInt8 2)⟩)
  | reactiveJam channel pPattern patternLength position =>
    Returns whadBleReactiveJamParse fun r => r.channel = channel ∧ r.position = position ∧
      r.patternLength = patternLength ∧ SameBytes pPattern patternLength.toNat (bufferOf r.pattern) r.patternLength
  | prepareSequenceTrigger id => Returns whadBlePrepareSequenceTriggerParse (· = id)
  | triggered id => Returns whadBleTriggeredParse (· = id)
  | accessAddressDiscovered accessAddress timestamp rssi incTs incRssi =>
    Returns whadBleAccessAddressDiscoveredParse (· = ⟨accessAddress,if incTs then timestamp else 0,incTs,
      if incRssi then rssi else 0,incRssi⟩)
  | synchronized accessAddress crcInit hopInterval hopIncrement pChannelmap =>
    Returns whadBleSynchronizedParse fun r => (r.accessAddress,r.crcInit,r.hopInterval,r.hopIncrement,r.channelmap) =
      (accessAddress,crcInit,hopInterval,hopIncrement,copyOf pChannelmap)
  | desynchronized accessAddress => Returns whadBleDesynchronizedParse (· = accessAddress)
  | hijacked accessAddress success => Returns whadBleHijackedParse (· = ⟨accessAddress,success⟩)
  | injected accessAddress attempts success => Returns whadBleInjectedParse (· = ⟨accessAddress,attempts,success⟩)

/-- The numbers of the enumerations among the arguments have their 32 bits. -/
def Narrow : BleCommand → Prop
  | setBdaddress addrType _ => addrType.Narrow
  | connectTo _ addrType .. => addrType.Narrow
  | _ => True

/-- The pattern fits its field, and nothing that the message held before stands in for what is missing. -/
def Clean : BleCommand → FullMessage → Prop
  | connectTo _ _ accessAddress pChannelmap hopInterval hopIncrement crcInit, m =>
    let old : ConnectToCmd := m.msg (.ble .connect)
    (accessAddress = 0 → orZero old.accessAddress = 0) ∧
      (pChannelmap = none → old.channelMap.has = true → old.channelMap.value = memset 0) ∧
      (hopInterval = 0 → orZero old.hopInterval = 0) ∧ (hopIncrement = 0 → orZero old.hopIncrement = 0) ∧
      (crcInit = 0 → orZero old.crcInit = 0)
  | reactiveJam _ _ patternLength _, _ => 0 ≤ patternLength ∧ patternLength ≤ 20
  | accessAddressDiscovered _ _ _ incTs incRssi, m =>
    let old : AccessAddressDiscovered := m.msg (.ble .aaDisc)
    (incTs = false → old.timestamp.has = false) ∧ (incRssi = false → old.rssi.has = false)
  | _, _ => True

end BleCommand

/-- A parameter that is not given is read as zero where none was left. -/
theorem orZero_given (x : UInt32) (old : OptionalField UInt32) :
    orZero (if x ≠ 0 then ⟨true,x⟩ else old) = x ↔ (x = 0 → orZero old = 0) := by
  by_cases hx : x = 0
  · simp [hx]
  · simp [hx, orZero]

theorem exists_reactiveJam (m : FullMessage) (channel : UInt32) (pPattern : Buffer) {length : ℕ} (position : UInt32)
    (h : length ≤ 20) : ∃ pattern : BytesArray 20,
    whadBleReactiveJam (some m) channel (some pPattern) length position =
      some (.success, some (m.put (.ble .reactiveJam) ⟨channel,pattern,position⟩)) ∧
      SameBytes pPattern length (bufferOf pattern.bytes) pattern.size ∧ pattern.size ≤ 20 := by
  rcases Nat.eq_zero_or_pos length with rfl | hpos
  · exact ⟨⟨0,(ReactiveJamCmd.pattern (m.msg (.ble .reactiveJam))).bytes⟩,rfl,⟨rfl,rfl⟩,Nat.zero_le _⟩
  · obtain ⟨pattern,hfill,hsame,hsize⟩ := exists_fill_sameBytes
      (ReactiveJamCmd.pattern (m.msg (.ble .reactiveJam))) pPattern h (by decide)
    obtain ⟨hcopy,hcount⟩ := BytesArray.fill_eq_some_iff.mp hfill
    refine ⟨pattern,?_,hsame,hsize⟩
    unfold whadBleReactiveJam checked
    apply build_success
    have hpos' : 0 < (length : ℤ) := by omega
    have hmax : ¬20 < (length : ℤ) := by omega
    simp only [hpos', hmax, if_true, if_false, bind, Option.bind_some, hcopy, done, ← hcount]

/-- The pattern length that the parser returns is the size of an array. -/
theorem loadReactiveJam_patternLength {p : ReactiveJamCmd} {s : BleReactiveJamParams} {w : WhadResult × BleReactiveJamParams}
    (h : loadReactiveJam p s = some w) : w.2.patternLength = p.pattern.size := by
  simp only [loadReactiveJam] at h
  split_ifs at h
  · obtain ⟨pattern,-,hdone⟩ := Option.bind_eq_some_iff.mp h
    obtain rfl := Option.some.inj hdone
    rfl
  · obtain rfl := Option.some.inj h
    rfl
  · obtain rfl := Option.some.inj h
    rfl

theorem bleCommand_exchanged_iff (c : BleCommand) (h : c.Narrow) (m : FullMessage) :
    Exchanged (.domain (.ble c.builder)) c.Returned m ↔ c.Clean m := by
  cases c
  case connectTo pBdaddr addrType accessAddress pChannelmap hopInterval hopIncrement crcInit =>
    have hnarrow : addrType.Narrow := h
    refine (exchanged_iff whadBleConnectToParse (fun s => .ble (.connectTo (some s))) (fun _ _ => ⟨rfl,trivial,id⟩) rfl
      ?_ fun _ => rfl).trans ?_
    · cases pChannelmap <;> simp [Kind.wire, BleKind.wire, ConnectToCmd.wire, hnarrow]
    · simp only [Output.seen, id_eq, BleConnectParams.mk.injEq, UInt32.pos_iff_ne_zero, FullMessage.put_msg_self, orZero_given]
      have hparams : Nonempty BleConnectParams := ⟨⟨memset 0,⟨0⟩,0,memset 0,0,0,0⟩⟩
      rw [forall_const]
      cases pChannelmap <;> simp [BleCommand.Clean]
  case reactiveJam channel pPattern patternLength position =>
    constructor
    · rintro ⟨built,hbuilt,hreturned,-⟩
      constructor
      · obtain ⟨r,hr,-,-,hlength,-⟩ := hreturned ⟨0,memset 0,0,0⟩
        obtain ⟨written,hwritten,hseen⟩ := Option.map_eq_some_iff.mp hr
        obtain ⟨w,hload,rfl⟩ := Option.map_eq_some_iff.mp hwritten
        obtain rfl : w.2 = r := Option.some.inj (congrArg Prod.snd hseen)
        rw [← hlength, loadReactiveJam_patternLength hload]
        exact Int.natCast_nonneg _
      · by_contra hlt
        have hmax : 20 < patternLength := not_le.mp hlt
        have hfailed : whadBleReactiveJam (some m) channel (some pPattern) patternLength position ≠
            some (.success, some built) := by
          simp [whadBleReactiveJam, FullMessage.build, hmax, show 0 < patternLength by omega, failed]
        exact hfailed hbuilt
    · rintro ⟨hzero,hle⟩
      lift patternLength to ℕ using hzero
      obtain ⟨pattern,hrun,hsame,hsize⟩ := exists_reactiveJam m channel pPattern position (Int.ofNat_le.mp hle)
      choose read hload htake using fun s => Wrapper.loadReactiveJam_spec s (p := ⟨channel,pattern,position⟩) hsize
      refine (exchanged_iff (b := .domain (.ble (.reactiveJam channel (some pPattern) patternLength position))) whadBleReactiveJamParse
        (fun s => .ble (.reactiveJam (some s))) (fun _ _ => ⟨rfl,trivial,id⟩) hrun ?_ fun s => parse_success (hload s)).mpr
        fun s => ⟨rfl,rfl,hsame.count,hsame.count,?_⟩
      · simpa [Kind.wire, BleKind.wire, ReactiveJamCmd.wire] using hsize
      · have hread := htake s
        rw [hsame.size] at hread
        exact hread.trans hsame.bytes
  case accessAddressDiscovered accessAddress timestamp rssi incTs incRssi =>
    refine (exchanged_iff whadBleAccessAddressDiscoveredParse (fun s => .ble (.accessAddressDiscovered (some s)))
      (fun _ _ => ⟨rfl,trivial,id⟩) rfl ?_ fun _ => rfl).trans ?_
    · cases incTs <;> cases incRssi <;> simp [Kind.wire, BleKind.wire, AccessAddressDiscovered.wire]
    · refine (forall_const _).trans ?_
      cases incTs <;> cases incRssi <;> simp [Output.seen, BleCommand.Clean] <;> grind
  all_goals refine iff_of_true ?_ trivial
  case setBdaddress addrType pBdaddr =>
    unfold BleCommand.Returned
    refine (exchanged_iff (fun m out => whadBleSetBdaddressParse m (out.map Prod.fst) (out.map Prod.snd))
      (fun s => .ble (.setBdaddress (some s.1) (some s.2))) (fun _ _ => ⟨rfl,trivial,id⟩) rfl ?_ fun _ => rfl).mpr fun _ => rfl
    have hnarrow : addrType.Narrow := h
    simpa [Kind.wire, BleKind.wire, SetBdAddressCmd.wire] using hnarrow
  case notifyDisconnected =>
    exact (exchanged_iff whadBleNotifyDisconnectedParse (fun s => .ble (.notifyDisconnected (some s))) (fun _ _ => ⟨rfl,trivial,id⟩) rfl
      (by simp [Kind.wire, BleKind.wire, Disconnected.wire]) fun _ => rfl).mpr fun _ => rfl
  case jamAdvChannel =>
    exact (exchanged_iff whadBleJamAdvChannelParse (fun s => .ble (.jamAdvChannel (some s))) (fun _ _ => ⟨rfl,trivial,id⟩) rfl
      (by simp [Kind.wire, BleKind.wire, ChannelCmd.wire]) fun _ => rfl).mpr fun _ => rfl
  case sniffAdv =>
    exact (exchanged_iff whadBleSniffAdvParse (fun s => .ble (.sniffAdv (some s))) (fun _ _ => ⟨rfl,trivial,id⟩) rfl
      (by simp [Kind.wire, BleKind.wire, SniffAdvCmd.wire]) fun _ => rfl).mpr fun _ => rfl
  case sniffConnReq =>
    exact (exchanged_iff whadBleSniffConnReqParse (fun s => .ble (.sniffConnReq (some s))) (fun _ _ => ⟨rfl,trivial,id⟩) rfl
      (by simp [Kind.wire, BleKind.wire, SniffConnReqCmd.wire]) fun _ => rfl).mpr fun _ => rfl
  case sniffAccessAddress =>
    exact (exchanged_iff whadBleSniffAccessAddressParse (fun s => .ble (.sniffAccessAddress (some s))) (fun _ _ => ⟨rfl,trivial,id⟩) rfl
      (by simp [Kind.wire, BleKind.wire, SniffAccessAddressCmd.wire]) fun _ => rfl).mpr fun _ => rfl
  case sniffActiveConn =>
    exact (exchanged_iff whadBleSniffActiveConnParse (fun s => .ble (.sniffActiveConn (some s))) (fun _ _ => ⟨rfl,trivial,id⟩) rfl
      (by simp [Kind.wire, BleKind.wire, SniffActiveConnCmd.wire]) fun _ => rfl).mpr fun _ => rfl
  case jamActiveConn =>
    exact (exchanged_iff whadBleJamActiveConnParse (fun s => .ble (.jamActiveConn (some s))) (fun _ _ => ⟨rfl,trivial,id⟩) rfl
      (by simp [Kind.wire, BleKind.wire, AccessAddressMsg.wire]) fun _ => rfl).mpr fun _ => rfl
  case scanMode =>
    exact (exchanged_iff whadBleScanModeParse (fun s => .ble (.scanMode (some s))) (fun _ _ => ⟨rfl,trivial,id⟩) rfl
      (by simp [Kind.wire, BleKind.wire, ScanModeCmd.wire]) fun _ => rfl).mpr fun _ => rfl
  case disconnect =>
    exact (exchanged_iff whadBleDisconnectParse (fun s => .ble (.disconnect (some s))) (fun _ _ => ⟨rfl,trivial,id⟩) rfl
      (by simp [Kind.wire, BleKind.wire, DisconnectCmd.wire]) fun _ => rfl).mpr fun _ => rfl
  case hijackMaster =>
    exact (exchanged_iff whadBleHijackMasterParse (fun s => .ble (.hijackMaster (some s))) (fun _ _ => ⟨rfl,trivial,id⟩) rfl
      (by simp [Kind.wire, BleKind.wire, AccessAddressMsg.wire]) fun _ => rfl).mpr fun _ => rfl
  case hijackSlave =>
    exact (exchanged_iff whadBleHijackSlaveParse (fun s => .ble (.hijackSlave (some s))) (fun _ _ => ⟨rfl,trivial,id⟩) rfl
      (by simp [Kind.wire, BleKind.wire, AccessAddressMsg.wire]) fun _ => rfl).mpr fun _ => rfl
  case hijackBoth =>
    exact (exchanged_iff whadBleHijackBothParse (fun s => .ble (.hijackBoth (some s))) (fun _ _ => ⟨rfl,trivial,id⟩) rfl
      (by simp [Kind.wire, BleKind.wire, AccessAddressMsg.wire]) fun _ => rfl).mpr fun _ => rfl
  case setEncryption =>
    exact (exchanged_iff whadBleSetEncryptionParse (fun s => .ble (.setEncryption (some s))) (fun _ _ => ⟨rfl,trivial,id⟩) rfl
      (by simp [Kind.wire, BleKind.wire, SetEncryptionCmd.wire]) fun _ => rfl).mpr fun _ => rfl
  case prepareSequenceTrigger =>
    exact (exchanged_iff whadBlePrepareSequenceTriggerParse (fun s => .ble (.prepareSequenceTrigger (some s))) (fun _ _ => ⟨rfl,trivial,id⟩) rfl
      (by simp [Kind.wire, BleKind.wire, SequenceMsg.wire]) fun _ => rfl).mpr fun _ => rfl
  case triggered =>
    exact (exchanged_iff whadBleTriggeredParse (fun s => .ble (.triggered (some s))) (fun _ _ => ⟨rfl,trivial,id⟩) rfl
      (by simp [Kind.wire, BleKind.wire, SequenceMsg.wire]) fun _ => rfl).mpr fun _ => rfl
  case synchronized =>
    exact (exchanged_iff whadBleSynchronizedParse (fun s => .ble (.synchronized (some s))) (fun _ _ => ⟨rfl,trivial,id⟩) rfl
      (by simp [Kind.wire, BleKind.wire, Synchronized.wire]) fun _ => rfl).mpr fun _ => rfl
  case desynchronized =>
    exact (exchanged_iff whadBleDesynchronizedParse (fun s => .ble (.desynchronized (some s))) (fun _ _ => ⟨rfl,trivial,id⟩) rfl
      (by simp [Kind.wire, BleKind.wire, AccessAddressMsg.wire]) fun _ => rfl).mpr fun _ => rfl
  case hijacked =>
    exact (exchanged_iff whadBleHijackedParse (fun s => .ble (.hijacked (some s))) (fun _ _ => ⟨rfl,trivial,id⟩) rfl
      (by simp [Kind.wire, BleKind.wire, Hijacked.wire]) fun _ => rfl).mpr fun _ => rfl
  case injected =>
    exact (exchanged_iff whadBleInjectedParse (fun s => .ble (.injected (some s))) (fun _ _ => ⟨rfl,trivial,id⟩) rfl
      (by simp [Kind.wire, BleKind.wire, Injected.wire]) fun _ => rfl).mpr fun _ => rfl

end WhadLib.Ble
