import WhadLib.Ble.Sequence
import WhadLib.Builders.NoLeak

/-! What the BLE builders leave of the message they are given. -/
namespace WhadLib
open Library

/- A builder is compared with its member and its body, not with what setting both comes to. -/
attribute [local irreducible] FullMessage.build

namespace Ble
section
variable {direction : EnumField BleDirection} {advAddrType initAddrType addrType : EnumField BleAddrType}
  {advType : EnumField BleAdvType} {pPdu pAdvAddr pInitAddr pBdaddr pChannelmap pChannels : Option Buffer}
  {pAdvData pScanrspData pLlKey pLlIv pKey pRand pEdiv pPattern pMask : Option Buffer}
  {length advDataLength scanrspDataLength patternLength pktCount connHandle' : ℤ}
  {channel connHandle accessAddress crc crcInit hopInterval hopIncrement timestamp relativeTimestamp : UInt32}
  {position id connectionEvent : UInt32} {rssi : Int32}
  {crcValidity processed decrypted useTimestamp useExtAdv showEmptyPackets showAdv enabled encrypt : Bool}
  {incTs incRssi : Bool} {pPackets : Option (ℕ → PreparedPacket)}

theorem whadBleRawPdu_noLeak_iff :
    NoLeak (whadBleRawPdu · channel rssi connHandle accessAddress pPdu length crc crcValidity timestamp
      relativeTimestamp direction processed decrypted useTimestamp) ↔
      (pPdu.isSome → 0 ≤ length → length ≤ 255 → useTimestamp = true) := by
  cases pPdu with
  | none => exact iff_of_true (noLeak_of_refuse fun _ => rfl) nofun
  | some src =>
    rw [noLeak_fill_iff (fun _ => rfl)]
    constructor
    · intro hall _ hzero hle
      by_contra hts
      obtain rfl : useTimestamp = false := by simpa using hts
      let p (t : OptionalField UInt64) : RawPduReceived := { (default : RawPduReceived) with timestamp := t }
      obtain ⟨pdu,hpdu⟩ := (p default).pdu.exists_fill src hzero hle
      have hwire := hall (p ⟨false,0⟩) (p ⟨true,0⟩) pdu pdu hpdu hpdu
      simp [Kind.wire, BleKind.wire, RawPduReceived.wire, p] at hwire
    · intro hts p q x y hx hy
      obtain ⟨⟨hzero,hle⟩,-⟩ := memcpy_eq_some_iff.mp (BytesArray.fill_eq_some_iff.mp hx).1
      simp [Kind.wire, BleKind.wire, RawPduReceived.wire, value_fill hx, value_fill hy, hts rfl hzero hle]

theorem whadBlePdu_noLeak : NoLeak (whadBlePdu · pPdu length direction connHandle' processed decrypted) := by
  cases pPdu with
  | none => exact noLeak_of_refuse fun _ => rfl
  | some src =>
    refine noLeak_of_fill (by decide) (fun _ => rfl) fun p q x y hxy => ?_
    simp [Kind.wire, BleKind.wire, PduReceived.wire, hxy]

theorem whadBleNotifyConnected_noLeak :
    NoLeak (whadBleNotifyConnected · advAddrType pAdvAddr initAddrType pInitAddr connHandle) :=
  match pAdvAddr, pInitAddr with
  | some _, some _ => noLeak_of_assign (fun _ => rfl) (by exact fun _ _ => rfl)
  | none, _ => noLeak_of_refuse fun _ => rfl
  | some _, none => noLeak_of_refuse fun _ => rfl

theorem whadBleSetBdaddress_noLeak : NoLeak (whadBleSetBdaddress · addrType pBdaddr) :=
  match pBdaddr with
  | some _ => noLeak_of_assign (fun _ => rfl) (by exact fun _ _ => rfl)
  | none => noLeak_of_refuse fun _ => rfl

theorem whadBleSniffAdv_noLeak : NoLeak (whadBleSniffAdv · useExtAdv channel pBdaddr) :=
  match pBdaddr with
  | some _ => noLeak_of_assign (fun _ => rfl) (by exact fun _ _ => rfl)
  | none => noLeak_of_refuse fun _ => rfl

theorem whadBleSniffConnReq_noLeak : NoLeak (whadBleSniffConnReq · showEmptyPackets showAdv channel pBdaddr) :=
  match pBdaddr with
  | some _ => noLeak_of_assign (fun _ => rfl) (by exact fun _ _ => rfl)
  | none => noLeak_of_refuse fun _ => rfl

theorem whadBleSniffAccessAddress_noLeak : NoLeak (whadBleSniffAccessAddress · pChannelmap) :=
  match pChannelmap with
  | some _ => noLeak_of_assign (fun _ => rfl) (by exact fun _ _ => rfl)
  | none => noLeak_of_refuse fun _ => rfl

theorem whadBleSniffActiveConn_noLeak :
    NoLeak (whadBleSniffActiveConn · accessAddress crcInit hopInterval hopIncrement pChannelmap pChannels) :=
  match pChannelmap, pChannels with
  | some _, some _ => noLeak_of_assign (fun _ => rfl) (by exact fun _ _ => rfl)
  | none, _ => noLeak_of_refuse fun _ => rfl
  | some _, none => noLeak_of_refuse fun _ => rfl

theorem whadBleSynchronized_noLeak :
    NoLeak (whadBleSynchronized · accessAddress crcInit hopInterval hopIncrement pChannelmap) :=
  match pChannelmap with
  | some _ => noLeak_of_assign (fun _ => rfl) (by exact fun _ _ => rfl)
  | none => noLeak_of_refuse fun _ => rfl

theorem whadBleSetEncryption_noLeak :
    NoLeak (whadBleSetEncryption · connHandle enabled pLlKey pLlIv pKey pRand pEdiv) :=
  match pLlKey, pLlIv, pKey, pRand, pEdiv with
  | some _, some _, some _, some _, some _ => noLeak_of_assign (fun _ => rfl) (by exact fun _ _ => rfl)
  | none, _, _, _, _ => noLeak_of_refuse fun _ => rfl
  | some _, none, _, _, _ => noLeak_of_refuse fun _ => rfl
  | some _, some _, none, _, _ => noLeak_of_refuse fun _ => rfl
  | some _, some _, some _, none, _ => noLeak_of_refuse fun _ => rfl
  | some _, some _, some _, some _, none => noLeak_of_refuse fun _ => rfl

/-- Data that is given replaces what was there. -/
theorem value_storeAdvData {x x' y y' : BytesArray 31} {src : Buffer} {length : ℤ} (hlen : 0 < length)
    (h : storeAdvData x src length = some y) (h' : storeAdvData x' src length = some y') : value y = value y' := by
  rw [storeAdvData, if_pos hlen] at h h'
  rw [value_fill h (by decide), value_fill h' (by decide)]

theorem exists_storeAdvData (x : BytesArray 31) (src : Buffer) (length : ℤ) :
    ∃ y, storeAdvData x src length = some y := by
  unfold storeAdvData
  split
  · exact x.exists_fill src (by split <;> omega) (by split <;> omega)
  · exact ⟨x,rfl⟩

/-- Advertising data that is not given stays as it is. -/
theorem storeAdvMode_fresh_iff {adv scanrsp : Buffer} :
    (∀ p q p' q', storeAdvMode adv advDataLength scanrsp scanrspDataLength p = some (.success, p') →
      storeAdvMode adv advDataLength scanrsp scanrspDataLength q = some (.success, q') → p'.wire = q'.wire) ↔
      0 < advDataLength ∧ 0 < scanrspDataLength := by
  simp only [storeAdvMode, bind, done, Option.bind_eq_some_iff, Option.some.injEq, Prod.mk.injEq, true_and]
  constructor
  · intro hall
    let p (size : ℕ) : BytesArray 31 := ⟨size,default⟩
    have hne : value (p 0) ≠ value (p 1) := by decide
    obtain ⟨x,hx⟩ := exists_storeAdvData (p 0) adv advDataLength
    obtain ⟨x',hx'⟩ := exists_storeAdvData (p 1) adv advDataLength
    obtain ⟨y,hy⟩ := exists_storeAdvData (p 0) scanrsp scanrspDataLength
    obtain ⟨y',hy'⟩ := exists_storeAdvData (p 1) scanrsp scanrspDataLength
    have hwire := hall ⟨p 0,p 0⟩ ⟨p 1,p 1⟩ _ _ ⟨x,hx,y,hy,rfl⟩ ⟨x',hx',y',hy',rfl⟩
    simp only [AdvModeCmd.wire, Wire.field.injEq, and_true, true_and] at hwire
    constructor
    · by_contra hlen
      simp only [storeAdvData, if_neg hlen, Option.some.injEq] at hx hx'
      exact hne (by rw [hx, hx', hwire.1])
    · by_contra hlen
      simp only [storeAdvData, if_neg hlen, Option.some.injEq] at hy hy'
      exact hne (by rw [hy, hy', hwire.2])
  · rintro ⟨hadv,hscanrsp⟩ p q p' q' ⟨x,hx,y,hy,rfl⟩ ⟨x',hx',y',hy',rfl⟩
    simp [AdvModeCmd.wire, value_storeAdvData hadv hx hx', value_storeAdvData hscanrsp hy hy']

theorem whadBleAdvMode_noLeak_iff :
    NoLeak (whadBleAdvMode · pAdvData advDataLength pScanrspData scanrspDataLength) ↔
      (pAdvData.isSome → pScanrspData.isSome → 0 < advDataLength ∧ 0 < scanrspDataLength) :=
  match pAdvData, pScanrspData with
  | some _, some _ => by
    rw [noLeak_build_iff (fun _ => rfl)]
    exact storeAdvMode_fresh_iff.trans (by simp)
  | none, _ => iff_of_true (noLeak_of_refuse fun _ => rfl) nofun
  | some _, none => iff_of_true (noLeak_of_refuse fun _ => rfl) nofun

theorem whadBlePeripheralMode_noLeak_iff :
    NoLeak (whadBlePeripheralMode · pAdvData advDataLength pScanrspData scanrspDataLength) ↔
      (pAdvData.isSome → pScanrspData.isSome → 0 < advDataLength ∧ 0 < scanrspDataLength) :=
  match pAdvData, pScanrspData with
  | some _, some _ => by
    rw [noLeak_build_iff (fun _ => rfl)]
    exact storeAdvMode_fresh_iff.trans (by simp)
  | none, _ => iff_of_true (noLeak_of_refuse fun _ => rfl) nofun
  | some _, none => iff_of_true (noLeak_of_refuse fun _ => rfl) nofun

theorem whadBleSetAdvData_noLeak :
    NoLeak (whadBleSetAdvData · pAdvData advDataLength pScanrspData scanrspDataLength) :=
  match pAdvData, pScanrspData with
  | some _, some _ => by
    refine noLeak_of_never (fun _ => rfl) fun p p' => ?_
    simp [failed]
  | none, _ => noLeak_of_refuse fun _ => rfl
  | some _, none => noLeak_of_refuse fun _ => rfl

theorem whadBleConnectTo_noLeak_iff :
    NoLeak (whadBleConnectTo · pBdaddr addrType accessAddress pChannelmap hopInterval hopIncrement crcInit) ↔
      (pBdaddr.isSome → accessAddress ≠ 0 ∧ pChannelmap.isSome ∧ 0 < hopInterval ∧ 0 < hopIncrement ∧
        crcInit ≠ 0) := by
  cases pBdaddr with
  | none => exact iff_of_true (noLeak_of_refuse fun _ => rfl) nofun
  | some bdaddr =>
    rw [noLeak_assign_iff (fun _ => rfl)]
    constructor
    · intro hall _
      let p (has : Bool) : ConnectToCmd := { (default : ConnectToCmd) with
        accessAddress := ⟨has,0⟩, channelMap := ⟨has,default⟩, hopInterval := ⟨has,0⟩, hopIncrement := ⟨has,0⟩
        crcInit := ⟨has,0⟩ }
      have hwire := hall (p false) (p true)
      simp only [Kind.wire, BleKind.wire, ConnectToCmd.wire, p, Wire.field.injEq, true_and, and_true,
        value_kept_iff] at hwire
      obtain ⟨haa,hmap,hint,hinc,hcrc⟩ := hwire
      refine ⟨haa,?_,hint,hinc,hcrc⟩
      cases pChannelmap with
      | none => simp at hmap
      | some => rfl
    · intro hgiven p q
      obtain ⟨haa,hmap,hint,hinc,hcrc⟩ := hgiven rfl
      obtain ⟨map,rfl⟩ := Option.isSome_iff_exists.mp hmap
      simp [Kind.wire, BleKind.wire, ConnectToCmd.wire, haa, hint, hinc, hcrc]

theorem whadBleSendRawPdu_noLeak_iff :
    NoLeak (whadBleSendRawPdu · direction connHandle accessAddress pPdu length crc encrypt) ↔
      (pPdu.isSome → ¬(0 ≤ length ∧ length ≤ 300)) := by
  cases pPdu with
  | none => exact iff_of_true (noLeak_of_refuse fun _ => rfl) nofun
  | some src =>
    rw [noLeak_build_iff (fun _ => rfl)]
    simp only [bind, done, Option.bind_eq_some_iff, Option.some.injEq, Prod.mk.injEq, true_and]
    constructor
    · intro hall _ hlen
      let p (size : ℕ) : SendRawPDUCmd := { (default : SendRawPDUCmd) with pdu := ⟨size,default⟩ }
      have hcopy : memcpy (default : Vector UInt8 300) src length = some _ := memcpy_of_le hlen.1 hlen.2
      have hwire := hall (p 0) (p 1) _ _ ⟨_,hcopy,rfl⟩ ⟨_,hcopy,rfl⟩
      simp only [Kind.wire, BleKind.wire, SendRawPDUCmd.wire, p, Wire.field.injEq, true_and, and_true] at hwire
      exact value_size_ne (by decide) _ hwire
    · rintro hlen p q p' q' ⟨bytes,hcopy,-⟩
      exact absurd (memcpy_eq_some_iff.mp hcopy).1 (hlen rfl)

theorem whadBleSendPdu_noLeak_iff :
    NoLeak (whadBleSendPdu · direction connHandle pPdu length encrypt) ↔
      (pPdu.isSome → ¬(0 ≤ length ∧ length ≤ 300)) := by
  cases pPdu with
  | none => exact iff_of_true (noLeak_of_refuse fun _ => rfl) nofun
  | some src =>
    rw [noLeak_build_iff (fun _ => rfl)]
    simp only [bind, done, Option.bind_eq_some_iff, Option.some.injEq, Prod.mk.injEq, true_and,
      SendPDUCmd.copyToRaw]
    constructor
    · intro hall _ hlen
      let p (size : ℕ) : SendPDUCmd := { (default : SendPDUCmd) with pdu := ⟨size,default⟩ }
      have hwire := hall (p 0) (p 1) _ _ ⟨_,if_pos hlen,rfl⟩ ⟨_,if_pos hlen,rfl⟩
      simp only [Kind.wire, BleKind.wire, SendPDUCmd.wire, p, Wire.field.injEq, true_and, and_true] at hwire
      exact value_size_ne (by decide) _ hwire
    · rintro hlen p q p' q' ⟨a,ha,-⟩
      rw [if_neg (hlen rfl)] at ha
      exact nomatch ha

theorem whadBleReactiveJam_noLeak_iff :
    NoLeak (whadBleReactiveJam · channel pPattern patternLength position) ↔
      (patternLength < 0 → sizeOf16 patternLength = 0 ∨ 20 < sizeOf16 patternLength) := by
  rw [noLeak_build_iff (fun _ => rfl)]
  rcases lt_trichotomy patternLength 0 with hneg | rfl | hpos
  · simp only [show ¬0 < patternLength by omega, if_false, done, Option.some.injEq, Prod.mk.injEq, true_and, hneg,
      forall_const]
    rw [← value_sized_iff]
    constructor
    · intro hall b b'
      let p (bytes : Vector UInt8 20) : ReactiveJamCmd := { (default : ReactiveJamCmd) with pattern := ⟨0,bytes⟩ }
      have hwire := hall (p b) (p b') _ _ rfl rfl
      simpa only [Kind.wire, BleKind.wire, ReactiveJamCmd.wire, p, Wire.field.injEq, true_and, and_true] using hwire
    · rintro hall p q p' q' rfl rfl
      simp only [Kind.wire, BleKind.wire, ReactiveJamCmd.wire, hall p.pattern.bytes q.pattern.bytes]
  · refine iff_of_true ?_ (by simp)
    rintro p q p' q' hp hq
    simp only [lt_irrefl, if_false, done, Option.some.injEq, Prod.mk.injEq, true_and] at hp hq
    obtain rfl := hp
    obtain rfl := hq
    simp only [Kind.wire, BleKind.wire, ReactiveJamCmd.wire,
      value_sized_iff.mpr (.inl (show sizeOf16 0 = 0 from rfl)) p.pattern.bytes q.pattern.bytes]
  · refine iff_of_true ?_ (by omega)
    rintro p q p' q' hp hq
    by_cases hlen : 20 < patternLength
    · simp [hpos, hlen, failed] at hp
    · simp only [hpos, hlen, if_true, if_false, bind, done, Option.bind_eq_some_iff, Option.some.injEq,
        Prod.mk.injEq, true_and] at hp hq
      obtain ⟨src,rfl,bytes,hcopy,rfl⟩ := hp
      obtain ⟨_,hsrc,bytes',hcopy',rfl⟩ := hq
      obtain rfl := Option.some.inj hsrc
      simp only [Kind.wire, BleKind.wire, ReactiveJamCmd.wire, value_memcpy hcopy (by decide),
        value_memcpy hcopy' (by decide)]

/-- What the packets do not replace is assigned. -/
theorem noLeak_sequence_iff {run : Option FullMessage → Outcome} {packets : ℕ → PreparedPacket}
    {head : PrepareSequenceCmd → PrepareSequenceCmd}
    (h : ∀ m, run (some m) = m.build (.ble .prepare) fun p => whadBleSequenceCopyPackets (some packets) pktCount (head p))
    (hitems : ∀ p, (head p).sequence = p.sequence)
    (hhead : ∀ p q, (head p).trigger.has = true ∧ (head p).trigger.value.wire = (head q).trigger.value.wire ∧
      (head p).id = (head q).id ∧ (head p).direction = (head q).direction) :
    NoLeak run ↔ (pktCount < 0 → sizeOf16 pktCount = 0 ∨ 25 < sizeOf16 pktCount) := by
  rw [noLeak_build_iff h]
  have hwire (p q : PrepareSequenceCmd) (x y : RepeatedField PendingPacket 25) :
      ({ head p with sequence := x }).wire = ({ head q with sequence := y }).wire ↔
        Wire.repeated 4 x PendingPacket.wire .nil = Wire.repeated 4 y PendingPacket.wire .nil := by
    obtain ⟨hhas,htrigger,hid,hdirection⟩ := hhead p q
    simp [PrepareSequenceCmd.wire, Wire.optional, hhas, (hhead q p).1, htrigger, hid, hdirection]
  by_cases hpos : 0 < pktCount
  · refine iff_of_true ?_ (by omega)
    intro p q p' q' hp hq
    rw [whadBleSequenceCopyPackets_of_pos hpos, Option.map_eq_some_iff] at hp hq
    obtain ⟨⟨_,w⟩,hw,hp⟩ := hp
    obtain ⟨⟨_,w'⟩,hw',hq⟩ := hq
    simp only [Prod.mk.injEq] at hp hq
    obtain ⟨rfl,rfl⟩ := hp
    obtain ⟨rfl,rfl⟩ := hq
    obtain ⟨⟨hplace,-⟩,hget⟩ := copyPacketsFrom_success hw
    obtain ⟨-,hget'⟩ := copyPacketsFrom_success hw'
    have hcount : sizeOf16 pktCount = pktCount.toNat := sizeOf16_of_lt hpos.le (by omega)
    refine (hwire p q _ _).mpr (Wire.repeated_congr rfl fun i hi hlt => ?_)
    have hx := hget i hi
    have hy := hget' i hi
    rw [if_pos (by simp only at hlt; omega)] at hx hy
    simp only [PendingPacket.wire, value_fill hx (by decide), value_fill hy (by decide)]
  · simp only [whadBleSequenceCopyPackets_of_nonpos (not_lt.mp hpos), done, Option.some.injEq, Prod.mk.injEq, true_and]
    have hsized : (∀ v v' : Vector PendingPacket 25,
        Wire.repeated 4 ⟨sizeOf16 pktCount,v⟩ PendingPacket.wire .nil =
          Wire.repeated 4 ⟨sizeOf16 pktCount,v'⟩ PendingPacket.wire .nil) ↔
        sizeOf16 pktCount = 0 ∨ 25 < sizeOf16 pktCount :=
      Wire.repeated_counted_iff (a := ⟨⟨0,default⟩⟩) (b := ⟨⟨1,default⟩⟩) (by decide)
    constructor
    · intro hall _
      refine hsized.mp fun v v' => ?_
      let p (items : Vector PendingPacket 25) : PrepareSequenceCmd :=
        { (default : PrepareSequenceCmd) with sequence := ⟨0,items⟩ }
      have hrun := hall (p v) (p v') _ _ rfl rfl
      simpa only [Kind.wire, BleKind.wire, hitems, hwire] using hrun
    · rintro hcount p q p' q' rfl rfl
      refine (hwire p q _ _).mpr ?_
      rw [hitems, hitems]
      refine hsized.mpr ?_ _ _
      rcases lt_or_eq_of_le (not_lt.mp hpos) with hneg | rfl
      · exact hcount hneg
      · exact .inl rfl

theorem whadBlePrepareSequenceManual_noLeak_iff :
    NoLeak (whadBlePrepareSequenceManual · id direction pPackets pktCount) ↔
      (pPackets.isSome → pktCount < 0 → sizeOf16 pktCount = 0 ∨ 25 < sizeOf16 pktCount) := by
  cases pPackets with
  | none => exact iff_of_true (noLeak_of_refuse fun _ => rfl) nofun
  | some packets =>
    exact (noLeak_sequence_iff (fun _ => rfl) (by exact fun _ => rfl) (by exact fun _ _ => ⟨rfl,rfl,rfl,rfl⟩)).trans
      (by simp)

theorem whadBlePrepareSequenceConnEvt_noLeak_iff :
    NoLeak (whadBlePrepareSequenceConnEvt · connectionEvent id direction pPackets pktCount) ↔
      (pPackets.isSome → pktCount < 0 → sizeOf16 pktCount = 0 ∨ 25 < sizeOf16 pktCount) := by
  cases pPackets with
  | none => exact iff_of_true (noLeak_of_refuse fun _ => rfl) nofun
  | some packets =>
    exact (noLeak_sequence_iff (fun _ => rfl) (by exact fun _ => rfl) (by exact fun _ _ => ⟨rfl,rfl,rfl,rfl⟩)).trans
      (by simp)

/-- The offset of the trigger is never assigned. -/
theorem whadBlePrepareSequenceOnRecv_noLeak_iff (offset : ℤ) :
    NoLeak (whadBlePrepareSequenceOnRecv · pPattern pMask length offset id direction pPackets pktCount) ↔
      (pPattern.isSome → pMask.isSome → pPackets = none → 0 < length → length < 255 → 0 < pktCount) := by
  match pPattern, pMask, pPackets with
  | none, _, _ => exact iff_of_true (noLeak_of_refuse fun _ => rfl) nofun
  | some _, none, _ => exact iff_of_true (noLeak_of_refuse fun _ => rfl) nofun
  | some _, some _, some _ => exact iff_of_true (noLeak_of_refuse fun _ => rfl) nofun
  | some pattern, some mask, none =>
    rw [noLeak_build_iff (fun _ => rfl)]
    constructor
    · intro hall _ _ _ hzero hlt
      by_contra hpos
      let p (offset : UInt32) : PrepareSequenceCmd := { (default : PrepareSequenceCmd) with
        trigger := ⟨false,{ (default : Trigger) with reception := ⟨default,default,offset⟩ }⟩ }
      obtain ⟨x,hx⟩ := (default : BytesArray 255).exists_fill pattern hzero.le (by omega)
      obtain ⟨y,hy⟩ := (default : BytesArray 255).exists_fill mask hzero.le (by omega)
      have hrun := hall (p 0) (p 1) _ _
        (by simp only [p, blePrepseqTriggerMaxSize, hzero, hlt, and_self, if_true, hx, hy]
            exact whadBleSequenceCopyPackets_of_nonpos (not_lt.mp hpos))
        (by simp only [p, blePrepseqTriggerMaxSize, hzero, hlt, and_self, if_true, hx, hy]
            exact whadBleSequenceCopyPackets_of_nonpos (not_lt.mp hpos))
      simp [Kind.wire, BleKind.wire, PrepareSequenceCmd.wire, Wire.optional, Trigger.wire, Trigger.receptionTag,
        ReceptionTrigger.wire, value] at hrun
    · intro hfresh p q p' q' hp hq
      by_cases hlen : 0 < length ∧ length < blePrepseqTriggerMaxSize
      · have hpos := hfresh rfl rfl rfl hlen.1 hlen.2
        simp [hlen, whadBleSequenceCopyPackets, hpos] at hp
      · simp [hlen, failed] at hp

theorem whadBleAccessAddressDiscovered_noLeak_iff :
    NoLeak (whadBleAccessAddressDiscovered · accessAddress timestamp rssi incTs incRssi) ↔
      incTs = true ∧ incRssi = true := by
  rw [noLeak_assign_iff (fun _ => rfl)]
  constructor
  · intro hall
    let p (has : Bool) : AccessAddressDiscovered := ⟨0,⟨has,0⟩,⟨has,0⟩⟩
    have hwire := hall (p false) (p true)
    simp only [Kind.wire, BleKind.wire, AccessAddressDiscovered.wire, p, Wire.field.injEq, true_and, and_true,
      value_kept_iff] at hwire
    exact ⟨hwire.2,hwire.1⟩
  · rintro ⟨rfl,rfl⟩ p q
    rfl

theorem whadBleAdvPdu_noLeak_iff :
    NoLeak (whadBleAdvPdu · advType rssi pBdaddr addrType pAdvData advDataLength) ↔
      (pBdaddr.isSome → pAdvData.isSome → 0 < advDataLength ∧ advDataLength < 31) := by
  match pBdaddr, pAdvData with
  | none, _ => exact iff_of_true (noLeak_of_refuse fun _ => rfl) nofun
  | some _, none => exact iff_of_true (noLeak_of_refuse fun _ => rfl) nofun
  | some bdaddr, some data =>
    rw [noLeak_build_iff (fun _ => rfl)]
    by_cases hlen : 0 < advDataLength ∧ advDataLength < 31
    · refine iff_of_true (fun p q p' q' hp hq => ?_) fun _ _ => hlen
      simp only [hlen, and_self, if_true, bind, done, Option.bind_eq_some_iff, Option.some.injEq, Prod.mk.injEq,
        true_and] at hp hq
      obtain ⟨x,hx,rfl⟩ := hp
      obtain ⟨y,hy,rfl⟩ := hq
      simp only [Kind.wire, BleKind.wire, AdvPduReceived.wire, value_fill hx (by decide), value_fill hy (by decide)]
    · refine iff_of_false (fun hall => ?_) fun h => hlen (h rfl rfl)
      simp only [hlen, if_false, bind, done, Option.bind_some, Option.some.injEq, Prod.mk.injEq, true_and] at hall
      let p (size : ℕ) : AdvPduReceived := { (default : AdvPduReceived) with advData := ⟨size,default⟩ }
      have hwire := hall (p 0) (p 1) _ _ rfl rfl
      simp only [Kind.wire, BleKind.wire, AdvPduReceived.wire, p, Wire.field.injEq, true_and, and_true] at hwire
      exact value_size_ne (by decide) _ hwire

/-- The arguments leave nothing of the prior message visible. -/
def BleBuilder.Fresh : BleBuilder → Prop
  | .rawPdu _ _ _ _ pPdu length _ _ _ _ _ _ _ useTimestamp =>
    pPdu.isSome → 0 ≤ length → length ≤ 255 → useTimestamp = true
  | .advMode pAdvData advDataLength pScanrspData scanrspDataLength =>
    pAdvData.isSome → pScanrspData.isSome → 0 < advDataLength ∧ 0 < scanrspDataLength
  | .connectTo pBdaddr _ accessAddress pChannelmap hopInterval hopIncrement crcInit =>
    pBdaddr.isSome → accessAddress ≠ 0 ∧ pChannelmap.isSome ∧ 0 < hopInterval ∧ 0 < hopIncrement ∧ crcInit ≠ 0
  | .sendRawPdu _ _ _ pPdu length _ _ => pPdu.isSome → ¬(0 ≤ length ∧ length ≤ 300)
  | .sendPdu _ _ pPdu length _ => pPdu.isSome → ¬(0 ≤ length ∧ length ≤ 300)
  | .peripheralMode pAdvData advDataLength pScanrspData scanrspDataLength =>
    pAdvData.isSome → pScanrspData.isSome → 0 < advDataLength ∧ 0 < scanrspDataLength
  | .reactiveJam _ _ patternLength _ =>
    patternLength < 0 → sizeOf16 patternLength = 0 ∨ 20 < sizeOf16 patternLength
  | .prepareSequenceOnRecv pPattern pMask length _ _ _ pPackets pktCount =>
    pPattern.isSome → pMask.isSome → pPackets = none → 0 < length → length < 255 → 0 < pktCount
  | .prepareSequenceManual _ _ pPackets pktCount =>
    pPackets.isSome → pktCount < 0 → sizeOf16 pktCount = 0 ∨ 25 < sizeOf16 pktCount
  | .prepareSequenceConnEvt _ _ _ pPackets pktCount =>
    pPackets.isSome → pktCount < 0 → sizeOf16 pktCount = 0 ∨ 25 < sizeOf16 pktCount
  | .accessAddressDiscovered _ _ _ incTs incRssi => incTs = true ∧ incRssi = true
  | .advPdu _ _ pBdaddr _ pAdvData advDataLength =>
    pBdaddr.isSome → pAdvData.isSome → 0 < advDataLength ∧ advDataLength < 31
  | _ => True

theorem bleBuilder_noLeak_iff (b : BleBuilder) : NoLeak b.run ↔ b.Fresh := by
  cases b
  case rawPdu => exact whadBleRawPdu_noLeak_iff
  case pdu => exact iff_of_true whadBlePdu_noLeak trivial
  case notifyConnected => exact iff_of_true whadBleNotifyConnected_noLeak trivial
  case setBdaddress => exact iff_of_true whadBleSetBdaddress_noLeak trivial
  case sniffAdv => exact iff_of_true whadBleSniffAdv_noLeak trivial
  case sniffConnReq => exact iff_of_true whadBleSniffConnReq_noLeak trivial
  case sniffAccessAddress => exact iff_of_true whadBleSniffAccessAddress_noLeak trivial
  case sniffActiveConn => exact iff_of_true whadBleSniffActiveConn_noLeak trivial
  case synchronized => exact iff_of_true whadBleSynchronized_noLeak trivial
  case setEncryption => exact iff_of_true whadBleSetEncryption_noLeak trivial
  case advMode => exact whadBleAdvMode_noLeak_iff
  case peripheralMode => exact whadBlePeripheralMode_noLeak_iff
  case setAdvData => exact iff_of_true whadBleSetAdvData_noLeak trivial
  case connectTo => exact whadBleConnectTo_noLeak_iff
  case sendRawPdu => exact whadBleSendRawPdu_noLeak_iff
  case sendPdu => exact whadBleSendPdu_noLeak_iff
  case reactiveJam => exact whadBleReactiveJam_noLeak_iff
  case prepareSequenceOnRecv offset _ _ _ _ => exact whadBlePrepareSequenceOnRecv_noLeak_iff offset
  case prepareSequenceManual => exact whadBlePrepareSequenceManual_noLeak_iff
  case prepareSequenceConnEvt => exact whadBlePrepareSequenceConnEvt_noLeak_iff
  case accessAddressDiscovered => exact whadBleAccessAddressDiscovered_noLeak_iff
  case advPdu => exact whadBleAdvPdu_noLeak_iff
  case notifyDisconnected | jamAdv | jamAdvChannel | jamActiveConn | scanMode | centralMode | disconnect | start
    | stop | hijackMaster | hijackSlave | hijackBoth | prepareSequenceTrigger | prepareSequenceDelete
    | triggered | desynchronized | hijacked | injected =>
    exact iff_of_true (noLeak_of_assign (fun _ => rfl) (by exact fun _ _ => rfl)) trivial

/-- The fields of the optional arguments that are not given. -/
def BleBuilder.absent : BleBuilder → List ℕ
  | .rawPdu _ rssi _ _ _ _ _ _ _ _ _ _ _ useTimestamp =>
    missing (rssi ≠ bleRssiNone) 3 ++ missing useTimestamp 4 ++ missing useTimestamp 5
  | .advMode _ advDataLength _ scanrspDataLength =>
    missing (advDataLength ≠ 0) 1 ++ missing (scanrspDataLength ≠ 0) 2
  | .connectTo _ _ accessAddress pChannelmap hopInterval hopIncrement crcInit =>
    missing (accessAddress ≠ 0) 3 ++ missing pChannelmap.isSome 4 ++ missing (0 < hopInterval) 5 ++
      missing (0 < hopIncrement) 6 ++ missing (crcInit ≠ 0) 7
  | .peripheralMode _ advDataLength _ scanrspDataLength =>
    missing (advDataLength ≠ 0) 1 ++ missing (scanrspDataLength ≠ 0) 2
  | .accessAddressDiscovered _ _ _ incTs incRssi => missing incRssi 2 ++ missing incTs 3
  | .advPdu _ _ _ _ _ advDataLength => missing (advDataLength ≠ 0) 4
  | _ => []

theorem bleBuilder_clean_iff (b : BleBuilder) : Clean b.run b.absent ↔ b.Fresh := by
  refine ⟨fun h => (bleBuilder_noLeak_iff b).mp h.noLeak,fun hfresh => ?_⟩
  have hno := (bleBuilder_noLeak_iff b).mpr hfresh
  cases b
  case rawPdu rssi _ _ pPdu length _ _ _ _ _ _ _ useTimestamp =>
    cases pPdu with
    | none => exact clean_of_refuse fun _ => rfl
    | some src =>
      refine hno.clean_build (fun _ => rfl) fun p p' hp tag htag => ?_
      simp only [bind, done, Option.bind_eq_some_iff, Option.some.injEq, Prod.mk.injEq, true_and] at hp
      obtain ⟨x,hx,rfl⟩ := hp
      obtain ⟨⟨hzero,hle⟩,-⟩ := memcpy_eq_some_iff.mp (BytesArray.fill_eq_some_iff.mp hx).1
      obtain rfl := hfresh rfl hzero hle
      simp only [BleBuilder.absent, List.mem_append, mem_missing, decide_eq_false_iff_not, not_not,
        Bool.true_eq_false, false_and, or_false] at htag
      obtain ⟨rfl,rfl⟩ := htag
      simp [Kind.wire, BleKind.wire, RawPduReceived.wire, Wire.Hides]
  case advMode pAdvData advDataLength pScanrspData scanrspDataLength =>
    cases pAdvData with
    | none => exact clean_of_refuse fun _ => rfl
    | some =>
      cases pScanrspData with
      | none => exact clean_of_refuse fun _ => rfl
      | some =>
        obtain ⟨hadv,hscanrsp⟩ := hfresh rfl rfl
        simpa [BleBuilder.absent, missing, hadv.ne', hscanrsp.ne'] using hno.clean
  case peripheralMode pAdvData advDataLength pScanrspData scanrspDataLength =>
    cases pAdvData with
    | none => exact clean_of_refuse fun _ => rfl
    | some =>
      cases pScanrspData with
      | none => exact clean_of_refuse fun _ => rfl
      | some =>
        obtain ⟨hadv,hscanrsp⟩ := hfresh rfl rfl
        simpa [BleBuilder.absent, missing, hadv.ne', hscanrsp.ne'] using hno.clean
  case connectTo pBdaddr addrType accessAddress pChannelmap hopInterval hopIncrement crcInit =>
    cases pBdaddr with
    | none => exact clean_of_refuse fun _ => rfl
    | some _ =>
      obtain ⟨haa,hmap,hint,hinc,hcrc⟩ := hfresh rfl
      simpa [BleBuilder.absent, missing, haa, hmap, hint, hinc, hcrc] using hno.clean
  case accessAddressDiscovered accessAddress timestamp rssi incTs incRssi =>
    obtain ⟨rfl,rfl⟩ := hfresh
    exact hno.clean
  case advPdu pBdaddr addrType pAdvData advDataLength =>
    cases pBdaddr with
    | none => exact clean_of_refuse fun _ => rfl
    | some =>
      cases pAdvData with
      | none => exact clean_of_refuse fun _ => rfl
      | some =>
        have hlen := hfresh rfl rfl
        simpa [BleBuilder.absent, missing, hlen.1.ne'] using hno.clean
  all_goals exact hno.clean

end
end Ble
end WhadLib
