import WhadLib.Ble.Sequence
import WhadLib.Builders.Safe

/-! How far the BLE builders read and write. -/
namespace WhadLib
open Library

/- A builder is compared with its member and its body, not with what setting both comes to. -/
attribute [local irreducible] FullMessage.build At

namespace Ble
section
variable {pktCount : ℤ} {packets : ℕ → PreparedPacket} {run : Option FullMessage → Outcome}

/-- A counted array of packets after a copy. -/
structure PacketsCopied (x y : RepeatedField PendingPacket 25) (packets : Option (ℕ → PreparedPacket))
    (pktCount : ℤ) : Prop where
  bounds : 0 ≤ pktCount ∧ pktCount ≤ 25
  count : (y.count : ℤ) = pktCount
  items : ∀ i : Fin 25, if (i : ℤ) < pktCount
    then ∃ all, packets = some all ∧
      Copied x.items[i].packet y.items[i].packet (some (all i).pBytes) (all i).length
    else y.items[i] = x.items[i]

/-- What a call must store when it succeeds; advertising data is cut to 31 bytes. -/
def BleBuilder.Stored : BleBuilder → FullMessage → FullMessage → Prop
  | .rawPdu _ _ _ _ pPdu length _ _ _ _ _ _ _ _ =>
    At (.ble .rawPdu) fun (p q : RawPduReceived) => Copied p.pdu q.pdu pPdu length
  | .pdu pPdu length _ _ _ _ => At (.ble .pdu) fun (p q : PduReceived) => Copied p.pdu q.pdu pPdu length
  | .advMode pAdvData advDataLength pScanrspData scanrspDataLength =>
    At (.ble .advMode) fun (p q : AdvModeCmd) => Copied p.scanData q.scanData pAdvData (min advDataLength 31) ∧
      Copied p.scanrspData q.scanrspData pScanrspData (min scanrspDataLength 31)
  | .sendRawPdu _ _ _ pPdu length _ _ =>
    At (.ble .sendRawPdu) fun (p q : SendRawPDUCmd) => Copied p.pdu q.pdu pPdu length
  | .sendPdu _ _ pPdu length _ => At (.ble .sendPdu) fun (p q : SendPDUCmd) => Copied p.pdu q.pdu pPdu length
  | .peripheralMode pAdvData advDataLength pScanrspData scanrspDataLength =>
    At (.ble .periphMode) fun (p q : AdvModeCmd) => Copied p.scanData q.scanData pAdvData (min advDataLength 31) ∧
      Copied p.scanrspData q.scanrspData pScanrspData (min scanrspDataLength 31)
  | .reactiveJam _ pPattern patternLength _ =>
    At (.ble .reactiveJam) fun (p q : ReactiveJamCmd) => Copied p.pattern q.pattern pPattern patternLength
  | .prepareSequenceOnRecv pPattern pMask length _ _ _ pPackets pktCount =>
    At (.ble .prepare) fun (p q : PrepareSequenceCmd) =>
      Copied p.trigger.value.reception.pattern q.trigger.value.reception.pattern pPattern length ∧
      Copied p.trigger.value.reception.mask q.trigger.value.reception.mask pMask length ∧
      PacketsCopied p.sequence q.sequence pPackets pktCount
  | .prepareSequenceManual _ _ pPackets pktCount =>
    At (.ble .prepare) fun (p q : PrepareSequenceCmd) => PacketsCopied p.sequence q.sequence pPackets pktCount
  | .prepareSequenceConnEvt _ _ _ pPackets pktCount =>
    At (.ble .prepare) fun (p q : PrepareSequenceCmd) => PacketsCopied p.sequence q.sequence pPackets pktCount
  | .advPdu _ _ _ _ pAdvData advDataLength =>
    At (.ble .advPdu) fun (p q : AdvPduReceived) => Copied p.advData q.advData pAdvData advDataLength
  | _ => fun _ _ => True

/-- The lengths that a builder handles. -/
def BleBuilder.WithinCapacity : BleBuilder → Prop
  | .rawPdu _ _ _ _ pPdu length _ _ _ _ _ _ _ _ => pPdu.isSome → 0 ≤ length ∧ length ≤ 255
  | .pdu pPdu length _ _ _ _ => pPdu.isSome → 0 ≤ length ∧ length ≤ 300
  | .advMode pAdvData advDataLength pScanrspData scanrspDataLength =>
    pAdvData.isSome → pScanrspData.isSome → 0 < advDataLength ∧ 0 < scanrspDataLength
  | .sendRawPdu _ _ _ pPdu _ _ _ => pPdu = none
  | .sendPdu _ _ pPdu _ _ => pPdu = none
  | .peripheralMode pAdvData advDataLength pScanrspData scanrspDataLength =>
    pAdvData.isSome → pScanrspData.isSome → 0 < advDataLength ∧ 0 < scanrspDataLength
  | .reactiveJam _ pPattern patternLength _ =>
    0 ≤ patternLength ∧ (0 < patternLength → patternLength ≤ 20 → pPattern.isSome)
  | .prepareSequenceOnRecv pPattern pMask length _ _ _ pPackets pktCount =>
    pPattern.isSome → pMask.isSome → pPackets = none → 0 < length → length < 255 → pktCount = 0
  | .prepareSequenceManual _ _ pPackets pktCount =>
    ∀ packets, pPackets = some packets → 0 ≤ pktCount ∧ (pktCount ≤ 25 ∨ Refused packets 0 pktCount.toNat)
  | .prepareSequenceConnEvt _ _ _ pPackets pktCount =>
    ∀ packets, pPackets = some packets → 0 ≤ pktCount ∧ (pktCount ≤ 25 ∨ Refused packets 0 pktCount.toNat)
  | .advPdu _ _ pBdaddr _ pAdvData advDataLength =>
    pBdaddr.isSome → pAdvData.isSome → 0 < advDataLength ∧ advDataLength < 31
  | _ => True

/-- Without a length nothing is stored. -/
theorem storeAdvData_copied_iff (src : Buffer) {length : ℤ} :
    (∀ x, ∃ y, storeAdvData x src length = some y ∧ Copied x y (some src) (min length 31)) ↔ 0 < length := by
  constructor
  · intro hall
    by_contra hlen
    obtain ⟨y,hy,hcopied⟩ := hall ⟨1,default⟩
    obtain rfl := Option.some.inj ((if_neg hlen).symm.trans hy)
    have hsize := hcopied.size
    simp only at hsize
    omega
  · intro hlen x
    have hcut : (if 31 < length then 31 else length) = min length 31 := by split <;> omega
    obtain ⟨y,hy⟩ := x.exists_fill src (show 0 ≤ min length 31 by omega) (by omega)
    exact ⟨y,by rw [storeAdvData, if_pos hlen, hcut, hy],(fill_iff_copied (by decide)).mp hy⟩

theorem storeAdvMode_bodySafe_iff {adv scanrsp : Buffer} {advDataLength scanrspDataLength : ℤ} :
    BodySafe (storeAdvMode adv advDataLength scanrsp scanrspDataLength) (fun p q =>
      Copied p.scanData q.scanData (some adv) (min advDataLength 31) ∧
      Copied p.scanrspData q.scanrspData (some scanrsp) (min scanrspDataLength 31)) ↔
      0 < advDataLength ∧ 0 < scanrspDataLength := by
  rw [← storeAdvData_copied_iff adv, ← storeAdvData_copied_iff scanrsp]
  constructor
  · intro hbody
    have hrun (p : AdvModeCmd) : ∃ x y, storeAdvData p.scanData adv advDataLength = some x ∧
        storeAdvData p.scanrspData scanrsp scanrspDataLength = some y ∧
        Copied p.scanData x (some adv) (min advDataLength 31) ∧
        Copied p.scanrspData y (some scanrsp) (min scanrspDataLength 31) := by
      obtain ⟨result,p',hp,hresult⟩ := hbody p
      simp only [storeAdvMode, bind, done, Option.bind_eq_some_iff, Option.some.injEq, Prod.mk.injEq] at hp
      obtain ⟨x,hx,y,hy,rfl,rfl⟩ := hp
      obtain ⟨-,hadv,hscanrsp⟩ := hresult.resolve_left nofun
      exact ⟨x,y,hx,hy,hadv,hscanrsp⟩
    constructor
    · intro x
      obtain ⟨y,-,hy,-,hcopied,-⟩ := hrun ⟨x,x⟩
      exact ⟨y,hy,hcopied⟩
    · intro x
      obtain ⟨-,y,-,hy,-,hcopied⟩ := hrun ⟨x,x⟩
      exact ⟨y,hy,hcopied⟩
  · rintro ⟨hadv,hscanrsp⟩ p
    obtain ⟨x,hx,hcopied⟩ := hadv p.scanData
    obtain ⟨y,hy,hcopied'⟩ := hscanrsp p.scanrspData
    exact ⟨.success,⟨x,y⟩,by rw [storeAdvMode, hx]; simp only [bind, Option.bind_some, hy]; rfl,
      .inr ⟨rfl,hcopied,hcopied'⟩⟩

/-- The array must be large enough as far as the loop goes, and a negative count is stored as it is. -/
theorem sequence_bodySafe_iff {head : PrepareSequenceCmd → PrepareSequenceCmd}
    (hitems : ∀ p, (head p).sequence = p.sequence) :
    BodySafe (fun p => whadBleSequenceCopyPackets (some packets) pktCount (head p))
      (fun p q => PacketsCopied p.sequence q.sequence (some packets) pktCount) ↔
      0 ≤ pktCount ∧ (pktCount ≤ 25 ∨ Refused packets 0 pktCount.toNat) := by
  by_cases hpos : 0 < pktCount
  · constructor
    · intro hbody
      obtain ⟨result,p',hp,hresult⟩ := hbody default
      simp only [whadBleSequenceCopyPackets_of_pos hpos] at hp
      obtain ⟨⟨copied,w⟩,hw,heq⟩ := Option.map_eq_some_iff.mp hp
      obtain ⟨rfl,-⟩ := Prod.mk.inj heq
      refine ⟨hpos.le,?_⟩
      rcases hresult with rfl | ⟨rfl,-⟩
      · exact .inr (copyPacketsFrom_error_iff.mp ⟨w,hw⟩)
      · obtain ⟨⟨hplace,-⟩,-⟩ := copyPacketsFrom_success hw
        exact .inl (by omega)
    · rintro ⟨-,hfits⟩ p
      simp only [whadBleSequenceCopyPackets_of_pos hpos, Option.map_eq_some_iff, Prod.mk.injEq]
      have hcases : Accepted packets 0 pktCount.toNat ∨ Refused packets 0 pktCount.toNat := by
        rcases hfits with hle | hrefused
        · exact accepted_or_refused (by omega)
        · exact .inr hrefused
      rcases hcases with haccepted | hrefused
      · obtain ⟨w,hw⟩ := exists_copyPacketsFrom (v := (head p).sequence.items) haccepted
        obtain ⟨-,hget⟩ := copyPacketsFrom_success hw
        have hle : pktCount ≤ 25 := by
          have := haccepted.1
          omega
        refine ⟨_,_,⟨_,hw,rfl,rfl⟩,.inr ⟨rfl,⟨hpos.le,hle⟩,?_,fun j => ?_⟩⟩
        · simp only [sizeOf16_of_lt hpos.le (show pktCount < 65536 by omega)]
          omega
        · have hj := hget j j.isLt
          rw [hitems] at hj
          by_cases hlt : (j : ℤ) < pktCount
          · rw [if_pos (by omega)] at hj
            rw [if_pos hlt]
            exact ⟨packets,rfl,(fill_iff_copied (by decide)).mp hj⟩
          · rw [if_neg (by omega)] at hj
            rw [if_neg hlt]
            exact hj
      · obtain ⟨w,hw⟩ := copyPacketsFrom_error_iff (v := (head p).sequence.items) |>.mpr hrefused
        exact ⟨_,_,⟨_,hw,rfl,rfl⟩,.inl rfl⟩
  · simp only [BodySafe, whadBleSequenceCopyPackets_of_nonpos (not_lt.mp hpos), done, Option.some.injEq, Prod.mk.injEq]
    constructor
    · intro hbody
      obtain ⟨_,p',⟨rfl,rfl⟩,hresult⟩ := hbody default
      obtain ⟨-,hcopied⟩ := hresult.resolve_left nofun
      exact ⟨hcopied.bounds.1,.inl hcopied.bounds.2⟩
    · rintro ⟨hzero,-⟩ p
      obtain rfl : pktCount = 0 := by omega
      refine ⟨_,_,⟨rfl,rfl⟩,.inr ⟨rfl,⟨by omega,by omega⟩,rfl,fun j => ?_⟩⟩
      rw [if_neg (by omega), hitems]

section
variable {direction : EnumField BleDirection} {connHandle accessAddress crc channel position id : UInt32} {encrypt : Bool}
  {pPdu pPattern pMask : Option Buffer} {pPackets : Option (ℕ → PreparedPacket)} {length offset patternLength : ℤ}

theorem whadBleSendRawPdu_safe_iff :
    let b : BleBuilder := .sendRawPdu direction connHandle accessAddress pPdu length crc encrypt
    Safe b.run b.Stored ↔ b.WithinCapacity := by
  cases pPdu with
  | none => exact iff_of_true (safe_of_refuse rfl fun _ => rfl) rfl
  | some src =>
    refine iff_of_false (fun hsafe => ?_) (Option.some_ne_none src)
    have hbody := Iff.mp (safe_build_iff (by exact rfl) (fun _ => rfl)) hsafe
    let p : SendRawPDUCmd := { (default : SendRawPDUCmd) with pdu := ⟨length.toNat+1,default⟩ }
    obtain ⟨result,p',hp,hresult⟩ := hbody p
    simp only [bind, done, Option.bind_eq_some_iff, Option.some.injEq, Prod.mk.injEq] at hp
    obtain ⟨bytes,-,rfl,rfl⟩ := hp
    have hcopied := (hresult.resolve_left (by decide)).2
    have hsize := hcopied.size
    simp only [p] at hsize
    omega

theorem whadBleSendPdu_safe_iff :
    let b : BleBuilder := .sendPdu direction connHandle pPdu length encrypt
    Safe b.run b.Stored ↔ b.WithinCapacity := by
  cases pPdu with
  | none => exact iff_of_true (safe_of_refuse rfl fun _ => rfl) rfl
  | some src =>
    refine iff_of_false (fun hsafe => ?_) (Option.some_ne_none src)
    have hbody := Iff.mp (safe_build_iff (by exact rfl) (fun _ => rfl)) hsafe
    let p : SendPDUCmd := { (default : SendPDUCmd) with pdu := ⟨length.toNat+1,default⟩ }
    obtain ⟨result,p',hp,hresult⟩ := hbody p
    simp only [bind, done, Option.bind_eq_some_iff, Option.some.injEq, Prod.mk.injEq, SendPDUCmd.copyToRaw,
      Option.ite_none_right_eq_some] at hp
    obtain ⟨_,⟨-,rfl⟩,rfl,rfl⟩ := hp
    have hcopied := (hresult.resolve_left (by decide)).2
    have hsize := hcopied.size
    simp only [p] at hsize
    omega

theorem whadBleReactiveJam_safe_iff :
    let b : BleBuilder := .reactiveJam channel pPattern patternLength position
    Safe b.run b.Stored ↔ b.WithinCapacity := by
  refine Iff.trans (safe_build_iff ?_ fun _ => rfl) ?_
  · rfl
  constructor
  · intro hbody
    obtain ⟨result,p',hp,hresult⟩ := hbody default
    by_cases hpos : 0 < patternLength
    · refine ⟨hpos.le,fun _ hle => ?_⟩
      cases pPattern with
      | none => simp [hpos, not_lt.mpr hle] at hp
      | some => rfl
    · simp only [hpos, if_false, done, Option.some.injEq, Prod.mk.injEq] at hp
      obtain ⟨rfl,rfl⟩ := hp
      have hcopied := (hresult.resolve_left (by decide)).2
      exact ⟨hcopied.bounds.1,fun h => absurd h hpos⟩
  · rintro ⟨hzero,hgiven⟩ p
    by_cases hpos : 0 < patternLength
    · by_cases hmax : 20 < patternLength
      · simp only [hpos, hmax, if_true]
        exact ⟨_,_,rfl,.inl rfl⟩
      · obtain ⟨src,rfl⟩ := Option.isSome_iff_exists.mp (hgiven hpos (not_lt.mp hmax))
        have hcopy : memcpy p.pattern.bytes src _ = some _ := memcpy_of_le hzero (not_lt.mp hmax)
        have hfill := BytesArray.fill_eq_some_iff (x := p.pattern) (y := ⟨sizeOf16 patternLength,_⟩) |>.mpr ⟨hcopy,rfl⟩
        simp only [hpos, hmax, if_true, if_false, bind, Option.bind_some, hcopy]
        exact ⟨_,_,rfl,.inr ⟨rfl,(fill_iff_copied (by decide)).mp hfill⟩⟩
    · obtain rfl : patternLength = 0 := by omega
      refine ⟨_,_,rfl,.inr ⟨rfl,⟨by omega,by omega⟩,rfl,fun i => ?_⟩⟩
      rw [if_neg (by omega)]

theorem whadBlePrepareSequenceOnRecv_safe_iff :
    let b : BleBuilder := .prepareSequenceOnRecv pPattern pMask length offset id direction pPackets pktCount
    Safe b.run b.Stored ↔ b.WithinCapacity := by
  cases pPattern with
  | none => exact iff_of_true (safe_of_refuse rfl fun _ => rfl) fun h => absurd h (by decide)
  | some pattern =>
    cases pMask with
    | none => exact iff_of_true (safe_of_refuse rfl fun _ => rfl) fun _ h => absurd h (by decide)
    | some mask =>
      cases pPackets with
      | some packets =>
        exact iff_of_true (safe_of_refuse rfl fun _ => rfl) fun _ _ h => absurd h (Option.some_ne_none packets)
      | none =>
        refine Iff.trans (safe_build_iff ?_ fun _ => rfl) ?_
        · rfl
        constructor
        · intro hbody _ _ _ hzero hlt
          obtain ⟨result,p',hp,hresult⟩ := hbody default
          simp only [blePrepseqTriggerMaxSize, hzero, hlt, and_self, if_true, bind, Option.bind_eq_some_iff] at hp
          obtain ⟨x,hx,y,hy,hp⟩ := hp
          by_cases hpos : 0 < pktCount
          · simp [whadBleSequenceCopyPackets, hpos] at hp
          · simp only [whadBleSequenceCopyPackets_of_nonpos (not_lt.mp hpos), done, Option.some.injEq, Prod.mk.injEq] at hp
            obtain ⟨rfl,rfl⟩ := hp
            have hcopied := (hresult.resolve_left (by decide)).2
            have hbounds := hcopied.2.2.bounds
            omega
        · intro hcount p
          by_cases hlen : 0 < length ∧ length < 255
          · obtain rfl := hcount rfl rfl rfl hlen.1 hlen.2
            obtain ⟨x,hx⟩ := p.trigger.value.reception.pattern.exists_fill pattern hlen.1.le (by omega)
            obtain ⟨y,hy⟩ := p.trigger.value.reception.mask.exists_fill mask hlen.1.le (by omega)
            refine ⟨.success,_,by simp only [blePrepseqTriggerMaxSize, hlen, and_self, if_true, hx, hy]; rfl,.inr ⟨rfl,?_⟩⟩
            refine ⟨(fill_iff_copied (by decide)).mp hx,(fill_iff_copied (by decide)).mp hy,⟨by omega,by omega⟩,rfl,?_⟩
            intro j
            rw [if_neg (by omega)]
          · exact ⟨.error,_,by simp only [blePrepseqTriggerMaxSize, hlen, if_false]; rfl,.inl rfl⟩

end

theorem bleBuilder_safe_iff (b : BleBuilder) : Safe b.run b.Stored ↔ b.WithinCapacity := by
  cases b
  case rawPdu pPdu length _ _ _ _ _ _ _ _ =>
    cases pPdu with
    | none => exact iff_of_true (safe_of_refuse rfl fun _ => rfl) fun h => absurd h (by decide)
    | some src =>
      refine Iff.trans (safe_build_iff ?_ fun _ => rfl) ?_
      · rfl
      exact (bodySafe_fill_iff (by decide) (by exact fun _ _ => rfl)).trans (by simp [BleBuilder.WithinCapacity])
  case pdu pPdu length _ _ _ _ =>
    cases pPdu with
    | none => exact iff_of_true (safe_of_refuse rfl fun _ => rfl) fun h => absurd h (by decide)
    | some src =>
      refine Iff.trans (safe_build_iff ?_ fun _ => rfl) ?_
      · rfl
      exact (bodySafe_fill_iff (by decide) (by exact fun _ _ => rfl)).trans (by simp [BleBuilder.WithinCapacity])
  case advMode pAdvData advDataLength pScanrspData scanrspDataLength =>
    cases pAdvData with
    | none => exact iff_of_true (safe_of_refuse rfl fun _ => rfl) fun h => absurd h (by decide)
    | some =>
      cases pScanrspData with
      | none => exact iff_of_true (safe_of_refuse rfl fun _ => rfl) fun _ h => absurd h (by decide)
      | some =>
        refine Iff.trans (safe_build_iff ?_ fun _ => rfl) ?_
        · rfl
        exact storeAdvMode_bodySafe_iff.trans (by simp [BleBuilder.WithinCapacity])
  case peripheralMode pAdvData advDataLength pScanrspData scanrspDataLength =>
    cases pAdvData with
    | none => exact iff_of_true (safe_of_refuse rfl fun _ => rfl) fun h => absurd h (by decide)
    | some =>
      cases pScanrspData with
      | none => exact iff_of_true (safe_of_refuse rfl fun _ => rfl) fun _ h => absurd h (by decide)
      | some =>
        refine Iff.trans (safe_build_iff ?_ fun _ => rfl) ?_
        · rfl
        exact storeAdvMode_bodySafe_iff.trans (by simp [BleBuilder.WithinCapacity])
  case setAdvData pAdvData advDataLength pScanrspData scanrspDataLength =>
    refine iff_of_true (fun message => ?_) trivial
    cases message with
    | none => exact ⟨_,_,rfl,.inl rfl⟩
    | some m =>
      cases pAdvData with
      | none => exact ⟨_,_,rfl,.inl rfl⟩
      | some =>
        cases pScanrspData with
        | none => exact ⟨_,_,rfl,.inl rfl⟩
        | some =>
          refine ⟨_,_,FullMessage.build_eq_some_iff.mpr ⟨m.msg _,?_,rfl⟩,.inl rfl⟩
          simp [failed]
  case sendRawPdu => exact whadBleSendRawPdu_safe_iff
  case sendPdu => exact whadBleSendPdu_safe_iff
  case reactiveJam => exact whadBleReactiveJam_safe_iff
  case prepareSequenceOnRecv => exact whadBlePrepareSequenceOnRecv_safe_iff
  case prepareSequenceManual id direction pPackets pktCount =>
    cases pPackets with
    | none => exact iff_of_true (safe_of_refuse rfl fun _ => rfl) fun _ h => absurd h.symm (Option.some_ne_none _)
    | some packets =>
      refine Iff.trans (safe_build_iff ?_ fun _ => rfl) ?_
      · rfl
      exact (sequence_bodySafe_iff (by exact fun _ => rfl)).trans (by simp [BleBuilder.WithinCapacity])
  case prepareSequenceConnEvt connectionEvent id direction pPackets pktCount =>
    cases pPackets with
    | none => exact iff_of_true (safe_of_refuse rfl fun _ => rfl) fun _ h => absurd h.symm (Option.some_ne_none _)
    | some packets =>
      refine Iff.trans (safe_build_iff ?_ fun _ => rfl) ?_
      · rfl
      exact (sequence_bodySafe_iff (by exact fun _ => rfl)).trans (by simp [BleBuilder.WithinCapacity])
  case advPdu pBdaddr addrType pAdvData advDataLength =>
    cases pBdaddr with
    | none => exact iff_of_true (safe_of_refuse rfl fun _ => rfl) fun h => absurd h (by decide)
    | some bdaddr =>
      cases pAdvData with
      | none => exact iff_of_true (safe_of_refuse rfl fun _ => rfl) fun _ h => absurd h (by decide)
      | some data =>
        refine Iff.trans (safe_build_iff ?_ fun _ => rfl) ?_
        · rfl
        by_cases hlen : 0 < advDataLength ∧ advDataLength < 31
        · refine iff_of_true (fun p => ?_) fun _ _ => hlen
          obtain ⟨x,hx⟩ := p.advData.exists_fill data hlen.1.le (by omega)
          exact ⟨.success,_,by simp only [hlen, and_self, if_true, hx]; rfl,
            .inr ⟨rfl,(fill_iff_copied (by decide)).mp hx⟩⟩
        · refine iff_of_false (fun hbody => ?_) fun h => hlen (h rfl rfl)
          let p : AdvPduReceived := { (default : AdvPduReceived) with advData := ⟨advDataLength.toNat+1,default⟩ }
          obtain ⟨result,p',hp,hresult⟩ := hbody p
          simp only [hlen, if_false, bind, done, Option.bind_some, Option.some.injEq, Prod.mk.injEq] at hp
          obtain ⟨rfl,rfl⟩ := hp
          have hcopied := (hresult.resolve_left (by decide)).2
          have hsize := hcopied.size
          simp only [p] at hsize
          omega
  all_goals exact iff_of_true (bleBuilder_plain _ rfl).safe trivial

end
end Ble

end WhadLib
