import WhadLib.Ble.Capacity
import WhadLib.Builders.Reads

/-! What the BLE builders take from the arrays they are given. -/
namespace WhadLib
open Library

/- A builder is compared with its member and its body, not with what setting both comes to. -/
attribute [local irreducible] FullMessage.build

namespace Ble

/-- The same length, and bytes that agree up to its cut. -/
structure PreparedPacket.Varies (cut : ℤ → ℤ) (packet packet' : PreparedPacket) : Prop where
  length : packet'.length = packet.length
  bytes : Agree (cut packet.length) packet.pBytes packet'.pBytes

/-- The packets from one number on. -/
def PacketsVary (cut : ℤ → ℤ) (i : ℕ) (pktCount : ℤ) (packets packets' : ℕ → PreparedPacket) : Prop :=
  ∀ j : ℕ, i ≤ j → (j : ℤ) < i+pktCount → (packets j).Varies cut (packets' j)

section
variable {packets packets' : ℕ → PreparedPacket} {cut : ℤ → ℤ} {rest i : ℕ}

theorem PacketsVary.next (h : PacketsVary cut i (rest+1 : ℕ) packets packets') :
    PacketsVary cut (i+1) rest packets packets' := fun j hij hj => h j (by omega) (by push_cast at hj ⊢; omega)

theorem PacketsVary.first (h : PacketsVary cut i (rest+1 : ℕ) packets packets') : (packets i).Varies cut (packets' i) :=
  h i le_rfl (by push_cast; omega)

/-- The loop reads the packets that it counts, and of each the bytes it has. -/
theorem copyPacketsFrom_congr (h : PacketsVary id i rest packets packets') (v : Vector PendingPacket 25) :
    copyPacketsFrom packets' rest i v = copyPacketsFrom packets rest i v := by
  induction rest generalizing i v with
  | zero => rfl
  | succ rest ih =>
    have hagree : Agree (packets i).length _ _ := h.first.bytes
    simp only [copyPacketsFrom, h.first.length, BytesArray.fill_of_agree hagree, ih h.next]

/-- Where it ends does not depend on the bytes. -/
theorem copyPacketsFrom_result (h : PacketsVary cut i rest packets packets') (v v' : Vector PendingPacket 25) :
    (copyPacketsFrom packets' rest i v').map Prod.fst = (copyPacketsFrom packets rest i v).map Prod.fst := by
  induction rest generalizing i v v' with
  | zero => rfl
  | succ rest ih =>
    have hlength := h.first.length
    by_cases hi : i < 25
    · by_cases hfits : (packets i).Fits
      · have hfits' : (packets' i).Fits := by rw [PreparedPacket.Fits, hlength]; exact hfits
        obtain ⟨_,-,hrun⟩ := copyPacketsFrom_good rest v hi hfits
        obtain ⟨_,-,hrun'⟩ := copyPacketsFrom_good rest v' hi hfits'
        rw [hrun, hrun', ih h.next]
      · have hfits' : ¬(packets' i).Fits := by rw [PreparedPacket.Fits, hlength]; exact hfits
        rw [copyPacketsFrom_bad hi hfits, copyPacketsFrom_bad hi hfits']
        rfl
    · simp only [copyPacketsFrom, hi, dite_false]

end

section
variable {pPackets pPackets' : Option (ℕ → PreparedPacket)} {pktCount : ℤ} {cut : ℤ → ℤ}

theorem whadBleSequenceCopyPackets_congr (h : Option.Rel (PacketsVary id 0 pktCount) pPackets pPackets')
    (p : PrepareSequenceCmd) :
    whadBleSequenceCopyPackets pPackets' pktCount p = whadBleSequenceCopyPackets pPackets pktCount p := by
  by_cases hpos : 0 < pktCount
  · cases h with
    | none => rfl
    | some h =>
      have hall : PacketsVary id 0 pktCount.toNat _ _ := fun j hj hlt => h j hj (by omega)
      rw [whadBleSequenceCopyPackets_of_pos hpos, whadBleSequenceCopyPackets_of_pos hpos, copyPacketsFrom_congr hall]
  · rw [whadBleSequenceCopyPackets_of_nonpos (not_lt.mp hpos), whadBleSequenceCopyPackets_of_nonpos (not_lt.mp hpos)]

/-- The member without the packets. -/
def hideItems (p : PrepareSequenceCmd) : PrepareSequenceCmd := { p with sequence := { p.sequence with items := default } }

/-- The member without the packets, the pattern and the mask. -/
def hideTrigger (p : PrepareSequenceCmd) : PrepareSequenceCmd :=
  { hideItems p with trigger := { p.trigger with value := { p.trigger.value with reception :=
      { p.trigger.value.reception with pattern := default, mask := default } } } }

theorem whadBleSequenceCopyPackets_alike (h : Option.Rel (PacketsVary cut 0 pktCount) pPackets pPackets')
    (p : PrepareSequenceCmd) : Alike hideItems
      (whadBleSequenceCopyPackets pPackets pktCount p) (whadBleSequenceCopyPackets pPackets' pktCount p) := by
  by_cases hpos : 0 < pktCount
  · cases h with
    | none => rfl
    | some h =>
      have hresult (packets : ℕ → PreparedPacket) :
          (whadBleSequenceCopyPackets (some packets) pktCount p).map (Prod.map id hideItems) =
            ((copyPacketsFrom packets pktCount.toNat 0 p.sequence.items).map Prod.fst).map fun result =>
              (result,hideItems { p with sequence := ⟨sizeOf16 pktCount,default⟩ }) := by
        rw [whadBleSequenceCopyPackets_of_pos hpos, Option.map_map, Option.map_map]
        rfl
      have hall : PacketsVary cut 0 pktCount.toNat _ _ := fun j hj hlt => h j hj (by omega)
      rw [Alike, hresult, hresult, copyPacketsFrom_result hall p.sequence.items p.sequence.items]
  · rw [whadBleSequenceCopyPackets_of_nonpos (not_lt.mp hpos), whadBleSequenceCopyPackets_of_nonpos (not_lt.mp hpos)]
    rfl

end

section
variable {src src' adv adv' scanrsp scanrsp' : Buffer} {length advDataLength scanrspDataLength : ℤ}

theorem storeAdvData_congr {x : BytesArray 31} (h : Agree (min length 31) src src') :
    storeAdvData x src' length = storeAdvData x src length := by
  have hcut : (if 31 < length then 31 else length) = min length 31 := by split <;> omega
  rw [storeAdvData, storeAdvData, hcut, BytesArray.fill_of_agree h]

theorem storeAdvData_isSome {x : BytesArray 31} :
    (storeAdvData x src' length).isSome = (storeAdvData x src length).isSome := by
  unfold storeAdvData
  split
  · exact BytesArray.fill_isSome
  · rfl

theorem storeAdvMode_congr (hadv : Agree (min advDataLength 31) adv adv')
    (hscanrsp : Agree (min scanrspDataLength 31) scanrsp scanrsp') (p : AdvModeCmd) :
    storeAdvMode adv' advDataLength scanrsp' scanrspDataLength p =
      storeAdvMode adv advDataLength scanrsp scanrspDataLength p := by
  rw [storeAdvMode, storeAdvMode, storeAdvData_congr hadv, storeAdvData_congr hscanrsp]

theorem storeAdvMode_alike (p : AdvModeCmd) :
    Alike (fun p => { p with scanData := default, scanrspData := default })
      (storeAdvMode adv advDataLength scanrsp scanrspDataLength p)
      (storeAdvMode adv' advDataLength scanrsp' scanrspDataLength p) :=
  alike_bind storeAdvData_isSome fun _ _ => alike_bind storeAdvData_isSome fun _ _ => rfl

theorem copyToRaw_congr {p : SendPDUCmd} (h : Agree length src src') : p.copyToRaw src' length = p.copyToRaw src length := by
  have hget (i : Fin 300) : (if 4 ≤ i.val ∧ (i : ℤ) < length+4 then src' (i.val-4) else p.pdu.bytes[i]) =
      if 4 ≤ i.val ∧ (i : ℤ) < length+4 then src (i.val-4) else p.pdu.bytes[i] := by
    by_cases hi : 4 ≤ i.val ∧ (i : ℤ) < length+4
    · rw [if_pos hi, if_pos hi, h _ (by omega)]
    · rw [if_neg hi, if_neg hi]
  have hencrypt : (if 296 < length then src' 296 != 0 else p.encrypt) =
      if 296 < length then src 296 != 0 else p.encrypt := by
    by_cases hlen : 296 < length
    · rw [if_pos hlen, if_pos hlen, h 296 hlen]
    · rw [if_neg hlen, if_neg hlen]
  simp only [SendPDUCmd.copyToRaw, hget, hencrypt]

end

/-- The same call with other arrays. Each agrees with the one it stands for up to the cut of what is copied. -/
def BleBuilder.Varies (cut : ℤ → ℤ) : BleBuilder → BleBuilder → Prop
  | .rawPdu channel rssi connHandle accessAddress pPdu length crc crcValidity timestamp relativeTimestamp direction
      processed decrypted useTimestamp, b => ∃ pPdu', Option.Rel (Agree (cut length)) pPdu pPdu' ∧
    b = .rawPdu channel rssi connHandle accessAddress pPdu' length crc crcValidity timestamp relativeTimestamp direction
      processed decrypted useTimestamp
  | .pdu pPdu length direction connHandle processed decrypted, b => ∃ pPdu',
    Option.Rel (Agree (cut length)) pPdu pPdu' ∧ b = .pdu pPdu' length direction connHandle processed decrypted
  | .advMode pAdvData advDataLength pScanrspData scanrspDataLength, b => ∃ pAdvData' pScanrspData',
    Option.Rel (Agree (cut (min advDataLength 31))) pAdvData pAdvData' ∧
      Option.Rel (Agree (cut (min scanrspDataLength 31))) pScanrspData pScanrspData' ∧
      b = .advMode pAdvData' advDataLength pScanrspData' scanrspDataLength
  | .setAdvData pAdvData advDataLength pScanrspData scanrspDataLength, b => ∃ pAdvData' pScanrspData',
    Option.Rel (Agree (cut advDataLength)) pAdvData pAdvData' ∧
      Option.Rel (Agree (cut scanrspDataLength)) pScanrspData pScanrspData' ∧
      b = .setAdvData pAdvData' advDataLength pScanrspData' scanrspDataLength
  | .sendRawPdu direction connHandle accessAddress pPdu length crc encrypt, b => ∃ pPdu',
    Option.Rel (Agree (cut length)) pPdu pPdu' ∧
      b = .sendRawPdu direction connHandle accessAddress pPdu' length crc encrypt
  | .sendPdu direction connHandle pPdu length encrypt, b => ∃ pPdu',
    Option.Rel (Agree (cut length)) pPdu pPdu' ∧ b = .sendPdu direction connHandle pPdu' length encrypt
  | .peripheralMode pAdvData advDataLength pScanrspData scanrspDataLength, b => ∃ pAdvData' pScanrspData',
    Option.Rel (Agree (cut (min advDataLength 31))) pAdvData pAdvData' ∧
      Option.Rel (Agree (cut (min scanrspDataLength 31))) pScanrspData pScanrspData' ∧
      b = .peripheralMode pAdvData' advDataLength pScanrspData' scanrspDataLength
  | .reactiveJam channel pPattern patternLength position, b => ∃ pPattern',
    Option.Rel (Agree (cut patternLength)) pPattern pPattern' ∧
      b = .reactiveJam channel pPattern' patternLength position
  | .prepareSequenceOnRecv pPattern pMask length offset id direction pPackets pktCount, b =>
    ∃ pPattern' pMask' pPackets', Option.Rel (Agree (cut length)) pPattern pPattern' ∧
      Option.Rel (Agree (cut length)) pMask pMask' ∧ Option.Rel (PacketsVary cut 0 pktCount) pPackets pPackets' ∧
      b = .prepareSequenceOnRecv pPattern' pMask' length offset id direction pPackets' pktCount
  | .prepareSequenceManual id direction pPackets pktCount, b => ∃ pPackets',
    Option.Rel (PacketsVary cut 0 pktCount) pPackets pPackets' ∧
      b = .prepareSequenceManual id direction pPackets' pktCount
  | .prepareSequenceConnEvt connectionEvent id direction pPackets pktCount, b => ∃ pPackets',
    Option.Rel (PacketsVary cut 0 pktCount) pPackets pPackets' ∧
      b = .prepareSequenceConnEvt connectionEvent id direction pPackets' pktCount
  | .advPdu advType rssi pBdaddr addrType pAdvData advDataLength, b => ∃ pAdvData',
    Option.Rel (Agree (cut advDataLength)) pAdvData pAdvData' ∧
      b = .advPdu advType rssi pBdaddr addrType pAdvData' advDataLength
  | b, b' => b' = b

/-- The member without the arrays that the builder copies to. -/
def BleBuilder.hideArrays : (b : BleBuilder) → (Kind.ble b.kind).Struct → (Kind.ble b.kind).Struct
  | .rawPdu .. => fun (p : RawPduReceived) => { p with pdu := default }
  | .pdu .. => fun (p : PduReceived) => { p with pdu := default }
  | .advMode .. => fun (p : AdvModeCmd) => { p with scanData := default, scanrspData := default }
  | .sendRawPdu .. => fun (p : SendRawPDUCmd) => { p with pdu := default }
  | .sendPdu .. => fun (p : SendPDUCmd) => { p with pdu := default }
  | .peripheralMode .. => fun (p : AdvModeCmd) => { p with scanData := default, scanrspData := default }
  | .reactiveJam .. => fun (p : ReactiveJamCmd) => { p with pattern := default }
  | .prepareSequenceOnRecv .. => hideTrigger
  | .prepareSequenceManual .. => hideItems
  | .prepareSequenceConnEvt .. => hideItems
  | .advPdu .. => fun (p : AdvPduReceived) => { p with advData := default }
  | _ => id

theorem bleBuilder_reads {b b' : BleBuilder} (h : b.Varies id b') : b'.run = b.run := by
  funext message
  cases b <;> simp only [BleBuilder.Varies, id_eq] at h
  case rawPdu | pdu =>
    obtain ⟨_,hagree,rfl⟩ := h
    match message, hagree with
    | none, _ => rfl
    | some _, .none => rfl
    | some m, .some hagree => exact build_congr fun p => by rw [BytesArray.fill_of_agree hagree]
  case sendRawPdu =>
    obtain ⟨_,hagree,rfl⟩ := h
    match message, hagree with
    | none, _ => rfl
    | some _, .none => rfl
    | some m, .some hagree => exact build_congr fun p => by rw [memcpy_of_agree hagree]
  case sendPdu =>
    obtain ⟨_,hagree,rfl⟩ := h
    match message, hagree with
    | none, _ => rfl
    | some _, .none => rfl
    | some m, .some hagree => exact build_congr fun p => by rw [copyToRaw_congr hagree]
  case advMode | peripheralMode =>
    obtain ⟨_,_,hadv,hscanrsp,rfl⟩ := h
    match message, hadv, hscanrsp with
    | none, _, _ => rfl
    | some _, .none, _ => rfl
    | some _, .some _, .none => rfl
    | some m, .some hadv, .some hscanrsp => exact build_congr fun p => storeAdvMode_congr hadv hscanrsp p
  case setAdvData =>
    obtain ⟨_,_,hadv,hscanrsp,rfl⟩ := h
    cases message <;> cases hadv <;> cases hscanrsp <;> rfl
  case reactiveJam =>
    obtain ⟨_,hagree,rfl⟩ := h
    match message, hagree with
    | none, _ => rfl
    | some _, .none => rfl
    | some m, .some hagree =>
      exact build_congr fun p => by simp only [bind, Option.bind_some, memcpy_of_agree hagree]
  case prepareSequenceOnRecv =>
    obtain ⟨_,_,_,hpattern,hmask,hpackets,rfl⟩ := h
    match message, hpattern, hmask, hpackets with
    | none, _, _, _ => rfl
    | some _, .none, _, _ => rfl
    | some _, .some _, .none, _ => rfl
    | some _, .some _, .some _, .some _ => rfl
    | some m, .some hpattern, .some hmask, .none =>
      exact build_congr fun p => by simp only [BytesArray.fill_of_agree hpattern, BytesArray.fill_of_agree hmask]
  case prepareSequenceManual | prepareSequenceConnEvt =>
    obtain ⟨_,hpackets,rfl⟩ := h
    match message, hpackets with
    | none, _ => rfl
    | some _, .none => rfl
    | some m, .some hpackets => exact build_congr fun p => whadBleSequenceCopyPackets_congr (.some hpackets) _
  case advPdu pBdaddr _ _ _ =>
    obtain ⟨_,hagree,rfl⟩ := h
    match message, pBdaddr, hagree with
    | none, _, _ => rfl
    | some _, none, _ => rfl
    | some _, some _, .none => rfl
    | some m, some _, .some hagree => exact build_congr fun p => by simp only [BytesArray.fill_of_agree hagree]
  all_goals
    obtain rfl := h
    rfl

theorem bleBuilder_besides {cut : ℤ → ℤ} {b b' : BleBuilder} (hfits : b.WithinCapacity) (h : b.Varies cut b')
    (message : Option FullMessage) :
    (b'.run message).besides b.hideArrays = (b.run message).besides b.hideArrays := by
  cases b
  case rawPdu | pdu =>
    obtain ⟨_,hagree,rfl⟩ := h
    cases message with
    | none => rfl
    | some m =>
      cases hagree with
      | none => rfl
      | some _ =>
        refine build_besides fun p => ?_
        exact alike_bind BytesArray.fill_isSome fun _ _ => rfl
  case sendRawPdu =>
    -- without a source there is no copy
    obtain ⟨_,hagree,rfl⟩ := h
    obtain rfl := hfits
    cases message <;> cases hagree <;> rfl
  case sendPdu =>
    obtain ⟨_,hagree,rfl⟩ := h
    obtain rfl := hfits
    cases message <;> cases hagree <;> rfl
  case advMode | peripheralMode =>
    obtain ⟨_,_,hadv,hscanrsp,rfl⟩ := h
    cases message with
    | none => rfl
    | some m =>
      cases hadv with
      | none => rfl
      | some _ =>
        cases hscanrsp with
        | none => rfl
        | some _ =>
          exact build_besides fun p => storeAdvMode_alike p
  case setAdvData =>
    obtain ⟨_,_,hadv,hscanrsp,rfl⟩ := h
    cases message <;> cases hadv <;> cases hscanrsp <;> rfl
  case reactiveJam =>
    obtain ⟨_,hagree,rfl⟩ := h
    cases message with
    | none => rfl
    | some m =>
      cases hagree with
      | none => rfl
      | some _ =>
        refine build_besides fun p => ?_
        simp only [bind, Option.bind_some]
        split
        · split
          · rfl
          · exact alike_bind memcpy_isSome fun _ _ => rfl
        · rfl
  case prepareSequenceOnRecv pktCount =>
    obtain ⟨_,_,_,hpattern,hmask,hpackets,rfl⟩ := h
    cases message with
    | none => rfl
    | some m =>
      cases hpattern with
      | none => rfl
      | some _ =>
        cases hmask with
        | none => rfl
        | some _ =>
          cases hpackets with
          | some _ => rfl
          | none =>
            refine build_besides fun p => ?_
            simp only
            split
            · refine alike_bind BytesArray.fill_isSome fun _ _ => alike_bind BytesArray.fill_isSome fun _ _ => ?_
              by_cases hpos : 0 < pktCount
              · simp only [whadBleSequenceCopyPackets, if_pos hpos, bind, Option.bind_none]
                rfl
              · rw [whadBleSequenceCopyPackets_of_nonpos (not_lt.mp hpos),
                  whadBleSequenceCopyPackets_of_nonpos (not_lt.mp hpos)]
                rfl
            · rfl
  case prepareSequenceManual | prepareSequenceConnEvt =>
    obtain ⟨_,hpackets,rfl⟩ := h
    cases message with
    | none => rfl
    | some m =>
      cases hpackets with
      | none => rfl
      | some hpackets => exact build_besides fun p => whadBleSequenceCopyPackets_alike (.some hpackets) _
  case advPdu pBdaddr _ _ _ =>
    obtain ⟨_,hagree,rfl⟩ := h
    cases message with
    | none => rfl
    | some m =>
      cases pBdaddr with
      | none => rfl
      | some _ =>
        cases hagree with
        | none => rfl
        | some _ =>
          refine build_besides fun p => ?_
          split
          · exact alike_bind BytesArray.fill_isSome fun _ _ => rfl
          · rfl
  all_goals
    obtain rfl := h
    rfl

end Ble
end WhadLib
