import WhadLib.Ble.Builders

/-! The loop that copies prepared packets into the array of a sequence. -/
namespace WhadLib
open Library

namespace Ble

/-- The length that the loop accepts. -/
def PreparedPacket.Fits (packet : PreparedPacket) : Prop := 0 < packet.length ∧ packet.length ≤ 255

instance (packet : PreparedPacket) : Decidable packet.Fits :=
  inferInstanceAs (Decidable (0 < packet.length ∧ packet.length ≤ 255))

/-- The loop meets a packet that it refuses, after packets that it accepts, and within the array. -/
def Refused (packets : ℕ → PreparedPacket) (i rest : ℕ) : Prop :=
  ∃ j, i ≤ j ∧ j < i+rest ∧ j < 25 ∧ ¬(packets j).Fits ∧ ∀ l, i ≤ l → l < j → (packets l).Fits

/-- Every packet is accepted and has a place in the array. -/
def Accepted (packets : ℕ → PreparedPacket) (i rest : ℕ) : Prop :=
  (rest = 0 ∨ i+rest ≤ 25) ∧ ∀ j, i ≤ j → j < i+rest → (packets j).Fits

section
variable {packets : ℕ → PreparedPacket} {i rest : ℕ} {v w : Vector PendingPacket 25}

theorem copyPacketsFrom_bad (h : i < 25) (hbad : ¬(packets i).Fits) :
    copyPacketsFrom packets (rest+1) i v =
      failed (v.set i ⟨{ v[i].packet with size := sizeOf16 (packets i).length }⟩) := by
  simp only [copyPacketsFrom, h, dif_pos]
  exact if_neg hbad

theorem copyPacketsFrom_good (rest : ℕ) (v : Vector PendingPacket 25) (h : i < 25) (hfits : (packets i).Fits) :
    ∃ packet, v[i].packet.fill (packets i).pBytes (packets i).length = some packet ∧
      copyPacketsFrom packets (rest+1) i v = copyPacketsFrom packets rest (i+1) (v.set i ⟨packet⟩) := by
  obtain ⟨packet,hpacket⟩ := v[i].packet.exists_fill (packets i).pBytes hfits.1.le hfits.2
  refine ⟨packet,hpacket,?_⟩
  have hcond : 0 < (packets i).length ∧ (packets i).length ≤ blePrepseqPacketMaxSize := hfits
  simp only [copyPacketsFrom, h, dif_pos, if_pos hcond, hpacket]
  rfl

/-- A loop that ends well has accepted every packet, and has written these places of the array only. -/
theorem copyPacketsFrom_success (h : copyPacketsFrom packets rest i v = some (.success, w)) :
    Accepted packets i rest ∧ ∀ j (hj : j < 25),
      if i ≤ j ∧ j < i+rest then v[j].packet.fill (packets j).pBytes (packets j).length = some w[j].packet
      else w[j] = v[j] := by
  induction rest generalizing i v with
  | zero =>
    obtain rfl : v = w := by simpa [copyPacketsFrom, done] using h
    refine ⟨⟨.inl rfl,by omega⟩,fun j hj => ?_⟩
    rw [if_neg (by omega)]
  | succ rest ih =>
    by_cases hi : i < 25
    · by_cases hfits : (packets i).Fits
      · obtain ⟨packet,hpacket,hrun⟩ := copyPacketsFrom_good rest v hi hfits
        rw [hrun] at h
        obtain ⟨⟨hplace,hall⟩,hget⟩ := ih h
        refine ⟨⟨by omega,fun j hij hj => ?_⟩,fun j hj => ?_⟩
        · rcases Nat.eq_or_lt_of_le hij with rfl | hlt
          · exact hfits
          · exact hall j hlt (by omega)
        · have hstep := hget j hj
          rcases lt_trichotomy j i with hlt | rfl | hlt
          · rw [if_neg (by omega)] at hstep ⊢
            rw [hstep, Vector.getElem_set_ne _ _ (by omega)]
          · rw [if_neg (by omega), Vector.getElem_set_self] at hstep
            rw [if_pos (by omega), hpacket, hstep]
          · rw [Vector.getElem_set_ne _ _ (by omega)] at hstep
            by_cases hin : j < i+(rest+1)
            · rw [if_pos (by omega)] at hstep ⊢
              exact hstep
            · rw [if_neg (by omega)] at hstep ⊢
              exact hstep
      · rw [copyPacketsFrom_bad hi hfits] at h
        simp [failed] at h
    · simp [copyPacketsFrom, hi] at h

theorem exists_copyPacketsFrom (h : Accepted packets i rest) :
    ∃ w, copyPacketsFrom packets rest i v = some (.success, w) := by
  induction rest generalizing i v with
  | zero => exact ⟨v,rfl⟩
  | succ rest ih =>
    obtain ⟨hplace,hall⟩ := h
    obtain ⟨packet,-,hrun⟩ := copyPacketsFrom_good rest v (by omega)
      (hall i le_rfl (by omega))
    rw [hrun]
    exact ih ⟨by omega,fun j hij hj => hall j (by omega) (by omega)⟩

/-- The loop fails at the first packet that it refuses. -/
theorem copyPacketsFrom_error_iff :
    (∃ w, copyPacketsFrom packets rest i v = some (.error, w)) ↔ Refused packets i rest := by
  induction rest generalizing i v with
  | zero =>
    constructor
    · rintro ⟨w,h⟩
      simp [copyPacketsFrom, done] at h
    · rintro ⟨j,hij,hj,-⟩
      omega
  | succ rest ih =>
    by_cases hi : i < 25
    · by_cases hfits : (packets i).Fits
      · obtain ⟨packet,-,hrun⟩ := copyPacketsFrom_good rest v hi hfits
        rw [hrun, ih]
        constructor
        · rintro ⟨j,hij,hj,hlt,hbad,hbefore⟩
          refine ⟨j,by omega,by omega,hlt,hbad,fun l hil hl => ?_⟩
          rcases Nat.eq_or_lt_of_le hil with rfl | hil
          · exact hfits
          · exact hbefore l hil hl
        · rintro ⟨j,hij,hj,hlt,hbad,hbefore⟩
          rcases Nat.eq_or_lt_of_le hij with rfl | hij
          · exact absurd hfits hbad
          · exact ⟨j,hij,by omega,hlt,hbad,fun l hil hl => hbefore l (by omega) hl⟩
      · rw [copyPacketsFrom_bad hi hfits]
        exact iff_of_true ⟨_,rfl⟩ ⟨i,le_rfl,by omega,hi,hfits,by omega⟩
    · refine iff_of_false ?_ ?_
      · rintro ⟨w,h⟩
        simp [copyPacketsFrom, hi] at h
      · rintro ⟨j,hij,-,hlt,-⟩
        omega

/-- A loop that ends has accepted every packet or refused one. -/
theorem accepted_or_refused_of_copied {result : WhadResult}
    (h : copyPacketsFrom packets rest i v = some (result, w)) : Accepted packets i rest ∨ Refused packets i rest := by
  have hresult : result = .success ∨ result = .error := by
    induction rest generalizing i v with
    | zero =>
      obtain ⟨rfl,-⟩ := Prod.mk.inj (Option.some.inj h)
      exact .inl rfl
    | succ rest ih =>
      by_cases hi : i < 25
      · by_cases hfits : (packets i).Fits
        · obtain ⟨packet,-,hrun⟩ := copyPacketsFrom_good rest v hi hfits
          exact ih (hrun.symm.trans h)
        · rw [copyPacketsFrom_bad hi hfits] at h
          obtain ⟨rfl,-⟩ := Prod.mk.inj (Option.some.inj h)
          exact .inr rfl
      · simp [copyPacketsFrom, hi] at h
  obtain rfl | rfl := hresult
  · exact .inl (copyPacketsFrom_success h).1
  · exact .inr (copyPacketsFrom_error_iff.mp ⟨w,h⟩)

/-- Within the array there is nothing else to meet. -/
theorem accepted_or_refused (h : i+rest ≤ 25) : Accepted packets i rest ∨ Refused packets i rest := by
  by_cases hall : ∀ j, i ≤ j → j < i+rest → (packets j).Fits
  · exact .inl ⟨.inr h,hall⟩
  · have hbad : ∃ j, i ≤ j ∧ j < i+rest ∧ ¬(packets j).Fits := by
      push Not at hall
      obtain ⟨j,hij,hj,hfits⟩ := hall
      exact ⟨j,hij,hj,hfits⟩
    obtain ⟨hij,hj,hfits⟩ := Nat.find_spec hbad
    refine .inr ⟨Nat.find hbad,hij,hj,by omega,hfits,fun l hil hl => ?_⟩
    by_contra hl'
    exact Nat.find_min hbad hl ⟨hil,by omega,hl'⟩

section
variable {pktCount : ℤ} {p : PrepareSequenceCmd}

theorem whadBleSequenceCopyPackets_of_pos (h : 0 < pktCount) :
    whadBleSequenceCopyPackets (some packets) pktCount p =
      (copyPacketsFrom packets pktCount.toNat 0 p.sequence.items).map fun copied =>
        (copied.1,{ p with sequence := ⟨sizeOf16 pktCount,copied.2⟩ }) := by
  simp only [whadBleSequenceCopyPackets, if_pos h]
  exact (Option.map_eq_bind ..).symm

/-- Without packets only the count is stored. -/
theorem whadBleSequenceCopyPackets_of_nonpos {pPackets : Option (ℕ → PreparedPacket)} (h : pktCount ≤ 0) :
    whadBleSequenceCopyPackets pPackets pktCount p =
      done { p with sequence := { p.sequence with count := sizeOf16 pktCount } } :=
  if_neg (not_lt.mpr h)

end
end
end Ble
end WhadLib
