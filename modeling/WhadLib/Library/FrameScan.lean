import Mathlib.Data.List.Basic
import Mathlib.Tactic.Linarith

/-! Self-synchronising framing over a symbol stream. A frame is a header of fixed length that
announces the length of the payload behind it. The scanner looks for the first position that
holds a valid header, waits until the whole payload is there, delivers it and continues right
behind it; a position without a valid header is passed over. -/
namespace WhadLib.Library
variable {α : Type*}

/-- A header format: `payloadLen` reads the first `headerLen` symbols and gives the announced
payload length, or `none` when they are no valid header. -/
structure FrameFormat (α : Type*) where
  headerLen : ℕ
  headerLen_pos : 0 < headerLen
  payloadLen : List α → Option ℕ

namespace FrameFormat
variable (F : FrameFormat α)

/-- The payload length announced at the front of a stream, `none` also when it is too short. -/
def announced (s : List α) : Option ℕ :=
  if s.length < F.headerLen then none else F.payloadLen (s.take F.headerLen)

/-- The payload of a complete valid frame at the front of a stream. -/
def frameAt (s : List α) : Option (List α) :=
  match F.announced s with
  | none => none
  | some n => if F.headerLen + n ≤ s.length then some ((s.drop F.headerLen).take n) else none

/-- The scanner stands still: the header is not complete yet, or it is valid and part of the
payload it announces is missing. -/
def Waits (s : List α) : Prop :=
  s.length < F.headerLen ∨ ∃ n, F.announced s = some n ∧ s.length < F.headerLen + n

/-- The scanner passes over the first symbol. -/
def Passes (s : List α) : Prop := F.headerLen ≤ s.length ∧ F.announced s = none

/-- The frames the scanner delivers, each with the position of its header; `i` is the position
of the first symbol of `s`. -/
def scanFrom (i : ℕ) (s : List α) : List (ℕ × List α) :=
  if _hlen : s.length < F.headerLen then []
  else match F.announced s with
    | none => scanFrom (i+1) (s.drop 1)
    | some n =>
      if F.headerLen + n ≤ s.length then
        (i,(s.drop F.headerLen).take n) :: scanFrom (i+(F.headerLen+n)) (s.drop (F.headerLen+n))
      else []
  termination_by s.length
  decreasing_by
    all_goals
      have hpos := F.headerLen_pos
      simp only [List.length_drop]
      omega

/-- The payloads the scanner delivers. -/
def scan (s : List α) : List (List α) := (F.scanFrom 0 s).map Prod.snd

theorem frameAt_of_announced {s : List α} {n : ℕ} (hn : F.announced s = some n)
    (hfit : F.headerLen + n ≤ s.length) : F.frameAt s = some ((s.drop F.headerLen).take n) := by
  simp [frameAt, hn, hfit]

/-- A stream starts with a complete frame, stands still, or its first symbol is passed over. -/
theorem frameAt_or_waits_or_passes (s : List α) :
    (∃ p, F.frameAt s = some p) ∨ F.Waits s ∨ F.Passes s := by
  by_cases hlen : s.length < F.headerLen
  · exact .inr (.inl (.inl hlen))
  · cases hn : F.announced s with
    | none => exact .inr (.inr ⟨by omega,hn⟩)
    | some n =>
      by_cases hfit : F.headerLen + n ≤ s.length
      · exact .inl ⟨_,F.frameAt_of_announced hn hfit⟩
      · exact .inr (.inl (.inr ⟨n,hn,by omega⟩))

theorem announced_of_frameAt {s p : List α} (h : F.frameAt s = some p) :
    F.announced s = some p.length ∧ F.headerLen + p.length ≤ s.length ∧
      p = (s.drop F.headerLen).take p.length := by
  unfold frameAt at h
  cases hn : F.announced s with
  | none => simp [hn] at h
  | some n =>
    by_cases hfit : F.headerLen + n ≤ s.length
    · simp only [hn, hfit, if_true, Option.some.injEq] at h
      have hlen : p.length = n := by
        rw [← h, List.length_take, List.length_drop]
        omega
      exact ⟨by rw [hlen],by omega,by rw [hlen, h]⟩
    · simp [hn, hfit] at h

theorem headerLen_le_of_announced {s : List α} {n : ℕ} (h : F.announced s = some n) :
    F.headerLen ≤ s.length := by
  by_contra hlt
  simp [announced, show s.length < F.headerLen by omega] at h

theorem scanFrom_of_frameAt {s p : List α} (h : F.frameAt s = some p) (i : ℕ) :
    F.scanFrom i s =
      (i,p) :: F.scanFrom (i+(F.headerLen+p.length)) (s.drop (F.headerLen+p.length)) := by
  obtain ⟨hn,hfit,hp⟩ := F.announced_of_frameAt h
  have hlen := F.headerLen_le_of_announced hn
  rw [scanFrom]
  simp [hn, hfit, hlen, ← hp]

theorem scanFrom_of_waits {s : List α} (h : F.Waits s) (i : ℕ) : F.scanFrom i s = [] := by
  rw [scanFrom]
  rcases h with hlen | ⟨n,hn,hfit⟩
  · simp [hlen]
  · simp [hn, show ¬F.headerLen + n ≤ s.length by omega]

theorem scanFrom_of_passes {s : List α} (h : F.Passes s) (i : ℕ) :
    F.scanFrom i s = F.scanFrom (i+1) (s.drop 1) := by
  rw [scanFrom]
  simp [h.2, h.1]

/-- The payloads do not depend on where the stream starts. -/
theorem scanFrom_payloads (i j : ℕ) (s : List α) :
    (F.scanFrom i s).map Prod.snd = (F.scanFrom j s).map Prod.snd := by
  induction hs : s.length using Nat.strong_induction_on generalizing i j s with
  | _ m ih =>
    have hpos := F.headerLen_pos
    rcases F.frameAt_or_waits_or_passes s with ⟨p,hp⟩ | hw | hp
    · have hfit := (F.announced_of_frameAt hp).2.1
      rw [scanFrom_of_frameAt _ hp, scanFrom_of_frameAt _ hp, List.map_cons, List.map_cons]
      congr 1
      exact ih _ (by rw [List.length_drop]; omega) _ _ _ rfl
    · rw [scanFrom_of_waits _ hw, scanFrom_of_waits _ hw]
    · have hlen := hp.1
      rw [scanFrom_of_passes _ hp, scanFrom_of_passes _ hp]
      exact ih _ (by rw [List.length_drop]; omega) _ _ _ rfl

/-- A complete frame at the front is delivered first. -/
theorem scan_of_frameAt {s p : List α} (h : F.frameAt s = some p) :
    F.scan s = p :: F.scan (s.drop (F.headerLen+p.length)) := by
  rw [scan, scanFrom_of_frameAt _ h, List.map_cons, scanFrom_payloads _ _ 0]
  rfl

theorem scan_of_waits {s : List α} (h : F.Waits s) : F.scan s = [] := by
  rw [scan, scanFrom_of_waits _ h, List.map_nil]

/-- No header at the front: the first symbol can be dropped, also from a stream that is still
too short to hold a header. -/
theorem scan_drop_one {s : List α} (h : F.announced s = none) : F.scan s = F.scan (s.drop 1) := by
  by_cases hlen : s.length < F.headerLen
  · have hshort : F.Waits (s.drop 1) := .inl (by rw [List.length_drop]; omega)
    rw [F.scan_of_waits (.inl hlen), F.scan_of_waits hshort]
  · rw [scan, F.scanFrom_of_passes ⟨by omega,h⟩, scanFrom_payloads _ _ 0]
    rfl

/-- A header that is there stays there when the stream grows. -/
theorem announced_append {s : List α} (h : F.headerLen ≤ s.length) (t : List α) :
    F.announced (s ++ t) = F.announced s := by
  have hs : ¬s.length < F.headerLen := by omega
  have hst : ¬(s ++ t).length < F.headerLen := by simp; omega
  rw [announced, announced, if_neg hs, if_neg hst, List.take_append_of_le_length h]

/-- A complete frame stays complete when the stream grows. -/
theorem frameAt_append {s p : List α} (h : F.frameAt s = some p) (t : List α) :
    F.frameAt (s ++ t) = some p := by
  obtain ⟨hn,hfit,hp⟩ := F.announced_of_frameAt h
  have hn' : F.announced (s ++ t) = some p.length := by
    rw [F.announced_append (by omega), hn]
  have hfit' : F.headerLen + p.length ≤ (s ++ t).length := by simp; omega
  rw [frameAt, hn']
  simp only [hfit', if_true, Option.some.injEq]
  rw [List.drop_append_of_le_length (by omega), List.take_append_of_le_length, ← hp]
  rw [List.length_drop]
  omega

/-- Scanning what a sender wrote gives back its payloads: `header n` stands for a valid header
that announces `n`. -/
theorem scan_encode (header : ℕ → List α) (limit : ℕ)
    (hheader : ∀ n ≤ limit, (header n).length = F.headerLen ∧ F.payloadLen (header n) = some n)
    (ps : List (List α)) (hps : ∀ p ∈ ps, p.length ≤ limit) :
    F.scan (ps.map fun p => header p.length ++ p).flatten = ps := by
  induction ps with
  | nil =>
    have hpos := F.headerLen_pos
    exact F.scan_of_waits (.inl (by simpa using hpos))
  | cons p ps ih =>
    obtain ⟨hlen,hval⟩ := hheader p.length (hps p (by simp))
    have hframe : F.frameAt (header p.length ++ p) = some p := by
      have hn : F.announced (header p.length ++ p) = some p.length := by
        rw [F.announced_append (by omega), announced, if_neg (by omega), ← hlen, List.take_length, hval]
      rw [frameAt, hn]
      simp [← hlen]
    rw [List.map_cons, List.flatten_cons, F.scan_of_frameAt (F.frameAt_append hframe _)]
    rw [List.drop_left' (by simp [hlen]), ih fun q hq => hps q (by simp [hq])]

/-- No complete frame is lost: one that starts at `j` is delivered, or `j` lies inside a frame
that is delivered, or the scanner is still waiting for a payload announced before `j`. -/
theorem scanFrom_covers (i : ℕ) (s : List α) (j : ℕ) (p : List α)
    (h : F.frameAt (s.drop j) = some p) :
    (i+j,p) ∈ F.scanFrom i s ∨
      (∃ q ∈ F.scanFrom i s, q.1 < i+j ∧ i+j < q.1 + (F.headerLen+q.2.length)) ∨
      ∃ k n, k < j ∧ F.announced (s.drop k) = some n ∧ s.length < k + (F.headerLen+n) := by
  induction hs : s.length using Nat.strong_induction_on generalizing i s j with
  | _ m ih =>
    have hpos := F.headerLen_pos
    have hfitj := (F.announced_of_frameAt h).2.1
    rw [List.length_drop] at hfitj
    rcases F.frameAt_or_waits_or_passes s with ⟨q,hq⟩ | hw | hpass
    · have hfit := (F.announced_of_frameAt hq).2.1
      rw [scanFrom_of_frameAt _ hq]
      by_cases hj0 : j = 0
      · subst hj0
        rw [List.drop_zero, hq] at h
        have hqp := Option.some.inj h
        left
        simp [hqp]
      by_cases hin : j < F.headerLen + q.length
      · right; left
        exact ⟨(i,q),by simp,by simp only; omega,by simp only; omega⟩
      · -- the frame starts behind `q`: continue there
        have hdrop : (s.drop (F.headerLen+q.length)).drop (j - (F.headerLen+q.length)) = s.drop j := by
          rw [List.drop_drop]
          congr 1
          omega
        have hrest := ih _ (by rw [List.length_drop]; omega) (i+(F.headerLen+q.length))
          (s.drop (F.headerLen+q.length)) (j - (F.headerLen+q.length)) (by rw [hdrop]; exact h) rfl
        rw [show i+(F.headerLen+q.length)+(j - (F.headerLen+q.length)) = i+j by omega] at hrest
        rcases hrest with hd | ⟨r,hr,hin⟩ | ⟨k,n,hk,hn,hwait⟩
        · exact .inl (List.mem_cons_of_mem _ hd)
        · exact .inr (.inl ⟨r,List.mem_cons_of_mem _ hr,hin⟩)
        · rw [List.drop_drop] at hn
          rw [List.length_drop] at hwait
          exact .inr (.inr ⟨F.headerLen+q.length+k,n,by omega,hn,by omega⟩)
    · by_cases hj0 : j = 0
      · subst hj0
        rw [List.drop_zero] at h
        have hn := F.announced_of_frameAt h
        rcases hw with hlen | ⟨n,hn',hlt⟩
        · omega
        · rw [hn.1, Option.some.injEq] at hn'
          omega
      · rcases hw with hlen | ⟨n,hn,hlt⟩
        · omega
        · exact .inr (.inr ⟨0,n,by omega,by simpa using hn,by omega⟩)
    · have hlen := hpass.1
      rw [scanFrom_of_passes _ hpass]
      have hj0 : j ≠ 0 := by
        rintro rfl
        rw [List.drop_zero] at h
        have hn := (F.announced_of_frameAt h).1
        rw [hpass.2] at hn
        contradiction
      have hdrop : (s.drop 1).drop (j-1) = s.drop j := by
        rw [List.drop_drop]
        congr 1
        omega
      have hrest := ih _ (by rw [List.length_drop]; omega) (i+1) (s.drop 1) (j-1) (by rw [hdrop]; exact h) rfl
      rw [show i+1+(j-1) = i+j by omega] at hrest
      rcases hrest with hd | hin | ⟨k,n,hk,hn,hwait⟩
      · exact .inl hd
      · exact .inr (.inl hin)
      · rw [List.drop_drop] at hn
        rw [List.length_drop] at hwait
        exact .inr (.inr ⟨1+k,n,by omega,hn,by omega⟩)

end FrameFormat
end WhadLib.Library
