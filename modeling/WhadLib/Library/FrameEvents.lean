import WhadLib.Library.FrameScan

/-! A scanner that also tells of the headers that it refuses. Its payloads are those of the plain one. -/
namespace WhadLib.Library.FrameFormat
variable {α : Type*}

/-- What a scanner comes across. -/
inductive Event (α : Type*)
  | payload (p : List α)
  | refused
  deriving DecidableEq, Repr

def Event.payload? : Event α → Option (List α)
  | .payload p => some p
  | .refused => none

variable (F : FrameFormat α) (refuses : List α → Bool)

/-- What the header at which nothing starts counts as. -/
def refusal (s : List α) : List (Event α) := if refuses (s.take F.headerLen) then [.refused] else []

/-- The payloads and the refusals, in the order of their headers. -/
def events (s : List α) : List (Event α) :=
  if _hlen : s.length < F.headerLen then []
  else match F.announced s with
    | none => F.refusal refuses s ++ events (s.drop 1)
    | some n =>
      if F.headerLen + n ≤ s.length then .payload ((s.drop F.headerLen).take n) :: events (s.drop (F.headerLen+n))
      else []
  termination_by s.length
  decreasing_by
    all_goals
      have hpos := F.headerLen_pos
      simp only [List.length_drop]
      omega

variable {F} {refuses} {s p : List α}

theorem events_of_frameAt (h : F.frameAt s = some p) :
    F.events refuses s = .payload p :: F.events refuses (s.drop (F.headerLen+p.length)) := by
  obtain ⟨hn,hfit,hp⟩ := F.announced_of_frameAt h
  have hlen := F.headerLen_le_of_announced hn
  rw [events]
  simp [hn, hfit, hlen, ← hp]

theorem events_of_waits (h : F.Waits s) : F.events refuses s = [] := by
  rw [events]
  rcases h with hlen | ⟨n,hn,hfit⟩
  · simp [hlen]
  · simp [hn, show ¬F.headerLen + n ≤ s.length by omega]

theorem events_of_passes (h : F.Passes s) : F.events refuses s = F.refusal refuses s ++ F.events refuses (s.drop 1) := by
  rw [events]
  simp [h.2, h.1]

theorem payload?_refusal (s : List α) : (F.refusal refuses s).filterMap Event.payload? = [] := by
  unfold refusal
  split <;> rfl

/-- The payloads among the events are those that the scanner delivers. -/
theorem events_payloads (s : List α) : (F.events refuses s).filterMap Event.payload? = F.scan s := by
  induction hs : s.length using Nat.strong_induction_on generalizing s with
  | _ m ih =>
    have hpos := F.headerLen_pos
    rcases F.frameAt_or_waits_or_passes s with ⟨p,hp⟩ | hw | hp
    · have hfit := (F.announced_of_frameAt hp).2.1
      have hrest := ih _ (by rw [List.length_drop]; omega) (s.drop (F.headerLen+p.length)) rfl
      rw [events_of_frameAt hp, F.scan_of_frameAt hp, ← hrest]
      rfl
    · rw [events_of_waits hw, F.scan_of_waits hw]
      rfl
    · have hlen := hp.1
      rw [events_of_passes hp, F.scan_drop_one hp.2, List.filterMap_append, payload?_refusal, List.nil_append,
        ih _ (by rw [List.length_drop]; omega) _ rfl]

/-- At a position without a header that is complete and refused nothing happens, also when the stream is
still too short for a header. -/
theorem events_drop_one (h : F.announced s = none) (hrefused : F.headerLen ≤ s.length → F.refusal refuses s = []) :
    F.events refuses s = F.events refuses (s.drop 1) := by
  by_cases hlen : F.headerLen ≤ s.length
  · rw [events_of_passes ⟨hlen,h⟩, hrefused hlen, List.nil_append]
  · have hshort : (s.drop 1).length < F.headerLen := by
      rw [List.length_drop]
      omega
    rw [events_of_waits (.inl (by omega)), events_of_waits (.inl hshort)]

end WhadLib.Library.FrameFormat
