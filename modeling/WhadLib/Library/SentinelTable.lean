import Mathlib.Data.List.TakeWhile

/-! Tables that end with a sentinel. A loop walks a table up to the first entry that fails its test,
and passes what `takeWhile` keeps. It reads the whole table when its test fails at the sentinel and
nowhere before. -/
namespace WhadLib.Library
variable {α β : Type*} {p : α → Bool} {entries : List α} {last : α}

/-- The entries, the one that ends them, and whatever lies behind it in memory. -/
def sentinelTable (entries : List α) (last : α) (rest : List α) : List α := entries ++ last :: rest

/-- A loop that stops at the sentinel does not see what lies behind it. -/
theorem takeWhile_sentinelTable (hlast : p last = false) (rest : List α) :
    (sentinelTable entries last rest).takeWhile p = entries.takeWhile p := by
  induction entries with
  | nil => exact List.takeWhile_cons_of_neg (by simp [hlast])
  | cons a as ih =>
    rw [sentinelTable, List.cons_append, List.takeWhile_cons, List.takeWhile_cons]
    rw [sentinelTable] at ih
    rw [ih]

/-- Where every entry gives something, a loop gives all there is only when it passes every entry. -/
theorem flatMap_takeWhile_eq_iff {f : α → List β} (hf : ∀ a, f a ≠ []) :
    (entries.takeWhile p).flatMap f = entries.flatMap f ↔ ∀ a ∈ entries, p a = true := by
  rw [← List.takeWhile_eq_self_iff]
  constructor
  · intro h
    have hsplit := List.takeWhile_append_dropWhile (p := p) (l := entries)
    have hrest : (entries.dropWhile p).flatMap f = [] := by
      have hall : entries.flatMap f = (entries.takeWhile p).flatMap f ++ (entries.dropWhile p).flatMap f := by
        rw [← List.flatMap_append, hsplit]
      rw [h] at hall
      exact List.self_eq_append_right.mp hall
    have hnil : entries.dropWhile p = [] := by
      cases hdrop : entries.dropWhile p with
      | nil => rfl
      | cons a as =>
        rw [hdrop, List.flatMap_cons] at hrest
        exact absurd (List.append_eq_nil_iff.mp hrest).1 (hf a)
    rw [hnil, List.append_nil] at hsplit
    exact hsplit
  · intro h
    rw [h]

end WhadLib.Library
