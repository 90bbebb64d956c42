import Mathlib.Algebra.GroupWithZero.Nat
import WhadLib.Library.PrefixCode

/-! Readers and what their values cost. When no value costs more than what was taken for it, a whole list of
values costs no more than the list that it was read from. -/
namespace WhadLib.Library

/-- What a reader takes pays for the value. -/
def Reader.Pays {σ α : Type*} (r : Reader σ α) (cost : α → ℕ) : Prop :=
  ∀ s a rest, r s = some (a,rest) → cost a + rest.length ≤ s.length

namespace Reader.Pays
variable {σ α β : Type*} {r : Reader σ α} {cost : α → ℕ}

theorem map {f : α → β} {cost' : β → ℕ} (h : r.Pays cost) (hf : ∀ a, cost' (f a) ≤ cost a) : (r.map f).Pays cost' := by
  intro s b rest hb
  obtain ⟨⟨a,rest'⟩,ha,hmap⟩ := Option.map_eq_some_iff.mp hb
  obtain ⟨rfl,rfl⟩ := Prod.mk.inj hmap
  have hle := h s a rest' ha
  have hcost := hf a
  change cost' (f a) + rest'.length ≤ s.length
  omega

theorem check {p : α → Bool} (h : r.Pays cost) : (r.check p).Pays cost := by
  intro s a rest ha
  exact h s a rest (Option.filter_eq_some_iff.mp ha).1

theorem block (n : ℕ) : (Reader.block n : Reader σ (List σ)).Pays fun _ => n := by
  intro s a rest ha
  unfold Reader.block at ha
  split at ha
  · obtain ⟨-,rfl⟩ := Prod.mk.inj (Option.some.inj ha)
    change n + (s.drop n).length ≤ s.length
    rw [List.length_drop]
    omega
  · contradiction

/-- What was taken for the second value pays for it, whatever the first one was. -/
theorem bind {next : α → Reader σ β} {cost' : α → β → ℕ} {total : β → ℕ} (h : r.Pays cost)
    (hnext : ∀ a, (next a).Pays (cost' a))
    (htotal : ∀ a s b rest, next a s = some (b,rest) → total b ≤ cost a + cost' a b) : (r.bind next).Pays total := by
  intro s b rest hb
  obtain ⟨⟨a,s'⟩,ha,hb⟩ := Option.bind_eq_some_iff.mp hb
  have hfirst := h s a s' ha
  have hsecond := hnext a s' b rest hb
  have hle := htotal a s' b rest hb
  omega

/-- The values of a whole list. -/
theorem repeated (h : r.Pays cost) {fuel : ℕ} {s : List σ} {as : List α} (has : r.repeated fuel s = some as) :
    (as.map cost).sum ≤ s.length := by
  induction fuel generalizing s as with
  | zero =>
    cases s with
    | nil =>
      obtain rfl := Option.some.inj has
      exact Nat.zero_le _
    | cons x s => contradiction
  | succ fuel ih =>
    cases s with
    | nil =>
      obtain rfl := Option.some.inj has
      exact Nat.zero_le _
    | cons x s =>
      obtain ⟨⟨a,rest⟩,ha,hrest⟩ := Option.bind_eq_some_iff.mp has
      obtain ⟨as',has',rfl⟩ := Option.map_eq_some_iff.mp hrest
      have hfirst : cost a + rest.length ≤ (x :: s).length := h _ a rest ha
      have hothers : (as'.map cost).sum ≤ rest.length := ih has'
      change (cost a :: as'.map cost).sum ≤ _
      rw [List.sum_cons]
      omega

theorem all (h : r.Pays cost) {s : List σ} {as : List α} (has : r.all s = some as) : (as.map cost).sum ≤ s.length :=
  h.repeated has

end Reader.Pays
end WhadLib.Library
