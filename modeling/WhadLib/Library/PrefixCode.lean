import Mathlib.Data.List.Basic

/-! Codes that end themselves: a reader takes one value off the front of a list and hands back what lies
behind it. A list codes a value when the reader takes just this list, whatever lies behind it, so
that codes can stand one behind the other. -/
namespace WhadLib.Library

/-- Takes a value off the front of a list. -/
abbrev Reader (σ α : Type*) := List σ → Option (α × List σ)

/-- The reader takes `xs` off the front of any list as the value `a`. -/
def Codes {σ α : Type*} (r : Reader σ α) (xs : List σ) (a : α) : Prop := ∀ rest, r (xs ++ rest) = some (a,rest)

namespace Reader
variable {σ α β : Type*}

/-- The second reader may depend on what the first one took. -/
def bind (r : Reader σ α) (next : α → Reader σ β) : Reader σ β := fun s => (r s).bind fun x => next x.1 x.2

def map (r : Reader σ α) (f : α → β) : Reader σ β := fun s => (r s).map fun x => (f x.1,x.2)

/-- Refuse some of the values. -/
def check (r : Reader σ α) (p : α → Bool) : Reader σ α := fun s => (r s).filter fun x => p x.1

/-- A fixed number of elements. -/
def block (n : ℕ) : Reader σ (List σ) := fun s => if n ≤ s.length then some (s.take n,s.drop n) else none

/-- Elements behind their number. -/
def delimited (length : Reader σ ℕ) : Reader σ (List σ) := length.bind block

/-- Values up to the end of the list; the number bounds them. -/
def repeated (r : Reader σ α) : ℕ → List σ → Option (List α)
  | _, [] => some []
  | 0, _ :: _ => none
  | fuel+1, x :: xs => (r (x :: xs)).bind fun a => (repeated r fuel a.2).map fun as => a.1 :: as

/-- The values of a whole list. -/
def all (r : Reader σ α) (s : List σ) : Option (List α) := r.repeated s.length s

end Reader

namespace Codes
variable {σ α β : Type*} {r : Reader σ α} {xs ys : List σ} {a b : α}

theorem bind {next : α → Reader σ β} {c : β} (h : Codes r xs a) (hnext : Codes (next a) ys c) :
    Codes (r.bind next) (xs ++ ys) c := by
  intro rest
  rw [Reader.bind, List.append_assoc, h (ys ++ rest)]
  exact hnext rest

theorem map (h : Codes r xs a) (f : α → β) : Codes (r.map f) xs (f a) := by
  intro rest
  rw [Reader.map, h rest]
  rfl

theorem check {p : α → Bool} (h : Codes r xs a) (ha : p a = true) : Codes (r.check p) xs a := by
  intro rest
  rw [Reader.check, h rest]
  exact Option.filter_some_pos ha

theorem block (xs : List σ) : Codes (Reader.block xs.length) xs xs := by
  intro rest
  rw [Reader.block, if_pos (by simp), List.take_left, List.drop_left]

theorem delimited {length : Reader σ ℕ} (h : Codes length xs ys.length) :
    Codes (Reader.delimited length) (xs ++ ys) ys := h.bind (block ys)

/-- Codes one behind the other are read one by one. -/
theorem repeated {write : α → List σ} {as : List α} (h : ∀ a ∈ as, Codes r (write a) a ∧ write a ≠ []) {fuel : ℕ}
    (hfuel : (as.flatMap write).length ≤ fuel) : r.repeated fuel (as.flatMap write) = some as := by
  induction as generalizing fuel with
  | nil => cases fuel <;> rfl
  | cons a as ih =>
    obtain ⟨hcode,hne⟩ := h a List.mem_cons_self
    obtain ⟨x,xs,hwrite⟩ := List.exists_cons_of_ne_nil hne
    rw [List.flatMap_cons, List.length_append, hwrite, List.length_cons] at hfuel
    obtain ⟨fuel,rfl⟩ : ∃ n, fuel = n+1 := ⟨fuel-1,by omega⟩
    have hread : r (x :: (xs ++ as.flatMap write)) = some (a,as.flatMap write) := by
      rw [← List.cons_append, ← hwrite]
      exact hcode _
    rw [List.flatMap_cons, hwrite, List.cons_append, Reader.repeated, hread, Option.bind_some,
      ih (fun a ha => h a (List.mem_cons_of_mem _ ha)) (by omega)]
    rfl

theorem all {write : α → List σ} {as : List α} (h : ∀ a ∈ as, Codes r (write a) a ∧ write a ≠ []) :
    r.all (as.flatMap write) = some as := repeated h (Nat.le_refl _)

end Codes
end WhadLib.Library
