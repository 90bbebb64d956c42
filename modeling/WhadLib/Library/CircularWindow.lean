import Mathlib.Data.List.Basic
import Mathlib.Data.Fin.Basic
import Mathlib.Tactic.Linarith

/-! Windows of a circular array: the cells met when walking a fixed number of slots from a
start index, wrapping at the end. A queue kept in a circular array is such a window; this
module gives the list algebra of walking further, dropping a front, writing the slot behind
the window and copying a window in two straight runs. -/
namespace WhadLib.Library
variable {α β : Type*} {n : ℕ} [NeZero n]

/-- The cell at an index taken modulo the array size. -/
def cell (data : Vector α n) (i : ℕ) : α :=
  have h : i % n < n := Nat.mod_lt i (NeZero.pos n)
  data[i % n]

/-- The `len` cells found from index `start` on, indices taken modulo the array size. -/
def window (data : Vector α n) (start len : ℕ) : List α :=
  (List.range' start len).map (cell data)

omit [NeZero n] in
/-- A straight copy of `len` cells from `start`: it is shorter when the array ends first. -/
def straight (data : Vector α n) (start len : ℕ) : List α :=
  (data.toList.drop start).take len

@[simp] theorem window_length (data : Vector α n) (start len : ℕ) :
    (window data start len).length = len := by simp [window]

@[simp] theorem window_zero (data : Vector α n) (start : ℕ) : window data start 0 = [] := rfl

theorem window_append (data : Vector α n) (start a b : ℕ) :
    window data start a ++ window data (start + a) b = window data start (a + b) := by
  rw [window, window, ← List.map_append, List.range'_append_1]
  rfl

theorem window_drop (data : Vector α n) (start len k : ℕ) :
    (window data start len).drop k = window data (start + k) (len - k) := by
  rw [window, window, ← List.map_drop, List.drop_range', Nat.mul_one]

theorem window_take (data : Vector α n) (start len k : ℕ) (h : k ≤ len) :
    (window data start len).take k = window data start k := by
  have hsplit := window_append data start k (len - k)
  rw [Nat.add_sub_cancel' h] at hsplit
  rw [← hsplit]
  exact List.take_left' (by simp)

/-- Only the start modulo the array size matters. -/
theorem window_mod (data : Vector α n) (start len : ℕ) :
    window data (start % n) len = window data start len := by
  apply List.ext_getElem (by simp)
  intro i h₁ h₂
  simp [window, cell]

theorem window_succ (data : Vector α n) (start len : ℕ) :
    window data start (len + 1) = window data start len ++ [cell data (start + len)] := by
  rw [← window_append]
  rfl

omit [NeZero n] in
/-- Two offsets less than one turn apart never meet in the same slot. -/
theorem slot_ne_of_lt (start : ℕ) {i len : ℕ} (hi : i < len) (hlen : len < n) :
    (start + len) % n ≠ (start + i) % n := by
  intro h
  have hdvd : n ∣ start + len - (start + i) := Nat.dvd_of_mod_eq_zero (Nat.sub_mod_eq_zero_of_mod_eq h)
  have hle := Nat.le_of_dvd (by omega) hdvd
  omega

/-- Writing the slot right behind a window that leaves a cell free appends to it. -/
theorem window_set (data : Vector α n) (start len : ℕ) (x : α) (hlen : len < n)
    (hslot : (start + len) % n < n) :
    window (data.set ((start + len) % n) x hslot) start (len + 1) = window data start len ++ [x] := by
  rw [window_succ]
  congr 1
  · apply List.ext_getElem (by simp)
    intro i h₁ h₂
    have hi : i < len := by simpa using h₁
    have hne := slot_ne_of_lt start hi hlen
    simp [window, cell, hne]
  · simp [cell]

/-- A window that does not pass the end of the array is a straight copy. -/
theorem straight_eq_window (data : Vector α n) (start len : ℕ) (h : start + len ≤ n) :
    straight data start len = window data start len := by
  apply List.ext_getElem (by simp [straight]; omega)
  intro i h₁ h₂
  have hi : i < len := by simpa using h₂
  have hmod : (start + i) % n = start + i := Nat.mod_eq_of_lt (by omega)
  simp [straight, window, cell, hmod]

/-- A window that passes the end is the tail of the array followed by its beginning. -/
theorem straight_append_straight (data : Vector α n) (start len : ℕ) (hstart : start ≤ n)
    (hend : n ≤ start + len) (hlen : len ≤ n) :
    straight data start (n - start) ++ straight data 0 (len - (n - start)) = window data start len := by
  rw [straight_eq_window data start _ (by omega), straight_eq_window data 0 _ (by omega)]
  have hwrap : window data 0 (len - (n - start)) = window data (start + (n - start)) (len - (n - start)) := by
    rw [Nat.add_sub_cancel' hstart, ← window_mod data n, Nat.mod_self]
  rw [hwrap, window_append]
  congr 1
  omega

theorem window_map (f : α → β) (data : Vector α n) (start len : ℕ) :
    window (data.map f) start len = (window data start len).map f := by
  simp [window, cell]

end WhadLib.Library
