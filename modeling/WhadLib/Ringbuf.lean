import WhadLib.Types
import WhadLib.Library.CircularWindow

/-! The byte ring buffer. Head and tail are indices into an array of 1024 cells, one of which
always stays free, so 1023 elements fit. The cell type is a parameter: the transport stores
bytes, the study of concurrent senders stores bytes together with their origin.

The second half shows that the buffer is a bounded FIFO: `toList` is its content, oldest
element first, and every operation is described by what it does to that list. -/
namespace WhadLib
open Library

/-- `WHAD_RINGBUF_MAX_SIZE`. -/
def ringbufMaxSize : ℕ := 1024

/-- `WHAD_RINGBUF_CAPACITY`. -/
def ringbufCapacity : ℕ := ringbufMaxSize - 1

instance : NeZero ringbufMaxSize := ⟨by decide⟩

/-- `whad_ringbuf_t`: both indices stay inside the array. -/
structure Ringbuf (α : Type*) where
  head : Fin ringbufMaxSize
  tail : Fin ringbufMaxSize
  data : Vector α ringbufMaxSize

namespace Ringbuf
variable {α β : Type*}

/-- The array keeps whatever it held. -/
def init (r : Ringbuf α) : Ringbuf α := { r with head := 0, tail := 0 }

def getSize (r : Ringbuf α) : ℕ := (ringbufMaxSize + r.head - r.tail) % ringbufMaxSize

def getFreeSize (r : Ringbuf α) : ℕ := ringbufCapacity - r.getSize

def push (r : Ringbuf α) (x : α) : WhadResult × Ringbuf α :=
  if 0 < r.getFreeSize then
    (.success, { r with
      head := Fin.ofNat ringbufMaxSize (r.head + 1)
      data := r.data.set r.head x r.head.isLt })
  else (.ringbufFull, r)

/-- The removed element is `none` when the buffer is empty. -/
def pull (r : Ringbuf α) : WhadResult × Option α × Ringbuf α :=
  if 0 < r.getSize then
    (.success, some (r.data.get r.tail), { r with tail := Fin.ofNat ringbufMaxSize (r.tail + 1) })
  else (.ringbufEmpty, none, r)

/-- The elements written to the destination: the two `memcpy` runs of the source. -/
def copy (r : Ringbuf α) (size : ℕ) : WhadResult × List α :=
  if r.getSize < size then (.error, [])
  else if ringbufMaxSize < r.tail + size then
    let fh := ringbufMaxSize - r.tail
    let sh := (size - fh) % ringbufMaxSize
    (.success, straight r.data r.tail fh ++ straight r.data 0 sh)
  else (.success, straight r.data r.tail size)

def skip (r : Ringbuf α) (size : ℕ) : WhadResult × Ringbuf α :=
  if r.getSize < size then (.error, r)
  else (.success, { r with tail := Fin.ofNat ringbufMaxSize (r.tail + size) })

/-- The buffered elements, oldest first. -/
def toList (r : Ringbuf α) : List α := window r.data r.tail r.getSize

/-- Apply a function to every cell, used or not. -/
def map (f : α → β) (r : Ringbuf α) : Ringbuf β := ⟨r.head,r.tail,r.data.map f⟩

theorem getSize_le (r : Ringbuf α) : r.getSize ≤ ringbufCapacity := by
  have h : r.getSize < ringbufMaxSize := Nat.mod_lt _ (by decide)
  unfold ringbufCapacity
  omega

@[simp] theorem toList_length (r : Ringbuf α) : r.toList.length = r.getSize := by simp [toList]

theorem toList_length_le (r : Ringbuf α) : r.toList.length ≤ ringbufCapacity := by
  simpa using r.getSize_le

theorem getFreeSize_eq (r : Ringbuf α) : r.getFreeSize = ringbufCapacity - r.toList.length := by
  rw [getFreeSize, toList_length]

theorem toList_length_add_getFreeSize (r : Ringbuf α) :
    r.toList.length + r.getFreeSize = ringbufCapacity := by
  have h := r.getSize_le
  rw [toList_length, getFreeSize]
  omega

@[simp] theorem toList_init (r : Ringbuf α) : r.init.toList = [] := by simp [toList, init, getSize]

/-- The head is the slot behind the last buffered element. -/
theorem head_eq (r : Ringbuf α) : (r.head : ℕ) = (r.tail + r.getSize) % ringbufMaxSize := by
  have hh := r.head.isLt
  have ht := r.tail.isLt
  unfold getSize
  simp only [ringbufMaxSize] at hh ht ⊢
  omega

/-- A buffer with room takes the element at its end. -/
theorem push_of_lt (r : Ringbuf α) (x : α) (h : r.toList.length < ringbufCapacity) :
    (r.push x).1 = .success ∧ (r.push x).2.toList = r.toList ++ [x] := by
  have hfree : 0 < r.getFreeSize := by
    have := r.toList_length_add_getFreeSize
    omega
  have hsize : r.getSize < ringbufCapacity := by simpa using h
  unfold push
  rw [if_pos hfree]
  refine ⟨rfl,?_⟩
  have hnext : (ringbufMaxSize + (r.head + 1) % ringbufMaxSize - r.tail) % ringbufMaxSize = r.getSize + 1 := by
    have hh := r.head.isLt
    have ht := r.tail.isLt
    unfold getSize at hsize ⊢
    simp only [ringbufCapacity, ringbufMaxSize] at hh ht hsize ⊢
    omega
  change window (r.data.set r.head x r.head.isLt) r.tail
    ((ringbufMaxSize + (r.head + 1) % ringbufMaxSize - r.tail) % ringbufMaxSize) = r.toList ++ [x]
  rw [hnext]
  simp only [r.head_eq]
  exact window_set r.data r.tail r.getSize x (by unfold ringbufCapacity at hsize; omega) _

/-- A full buffer refuses the element and stays as it is. -/
theorem push_of_full (r : Ringbuf α) (x : α) (h : r.toList.length = ringbufCapacity) :
    r.push x = (.ringbufFull, r) := by
  have hfree : ¬0 < r.getFreeSize := by
    have := r.toList_length_add_getFreeSize
    omega
  rw [push, if_neg hfree]

theorem push_result (r : Ringbuf α) (x : α) :
    (r.push x).1 = .success ∧ r.toList.length < ringbufCapacity ∨
      (r.push x).1 = .ringbufFull ∧ r.toList.length = ringbufCapacity := by
  by_cases h : r.toList.length < ringbufCapacity
  · exact .inl ⟨(r.push_of_lt x h).1,h⟩
  · have hfull : r.toList.length = ringbufCapacity := by
      have := r.toList_length_le
      omega
    exact .inr ⟨by rw [r.push_of_full x hfull],hfull⟩

/-- Removing from the front. -/
theorem pull_of_cons (r : Ringbuf α) (x : α) (xs : List α) (h : r.toList = x :: xs) :
    (r.pull).1 = .success ∧ (r.pull).2.1 = some x ∧ (r.pull).2.2.toList = xs := by
  have hsize : r.getSize = xs.length + 1 := by rw [← toList_length, h, List.length_cons]
  unfold pull
  rw [if_pos (by omega)]
  have hnext : (ringbufMaxSize + r.head - (r.tail + 1) % ringbufMaxSize) % ringbufMaxSize = xs.length := by
    have hh := r.head.isLt
    have ht := r.tail.isLt
    unfold getSize at hsize
    simp only [ringbufMaxSize] at hh ht hsize ⊢
    omega
  have hsplit := window_append r.data r.tail 1 xs.length
  rw [Nat.add_comm 1 xs.length, ← hsize] at hsplit
  rw [toList, ← hsplit] at h
  have hcell : window r.data r.tail 1 = [cell r.data r.tail] := rfl
  rw [hcell, List.singleton_append, List.cons.injEq] at h
  refine ⟨rfl,?_,?_⟩
  · rw [← h.1]
    simp [cell, Vector.get, Nat.mod_eq_of_lt r.tail.isLt]
  · simp only [toList, getSize, Fin.val_ofNat]
    rw [hnext, window_mod, h.2]

/-- Copying hands out the oldest elements, also across the end of the array. -/
theorem copy_of_le (r : Ringbuf α) (size : ℕ) (h : size ≤ r.toList.length) :
    r.copy size = (.success, r.toList.take size) := by
  have hsize : size ≤ r.getSize := by simpa using h
  have hle := r.getSize_le
  have ht := r.tail.isLt
  have htake : r.toList.take size = window r.data r.tail size :=
    window_take r.data r.tail r.getSize size hsize
  unfold copy
  rw [if_neg (by omega), htake]
  split
  · rename_i hwrap
    have hmod : (size - (ringbufMaxSize - r.tail)) % ringbufMaxSize = size - (ringbufMaxSize - r.tail) := by
      apply Nat.mod_eq_of_lt
      unfold ringbufCapacity at hle
      omega
    simp only [hmod, Prod.mk.injEq, true_and]
    exact straight_append_straight r.data r.tail size (by omega) (by omega)
      (by unfold ringbufCapacity at hle; omega)
  · rw [straight_eq_window r.data r.tail size (by omega)]

theorem copy_of_lt (r : Ringbuf α) (size : ℕ) (h : r.toList.length < size) :
    r.copy size = (.error, []) := by
  rw [toList_length] at h
  rw [copy, if_pos h]

/-- Skipping removes the oldest elements. -/
theorem skip_of_le (r : Ringbuf α) (size : ℕ) (h : size ≤ r.toList.length) :
    (r.skip size).1 = .success ∧ (r.skip size).2.toList = r.toList.drop size := by
  have hsize : size ≤ r.getSize := by simpa using h
  have hle := r.getSize_le
  unfold skip
  rw [if_neg (by omega)]
  refine ⟨rfl,?_⟩
  have hnext : (ringbufMaxSize + r.head - (r.tail + size) % ringbufMaxSize) % ringbufMaxSize =
      r.getSize - size := by
    have hh := r.head.isLt
    have ht := r.tail.isLt
    unfold getSize at hsize hle ⊢
    simp only [ringbufCapacity, ringbufMaxSize] at hh ht hsize hle ⊢
    omega
  simp only [toList, getSize, Fin.val_ofNat]
  rw [hnext, window_mod, window_drop]
  rfl

theorem skip_of_lt (r : Ringbuf α) (size : ℕ) (h : r.toList.length < size) :
    r.skip size = (.error, r) := by
  rw [toList_length] at h
  rw [skip, if_pos h]

/-! The operations do not look at the elements, so they commute with `map`. -/

@[simp] theorem getSize_map (f : α → β) (r : Ringbuf α) : (r.map f).getSize = r.getSize := rfl

@[simp] theorem getFreeSize_map (f : α → β) (r : Ringbuf α) :
    (r.map f).getFreeSize = r.getFreeSize := rfl

@[simp] theorem toList_map (f : α → β) (r : Ringbuf α) : (r.map f).toList = r.toList.map f :=
  window_map f r.data r.tail r.getSize

theorem map_map {γ : Type*} (g : β → γ) (f : α → β) (r : Ringbuf α) : (r.map f).map g = r.map (g ∘ f) := by
  simp [map]

@[simp] theorem map_id (r : Ringbuf α) : r.map id = r := by simp [map]

theorem push_map (f : α → β) (r : Ringbuf α) (x : α) :
    (r.map f).push (f x) = ((r.push x).1, (r.push x).2.map f) := by
  unfold push
  rw [getFreeSize_map]
  split <;> simp [map]

theorem skip_map (f : α → β) (r : Ringbuf α) (size : ℕ) :
    (r.map f).skip size = ((r.skip size).1, (r.skip size).2.map f) := by
  unfold skip
  rw [getSize_map]
  split <;> rfl

end Ringbuf
end WhadLib
