import Mathlib.Data.List.OfFn
import Mathlib.Data.Vector.Basic
import WhadLib.Library.CData

/-! Copies between arrays of C. A pointer is what memory reads as from it on, byte by byte. A copy that
would leave its destination has no result; what it does not cover keeps its value. -/
namespace WhadLib.Library

/-- What memory reads as from a pointer on. -/
abbrev Buffer := ℕ → UInt8

/-- The first bytes behind a pointer. -/
def Buffer.take (src : Buffer) (n : ℕ) : List UInt8 := (List.range n).map src

/-- Two pointers to arrays that are alike up to an index. -/
def Agree {α : Type} (length : ℤ) (src src' : ℕ → α) : Prop := ∀ i : ℕ, (i : ℤ) < length → src' i = src i

/-- A pointer to an array. -/
def bufferOf {n : ℕ} (v : Vector UInt8 n) : Buffer := fun i => v.toArray.getD i 0

/-- The array that a fixed number of bytes is copied into. -/
def copyOf {n : ℕ} (src : Buffer) : Vector UInt8 n := Vector.ofFn fun i => src i

/-- `memcpy` into an array. A negative length is an enormous `size_t`. -/
def memcpy {n : ℕ} (dst : Vector UInt8 n) (src : Buffer) (length : ℤ) : Option (Vector UInt8 n) :=
  if 0 ≤ length ∧ length ≤ n then
    some (Vector.ofFn fun i => if (i : ℤ) < length then src i else dst[i])
  else none

/-- `memset` of a whole array. -/
def memset {n : ℕ} (value : UInt8) : Vector UInt8 n := Vector.replicate n value

/-- A number stored in a `pb_size_t`, which has 16 bits. -/
def sizeOf16 (length : ℤ) : ℕ := (length % 65536).toNat

namespace BytesArray
variable {n : ℕ}

/-- Store the length as the size, and copy that many bytes. -/
def fill (x : BytesArray n) (src : Buffer) (length : ℤ) : Option (BytesArray n) :=
  (memcpy x.bytes src length).map fun bytes => { x with size := sizeOf16 length, bytes := bytes }

/-- The bytes that the size covers; none when it exceeds the capacity. -/
def content (x : BytesArray n) : Option (List UInt8) :=
  if n < x.size then none else some (x.bytes.toList.take x.size)

end BytesArray

section
variable {n : ℕ} {dst bytes : Vector UInt8 n} {src : Buffer} {length : ℤ}

theorem sizeOf16_of_lt {length : ℤ} (h : 0 ≤ length) (hlt : length < 65536) : sizeOf16 length = length.toNat := by
  rw [sizeOf16, Int.emod_eq_of_lt h hlt]

theorem copyOf_bufferOf (v : Vector UInt8 n) : copyOf (bufferOf v) = v := by
  apply Vector.ext
  intro i hi
  simp [copyOf, bufferOf]

theorem memcpy_of_le (h : 0 ≤ length) (hle : length ≤ n) :
    memcpy dst src length = some (Vector.ofFn fun i => if (i : ℤ) < length then src i else dst[i]) :=
  if_pos ⟨h,hle⟩

theorem memcpy_eq_none_iff : memcpy dst src length = none ↔ ¬(0 ≤ length ∧ length ≤ n) := by
  unfold memcpy
  split <;> simp_all

theorem memcpy_eq_some_iff : memcpy dst src length = some bytes ↔
    (0 ≤ length ∧ length ≤ n) ∧ ∀ i : Fin n, bytes[i] = if (i : ℤ) < length then src i else dst[i] := by
  unfold memcpy
  split
  · rename_i h
    simp only [Option.some.injEq, h, true_and]
    constructor
    · rintro rfl i
      rw [Fin.getElem_fin, Vector.getElem_ofFn]
    · intro hall
      apply Vector.ext
      intro i hi
      rw [Vector.getElem_ofFn]
      exact (hall ⟨i,hi⟩).symm
  · rename_i h
    simp [h]

/-- No more is read than is copied. -/
theorem memcpy_of_agree {src' : Buffer} (h : Agree length src src') : memcpy dst src' length = memcpy dst src length := by
  have hget (i : Fin n) : (if (i : ℤ) < length then src' i else dst[i]) = if (i : ℤ) < length then src i else dst[i] := by
    by_cases hi : (i : ℤ) < length
    · rw [if_pos hi, if_pos hi, h i hi]
    · rw [if_neg hi, if_neg hi]
  simp only [memcpy, hget]

/-- Whether a copy stays within its destination does not depend on what is copied. -/
theorem memcpy_isSome {src' : Buffer} : (memcpy dst src' length).isSome = (memcpy dst src length).isSome := by
  unfold memcpy
  split <;> rfl

/-- The part of the destination that was written reads as the source. -/
theorem memcpy_take (h : memcpy dst src length = some bytes) : bytes.toList.take length.toNat = src.take length.toNat := by
  obtain ⟨⟨hzero,hle⟩,hget⟩ := memcpy_eq_some_iff.mp h
  apply List.ext_getElem
  · simp only [Buffer.take, List.length_take, Vector.length_toList, List.length_map, List.length_range]
    omega
  · intro i hi hi'
    simp only [List.length_take, Vector.length_toList] at hi
    have hbyte := hget ⟨i,by omega⟩
    rw [if_pos (by simp only; omega), Fin.getElem_fin] at hbyte
    simpa [Buffer.take] using hbyte

namespace BytesArray
variable {x y : BytesArray n}

theorem fill_eq_some_iff : x.fill src length = some y ↔
    memcpy x.bytes src length = some y.bytes ∧ y.size = sizeOf16 length := by
  obtain ⟨size,bytes⟩ := y
  simp only [fill, Option.map_eq_some_iff, mk.injEq]
  constructor
  · rintro ⟨b,hb,rfl,rfl⟩
    exact ⟨hb,rfl⟩
  · rintro ⟨hb,rfl⟩
    exact ⟨bytes,hb,rfl,rfl⟩

theorem fill_eq_none_iff : x.fill src length = none ↔ ¬(0 ≤ length ∧ length ≤ n) := by
  rw [fill, Option.map_eq_none_iff, memcpy_eq_none_iff]

theorem fill_of_agree {src' : Buffer} (h : Agree length src src') : x.fill src' length = x.fill src length := by
  rw [fill, fill, memcpy_of_agree h]

theorem fill_isSome {src' : Buffer} : (x.fill src' length).isSome = (x.fill src length).isSome := by
  rw [fill, fill, Option.isSome_map, Option.isSome_map, memcpy_isSome]

theorem exists_fill (x : BytesArray n) (src : Buffer) (h : 0 ≤ length) (hle : length ≤ n) :
    ∃ y, x.fill src length = some y := by
  have hne : x.fill src length ≠ none := by
    rw [Ne, fill_eq_none_iff]
    exact not_not_intro ⟨h,hle⟩
  exact Option.ne_none_iff_exists'.mp hne

/-- After a copy the array holds the bytes of the source and nothing of what it held. -/
theorem fill_content (h : x.fill src length = some y) (hn : n < 65536) :
    y.content = some (src.take length.toNat) := by
  obtain ⟨hcopy,hsize⟩ := fill_eq_some_iff.mp h
  obtain ⟨⟨hzero,hle⟩,-⟩ := memcpy_eq_some_iff.mp hcopy
  have hlen : y.size = length.toNat := by rw [hsize, sizeOf16_of_lt hzero (by omega)]
  rw [content, hlen, if_neg (by omega), memcpy_take hcopy]

end BytesArray
end
end WhadLib.Library
