import Mathlib.Data.Nat.Digits.Defs
import WhadLib.Library.CMemory

/-! Structures of C in memory. What was stored at a place is read there again, and is not seen by what lies
beside it; members of a union lie over one another and are read from the same bytes. -/
namespace WhadLib.Library

/-- A type of a fixed size, with the bytes of its values. -/
class CType (α : Type) where
  size : ℕ
  align : ℕ
  decode : Buffer → α
  encode : α → Buffer
  decode_encode : ∀ v, decode (encode v) = v
  decode_congr : ∀ {src src' : Buffer}, (∀ i < size, src i = src' i) → decode src = decode src'

/-! Numbers are little-endian. -/

/-- The number in the first bytes behind a pointer. -/
def numberOf (n : ℕ) (src : Buffer) : ℕ := Nat.ofDigits 256 ((src.take n).map UInt8.toNat)

/-- The bytes of a number. -/
def bytesOf (v : ℕ) : Buffer := fun i => UInt8.ofNat (v / 256^i)

theorem numberOf_bytesOf (n v : ℕ) : numberOf n (bytesOf v) = v % 256^n := by
  induction n with
  | zero => simp [numberOf, Buffer.take, Nat.mod_one]
  | succ n ih =>
    have hsplit : numberOf (n+1) (bytesOf v) = numberOf n (bytesOf v) + 256^n * (v / 256^n % 256) := by
      simp [numberOf, Buffer.take, List.range_succ, Nat.ofDigits_append, bytesOf]
    rw [hsplit, ih, Nat.mod_pow_succ]

theorem numberOf_bytesOf_of_lt {n v : ℕ} (h : v < 256^n) : numberOf n (bytesOf v) = v := by
  rw [numberOf_bytesOf, Nat.mod_eq_of_lt h]

theorem numberOf_congr {n : ℕ} {src src' : Buffer} (h : ∀ i < n, src i = src' i) : numberOf n src = numberOf n src' := by
  have htake : src.take n = src'.take n := List.map_congr_left fun i hi => h i (List.mem_range.mp hi)
  rw [numberOf, numberOf, htake]

instance : CType UInt16 where
  size := 2
  align := 2
  decode src := UInt16.ofNat (numberOf 2 src)
  encode v := bytesOf v.toNat
  decode_encode v := by rw [numberOf_bytesOf_of_lt v.toNat_lt, UInt16.ofNat_toNat]
  decode_congr h := by rw [numberOf_congr h]

instance : CType UInt32 where
  size := 4
  align := 4
  decode src := UInt32.ofNat (numberOf 4 src)
  encode v := bytesOf v.toNat
  decode_encode v := by rw [numberOf_bytesOf_of_lt v.toNat_lt, UInt32.ofNat_toNat]
  decode_congr h := by rw [numberOf_congr h]

instance : CType UInt64 where
  size := 8
  align := 8
  decode src := UInt64.ofNat (numberOf 8 src)
  encode v := bytesOf v.toNat
  decode_encode v := by rw [numberOf_bytesOf_of_lt v.toNat_lt, UInt64.ofNat_toNat]
  decode_congr h := by rw [numberOf_congr h]

instance : CType Int32 where
  size := 4
  align := 4
  decode src := (CType.decode src : UInt32).toInt32
  encode v := CType.encode v.toUInt32
  decode_encode v := by rw [CType.decode_encode]; rfl
  decode_congr h := congrArg UInt32.toInt32 (CType.decode_congr h)

/-- Any byte but zero is true. -/
instance : CType Bool where
  size := 1
  align := 1
  decode src := src 0 != 0
  encode v := fun _ => if v then 1 else 0
  decode_encode v := by cases v <;> rfl
  decode_congr h := by rw [h 0 Nat.one_pos]

instance (n : ℕ) : CType (Vector UInt8 n) where
  size := n
  align := 1
  decode src := copyOf src
  encode v := bufferOf v
  decode_encode v := copyOf_bufferOf v
  decode_congr h := by
    apply Vector.ext
    intro i hi
    rw [copyOf, copyOf, Vector.getElem_ofFn, Vector.getElem_ofFn]
    exact h i hi

/-! Fields. -/

namespace Buffer
variable {α β : Type} [CType α] [CType β]

/-- What is read at a place. -/
def load (src : Buffer) (offset : ℕ) : α := CType.decode fun i => src (offset+i)

/-- Memory after a value was stored at a place. -/
def store (src : Buffer) (offset : ℕ) (v : α) : Buffer :=
  fun i => if offset ≤ i ∧ i < offset+CType.size α then CType.encode v (i-offset) else src i

@[simp] theorem load_store (src : Buffer) (offset : ℕ) (v : α) : (src.store offset v).load offset = v := by
  refine Eq.trans (CType.decode_congr fun i hi => ?_) (CType.decode_encode v)
  rw [store, if_pos ⟨by omega,by omega⟩, Nat.add_sub_cancel_left]

/-- A field is not changed by what is stored before or behind it. -/
theorem load_store_of_disjoint (src : Buffer) {offset offset' : ℕ} (v : α)
    (h : offset+CType.size α ≤ offset' ∨ offset'+CType.size β ≤ offset) :
    (src.store offset v).load offset' = (src.load offset' : β) := by
  refine CType.decode_congr fun i hi => ?_
  rw [store, if_neg (by omega)]

/-- A flag that is read where a number lies is its lowest byte. -/
theorem load_flag_store (src : Buffer) (offset : ℕ) (v : UInt32) :
    ((src.store offset v).load offset : Bool) = (v.toUInt8 != 0) := by
  have hbyte : src.store offset v (offset+0) = v.toUInt8 := by
    rw [store, if_pos ⟨by omega,by simp [CType.size]⟩]
    simp [CType.encode, bytesOf]
  exact congrArg (fun b => b != 0) hbyte

end Buffer

/-! Structures. -/

/-- The size of a field and what its place is a multiple of. -/
structure CField where
  size : ℕ
  align : ℕ

def alignUp (n align : ℕ) : ℕ := (n+align-1)/align*align

/-- The places of fields that follow one another, each as near as it may lie. -/
def offsetsFrom (start : ℕ) : List CField → List ℕ
  | [] => []
  | f :: fs => alignUp start f.align :: offsetsFrom (alignUp start f.align+f.size) fs

/-- A structure is aligned as its field with the strictest alignment. -/
def alignOf (fields : List CField) : ℕ := (fields.map CField.align).foldr max 1

def CField.of (α : Type) [CType α] : CField := ⟨CType.size α,CType.align α⟩

/-- A counted array, with its size before its bytes. -/
def CField.bytesArray (n : ℕ) : CField := ⟨alignUp (2+n) 2,2⟩

namespace Buffer
variable {n : ℕ}

def loadBytes (src : Buffer) (offset : ℕ) : BytesArray n := ⟨(src.load offset : UInt16).toNat,src.load (offset+2)⟩

def storeBytes (src : Buffer) (offset : ℕ) (x : BytesArray n) : Buffer :=
  (src.store offset (UInt16.ofNat x.size)).store (offset+2) x.bytes

end Buffer
end WhadLib.Library
