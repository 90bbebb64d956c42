import Mathlib.Data.List.Basic
import Mathlib.Data.List.Range
import Mathlib.Tactic.Linarith

/-! Data of generated C structures that can be malformed: an object of an enumeration type holds
any integer, a counted array holds a count that may exceed its length, a character array need
not be terminated. `Structural.valid` says that a value is what its type means. -/
namespace WhadLib.Library

/-- An enumeration whose constants count up from zero. -/
class CEnum (E : Type) where
  val : E → ℕ
  constants : List E
  complete : ∀ e, e ∈ constants
  values : constants.map val = List.range constants.length
  min : E
  max : E
  val_min : val min = 0
  val_max : val max + 1 = constants.length

/-- An object of an enumeration type, read as an `int`. -/
structure EnumField (E : Type) where
  raw : ℤ
  deriving Inhabited

/-- `char x[n]`. -/
structure CharArray (n : ℕ) where
  chars : Vector UInt8 n
  deriving Inhabited

/-- A counted byte array of capacity `n`. -/
structure BytesArray (n : ℕ) where
  size : ℕ
  bytes : Vector UInt8 n
  deriving Inhabited

/-- The size of the array. -/
def BytesArray.capacity {n : ℕ} (_ : BytesArray n) : ℕ := n

/-- A counted array of capacity `n`. -/
structure RepeatedField (α : Type) (n : ℕ) where
  count : ℕ
  items : Vector α n
  deriving Inhabited

/-- A value with its presence flag. -/
structure OptionalField (α : Type) where
  has : Bool
  value : α
  deriving Inhabited

/-- What makes a value well formed. -/
class Structural (α : Type) where
  valid : α → Prop

export Structural (valid)

instance : Structural UInt8 := ⟨fun _ => True⟩
instance : Structural UInt32 := ⟨fun _ => True⟩
instance : Structural UInt64 := ⟨fun _ => True⟩
instance : Structural Int32 := ⟨fun _ => True⟩
instance : Structural Bool := ⟨fun _ => True⟩

/-- A fixed number of values. -/
instance {α : Type} {n : ℕ} [Structural α] : Structural (Vector α n) := ⟨fun v => ∀ x ∈ v.toList, valid x⟩

/-- A declared constant. -/
instance {E : Type} [CEnum E] : Structural (EnumField E) :=
  ⟨fun x => ∃ e : E, (CEnum.val e : ℤ) = x.raw⟩

/-- A terminator within the capacity. -/
instance {n : ℕ} : Structural (CharArray n) := ⟨fun x => 0 ∈ x.chars.toList⟩

instance {n : ℕ} : Structural (BytesArray n) := ⟨fun x => x.size ≤ n⟩

/-- A count within the capacity, and valid counted elements. -/
instance {α : Type} {n : ℕ} [Structural α] : Structural (RepeatedField α n) :=
  ⟨fun x => x.count ≤ n ∧ ∀ y ∈ x.items.toList.take x.count, valid y⟩

instance {α : Type} [Structural α] : Structural (OptionalField α) :=
  ⟨fun x => x.has = true → valid x.value⟩

@[simp] theorem valid_uint8 (x : UInt8) : valid x := trivial
@[simp] theorem valid_uint32 (x : UInt32) : valid x := trivial
@[simp] theorem valid_uint64 (x : UInt64) : valid x := trivial
@[simp] theorem valid_int32 (x : Int32) : valid x := trivial
@[simp] theorem valid_bool (x : Bool) : valid x := trivial

@[simp] theorem valid_bytes {n : ℕ} (x : Vector UInt8 n) : valid x := fun _ _ => trivial

theorem valid_charArray {n : ℕ} (x : CharArray n) : valid x ↔ 0 ∈ x.chars.toList := Iff.rfl

@[simp] theorem valid_bytesArray {n : ℕ} (x : BytesArray n) : valid x ↔ x.size ≤ x.capacity := Iff.rfl

theorem valid_optional {α : Type} [Structural α] (x : OptionalField α) :
    valid x ↔ (x.has = true → valid x.value) := Iff.rfl

theorem valid_repeated {α : Type} {n : ℕ} [Structural α] (x : RepeatedField α n) :
    valid x ↔ x.count ≤ n ∧ ∀ y ∈ x.items.toList.take x.count, valid y := Iff.rfl

/-- A repeated field of numbers only needs its count. -/
@[simp] theorem valid_repeated_of_all {α : Type} {n : ℕ} [Structural α] (h : ∀ y : α, valid y)
    (x : RepeatedField α n) : valid x ↔ x.count ≤ n :=
  ⟨fun hx => hx.1,fun hx => ⟨hx,fun y _ => h y⟩⟩

/-- Declared means between the first and the last constant. -/
theorem valid_enum {E : Type} [CEnum E] (x : EnumField E) :
    valid x ↔ (CEnum.val (CEnum.min : E) : ℤ) ≤ x.raw ∧ x.raw ≤ CEnum.val (CEnum.max : E) := by
  have hmin : CEnum.val (CEnum.min : E) = 0 := CEnum.val_min
  have hmax : CEnum.val (CEnum.max : E) + 1 = (CEnum.constants : List E).length := CEnum.val_max
  rw [hmin]
  constructor
  · rintro ⟨e,he⟩
    have hmem : CEnum.val e ∈ List.range (CEnum.constants : List E).length := by
      rw [← CEnum.values]
      exact List.mem_map_of_mem (CEnum.complete e)
    rw [List.mem_range] at hmem
    omega
  · rintro ⟨hlow,hhigh⟩
    have hmem : x.raw.toNat ∈ (CEnum.constants : List E).map CEnum.val := by
      rw [CEnum.values, List.mem_range]
      omega
    obtain ⟨e,_,he⟩ := List.mem_map.mp hmem
    exact ⟨e,by omega⟩

end WhadLib.Library
