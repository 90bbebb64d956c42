import WhadLib.Message
import WhadLib.Library.CMemory

/-! What the encoder sees of a structure: the fields of its descriptor in order, each with its tag and
its value. A field without its presence flag has no value, a counted array shows the counted
part only, and a size beyond the capacity shows nothing: the runtime refuses it. -/
namespace WhadLib
open Library

/-- The value of a field. -/
inductive WireValue
  | uint32 (v : UInt32)
  | uint64 (v : UInt64)
  | int32 (v : Int32)
  | bool (v : Bool)
  | enum (raw : ℤ)
  | bytes (content : Option (List UInt8))
  | fixed (content : List UInt8)
  | callback (wireType : WireType) (c : PbCallback)
  | absent
  | present (v : WireValue)
  deriving DecidableEq

/-- The visible fields of a message. -/
inductive Wire
  | nil
  | refused
  | field (tag : ℕ) (value : WireValue) (rest : Wire)
  | message (tag : ℕ) (body rest : Wire)
  deriving DecidableEq

/-- The types of single fields. -/
class FieldValue (α : Type) where
  value : α → WireValue

export FieldValue (value)

instance : FieldValue UInt32 := ⟨.uint32⟩
instance : FieldValue UInt64 := ⟨.uint64⟩
instance : FieldValue Int32 := ⟨.int32⟩
instance : FieldValue Bool := ⟨.bool⟩
instance {E : Type} : FieldValue (EnumField E) := ⟨fun x => .enum x.raw⟩
instance {n : ℕ} : FieldValue (Vector UInt8 n) := ⟨fun x => .fixed x.toList⟩
instance {n : ℕ} : FieldValue (BytesArray n) := ⟨fun x => .bytes x.content⟩
instance {α : Type} [FieldValue α] : FieldValue (OptionalField α) :=
  ⟨fun x => if x.has then .present (value x.value) else .absent⟩

/-- A submessage with a presence flag. -/
def Wire.optional {α : Type} (tag : ℕ) (x : OptionalField α) (wire : α → Wire) (rest : Wire) : Wire :=
  if x.has then .message tag (wire x.value) rest else .field tag .absent rest

/-- A counted array of submessages. -/
def Wire.repeated {α : Type} {n : ℕ} (tag : ℕ) (x : RepeatedField α n) (wire : α → Wire) (rest : Wire) : Wire :=
  if n < x.count then .refused
  else (x.items.toList.take x.count).foldr (fun a r => .message tag (wire a) r) rest

/-- Only part of the value is visible. -/
def WireValue.Accepted : WireValue → Prop
  | .bytes content => content.isSome
  | .present v => v.Accepted
  | _ => True

/-- The runtime refuses no field: every size is within its capacity. -/
def Wire.Accepted : Wire → Prop
  | .nil => True
  | .refused => False
  | .field _ v rest => v.Accepted ∧ rest.Accepted
  | .message _ body rest => body.Accepted ∧ rest.Accepted

section
variable {n : ℕ}

/-- A flag that is not set hides the value. -/
@[simp] theorem value_optional_none {α : Type} [FieldValue α] (v : α) : value (⟨false,v⟩ : OptionalField α) = .absent := rfl

@[simp] theorem value_optional_some {α : Type} [FieldValue α] (v : α) :
    value (⟨true,v⟩ : OptionalField α) = .present (value v) := rfl

/-- After a copy into it a counted array shows the bytes of the source only. -/
theorem value_fill {x y : BytesArray n} {src : Buffer} {length : ℤ} (h : x.fill src length = some y)
    (hn : n < 65536) : value y = .bytes (some (src.take length.toNat)) :=
  congrArg WireValue.bytes (BytesArray.fill_content h hn)

/-- The same for a copy whose size was set on its own. -/
theorem value_memcpy {dst bytes : Vector UInt8 n} {src : Buffer} {length : ℤ}
    (h : memcpy dst src length = some bytes) (hn : n < 65536) :
    value (⟨sizeOf16 length,bytes⟩ : BytesArray n) = .bytes (some (src.take length.toNat)) := by
  have hfill : (⟨0,dst⟩ : BytesArray n).fill src length = some ⟨sizeOf16 length,bytes⟩ :=
    BytesArray.fill_eq_some_iff.mpr ⟨h,rfl⟩
  exact value_fill hfill hn

/-- A size alone shows the bytes that were there before, unless it is zero or refused. -/
theorem value_sized_iff {size : ℕ} :
    (∀ b b' : Vector UInt8 n, value (⟨size,b⟩ : BytesArray n) = value (⟨size,b'⟩ : BytesArray n)) ↔
      size = 0 ∨ n < size := by
  constructor
  · intro h
    by_contra hne
    obtain ⟨k,rfl⟩ : ∃ k, size = k+1 := Nat.exists_eq_succ_of_ne_zero (by omega)
    obtain ⟨l,rfl⟩ : ∃ l, n = l+1 := Nat.exists_eq_succ_of_ne_zero (by omega)
    have hbytes := h (Vector.replicate _ 0) (Vector.replicate _ 1)
    simp [value, BytesArray.content, show ¬l < k by omega, List.replicate_succ] at hbytes
  · rintro (rfl | h) b b'
    · simp [value, BytesArray.content]
    · simp [value, BytesArray.content, h]

/-- Counted arrays that agree as far as the count goes show the same. -/
theorem Wire.repeated_congr {α : Type} {x y : RepeatedField α n} {wire : α → Wire} {tag : ℕ} {rest : Wire}
    (hcount : x.count = y.count) (h : ∀ i (hi : i < n), i < x.count → wire x.items[i] = wire y.items[i]) :
    Wire.repeated tag x wire rest = Wire.repeated tag y wire rest := by
  have hmap : (x.items.toList.take x.count).map wire = (y.items.toList.take y.count).map wire := by
    apply List.ext_getElem
    · simp [hcount]
    · intro i hi hi'
      simp only [List.length_map, List.length_take, Vector.length_toList] at hi
      simpa using h i (by omega) (by omega)
  have hfold (z : RepeatedField α n) : (z.items.toList.take z.count).foldr (fun a r => .message tag (wire a) r) rest =
      ((z.items.toList.take z.count).map wire).foldr (.message tag) rest := (List.foldr_map ..).symm
  rw [Wire.repeated, Wire.repeated, hfold, hfold, hmap, hcount]

/-- A count shows what was in the array before, unless it is zero or refused. -/
theorem Wire.repeated_counted_iff {α : Type} {wire : α → Wire} {count tag : ℕ} {rest : Wire} {a b : α}
    (hab : wire a ≠ wire b) :
    (∀ v v' : Vector α n, Wire.repeated tag ⟨count,v⟩ wire rest = Wire.repeated tag ⟨count,v'⟩ wire rest) ↔
      count = 0 ∨ n < count := by
  constructor
  · intro h
    by_contra hne
    obtain ⟨k,rfl⟩ : ∃ k, count = k+1 := Nat.exists_eq_succ_of_ne_zero (by omega)
    have hitems := h (Vector.replicate _ a) (Vector.replicate _ b)
    simp [Wire.repeated, show ¬n < k+1 by omega, show min (k+1) n = k+1 by omega, List.replicate_succ,
      hab] at hitems
  · rintro (rfl | h) v v'
    · simp [Wire.repeated]
    · simp [Wire.repeated, h]

/-- The size of an array is visible. -/
theorem value_size_ne (hn : 0 < n) (bytes : Vector UInt8 n) :
    value (⟨0,bytes⟩ : BytesArray n) ≠ value (⟨1,bytes⟩ : BytesArray n) := by
  intro h
  simp only [value, BytesArray.content, if_neg (Nat.not_lt_zero n), show ¬n < 1 by omega, if_false,
    WireValue.bytes.injEq, Option.some.injEq] at h
  have hlen := congrArg List.length h
  simp only [List.length_take, Vector.length_toList] at hlen
  omega

theorem Wire.repeated_accepted {α : Type} {tag : ℕ} {x : RepeatedField α n} {wire : α → Wire} {rest : Wire}
    (h : (Wire.repeated tag x wire rest).Accepted) : x.count ≤ n := by
  by_contra hlt
  rw [Wire.repeated, if_pos (not_le.mp hlt)] at h
  exact h

theorem Wire.optional_accepted {α : Type} {tag : ℕ} {x : OptionalField α} {wire : α → Wire} {rest : Wire}
    (h : (Wire.optional tag x wire rest).Accepted) : rest.Accepted := by
  unfold Wire.optional at h
  split at h <;> exact h.2

theorem accepted_bytes_iff (x : BytesArray n) : (value x).Accepted ↔ x.size ≤ n := by
  change x.content.isSome = true ↔ x.size ≤ n
  rw [BytesArray.content]
  split <;> simp <;> omega

end
end WhadLib
