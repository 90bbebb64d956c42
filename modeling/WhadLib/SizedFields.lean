import WhadLib.Encoding
import WhadLib.Library.CData

/-! Field lists with a bound on the size of their encoding. The bound is that of the descriptor: it
does not depend on the values. Each constructor follows the rule of the runtime for one type of
field: what is left out, what is refused, and how the value is written. -/
namespace WhadLib
open Library

/-! The size of varints. -/

theorem varintBytes_length_mono {v w fuel fuel' : ℕ} (h : v ≤ w) (hfuel : w ≤ fuel') :
    (varintBytes fuel v).length ≤ (varintBytes fuel' w).length := by
  induction fuel generalizing v w fuel' with
  | zero =>
    have hpos : 0 < (varintBytes fuel' w).length := by
      cases fuel' with
      | zero => simp [varintBytes]
      | succ n => by_cases hw : w < 128 <;> simp [varintBytes, hw]
    exact hpos
  | succ fuel ih =>
    by_cases hv : v < 128
    · cases fuel' with
      | zero => simp [varintBytes, hv]
      | succ n => by_cases hw : w < 128 <;> simp [varintBytes, hv, hw]
    · obtain ⟨n,rfl⟩ : ∃ n, fuel' = n+1 := ⟨fuel'-1,by omega⟩
      have hw : ¬w < 128 := by omega
      simp only [varintBytes, hv, hw, if_false, List.length_cons, Nat.add_le_add_iff_right]
      exact ih (Nat.div_le_div_right h) (by omega)

/-- A larger number takes no fewer bytes. -/
theorem varint_length_mono {v w : ℕ} (h : v ≤ w) : (varint v).length ≤ (varint w).length :=
  varintBytes_length_mono h le_rfl

theorem varintBytes_length_le {v fuel k : ℕ} (h : v < 128^(k+1)) : (varintBytes fuel v).length ≤ k+1 := by
  induction k generalizing v fuel with
  | zero =>
    have hv : v < 128 := by simpa using h
    cases fuel <;> simp [varintBytes, hv]
  | succ k ih =>
    cases fuel with
    | zero => simp [varintBytes]
    | succ fuel =>
      by_cases hv : v < 128
      · simp [varintBytes, hv]
      · simp only [varintBytes, hv, if_false, List.length_cons, Nat.add_le_add_iff_right]
        exact ih (Nat.div_lt_of_lt_mul (by rw [← Nat.pow_succ']; exact h))

theorem varint_uint32_length (v : UInt32) : (varint v.toNat).length ≤ 5 :=
  varintBytes_length_le (by have := v.toNat_lt; omega)

theorem varint_uint64_length (v : UInt64) : (varint v.toNat).length ≤ 10 :=
  varintBytes_length_le (by have := v.toNat_lt; omega)

/-! The bytes of single fields; those that hold their default are left out. -/

def keySize (tag : ℕ) (wireType : WireType) : ℕ := (fieldKey ⟨tag,wireType⟩).length

def boolField (tag : ℕ) (v : Bool) : List UInt8 := if v then fieldKey ⟨tag,.varint⟩ ++ [1] else []

/-- The object of an enumeration is written as an unsigned number of 32 bits. -/
def enumField {E : Type} (tag : ℕ) (x : EnumField E) : List UInt8 := uint32Field tag (UInt32.ofInt x.raw)

/-- Zigzag: the sign is the lowest bit. -/
def zigzag (v : Int32) : UInt32 := UInt32.ofInt (if v.toInt < 0 then -2*v.toInt-1 else 2*v.toInt)

def sint32Field (tag : ℕ) (v : Int32) : List UInt8 := uint32Field tag (zigzag v)

/-- The characters before the terminator; a text without one is refused. -/
def textOf {n : ℕ} (x : CharArray n) : Option (List UInt8) :=
  if 0 ∈ x.chars.toList then some (x.chars.toList.takeWhile fun c => c ≠ 0) else none

def stringBytes (tag : ℕ) (text : List UInt8) : List UInt8 :=
  fieldKey ⟨tag,.len⟩ ++ (varint text.length ++ text)

def stringField {n : ℕ} (tag : ℕ) (x : CharArray n) : Option (List UInt8) :=
  (textOf x).map fun text => if text = [] then [] else stringBytes tag text

/-- Numbers in one packed field; a count beyond the capacity is refused. -/
def packedField {α : Type} {n : ℕ} (tag : ℕ) (x : RepeatedField α n) (item : α → List UInt8) :
    Option (List UInt8) :=
  if n < x.count then none
  else if x.count = 0 then some []
  else
    let body := (x.items.toList.take x.count).flatMap item
    some (fieldKey ⟨tag,.len⟩ ++ (varint body.length ++ body))

def fixed32Bytes (v : Int32) : List UInt8 :=
  let u := v.toUInt32.toNat
  [UInt8.ofNat u,UInt8.ofNat (u / 256),UInt8.ofNat (u / 65536),UInt8.ofNat (u / 16777216)]

theorem textOf_length {n : ℕ} {x : CharArray n} {text : List UInt8} (h : textOf x = some text) :
    text.length ≤ n-1 := by
  unfold textOf at h
  split at h
  · rename_i hzero
    obtain rfl := Option.some.inj h
    obtain ⟨front,back,hsplit⟩ := List.append_of_mem hzero
    have hlen : x.chars.toList.length = n := by simp
    have hle : (x.chars.toList.takeWhile fun c => c ≠ 0).length ≤ front.length := by
      rw [hsplit, List.takeWhile_append]
      split
      · simp
      · exact (List.takeWhile_prefix _).length_le
    rw [hsplit, List.length_append, List.length_cons] at hlen
    omega
  · contradiction

theorem length_flatMap_le {α β : Type} {item : α → List β} {size : ℕ} (h : ∀ a, (item a).length ≤ size)
    (as : List α) : (as.flatMap item).length ≤ as.length*size := by
  induction as with
  | nil => simp
  | cons a as ih =>
    rw [List.flatMap_cons, List.length_append, List.length_cons, Nat.succ_mul, Nat.add_comm]
    exact Nat.add_le_add ih (h a)

theorem stringBytes_length_le (tag : ℕ) {text : List UInt8} {n : ℕ} (h : text.length ≤ n) :
    (stringBytes tag text).length ≤ keySize tag .len + ((varint n).length + n) := by
  have hmono := varint_length_mono h
  rw [stringBytes, List.length_append, List.length_append, keySize]
  omega

/-! Field lists. -/

/-- The fields of a message without callbacks, and a bound on the size of their encoding. -/
structure SizedFields where
  fields : Fields CallbackField
  limit : ℕ
  bounded : ∀ output bytes, fields.encoding output = some bytes → bytes.length ≤ limit

namespace SizedFields

/-- The runtime accepts every value. -/
def Encodable (f : SizedFields) : Prop := ∀ output, ∃ bytes, f.fields.encoding output = some bytes

def nil : SizedFields where
  fields := .nil
  limit := 0
  bounded := by
    intro output bytes h
    obtain rfl : [] = bytes := by simpa [Fields.encoding] using h
    exact Nat.le_refl 0

/-- A static field with at most `size` bytes. -/
def static (field : Option (List UInt8)) (size : ℕ) (h : ∀ bytes ∈ field, bytes.length ≤ size)
    (rest : SizedFields) : SizedFields where
  fields := .static field rest.fields
  limit := size + rest.limit
  bounded := by
    intro output bytes hbytes
    simp only [Fields.encoding, Option.bind_eq_some_iff, Option.map_eq_some_iff] at hbytes
    obtain ⟨a,ha,b,hb,rfl⟩ := hbytes
    rw [List.length_append]
    exact Nat.add_le_add (h a ha) (rest.bounded output b hb)

@[simp] theorem encodable_nil : nil.Encodable := fun _ => ⟨[],rfl⟩

theorem encodable_static {field : Option (List UInt8)} {size : ℕ} {h : ∀ bytes ∈ field, bytes.length ≤ size}
    {rest : SizedFields} : (static field size h rest).Encodable ↔ field.isSome ∧ rest.Encodable := by
  constructor
  · intro hall
    constructor
    · obtain ⟨bytes,hbytes⟩ := hall fun _ => []
      simp only [static, Fields.encoding, Option.bind_eq_some_iff] at hbytes
      obtain ⟨a,ha,_⟩ := hbytes
      rw [ha]
      rfl
    · intro output
      obtain ⟨bytes,hbytes⟩ := hall output
      simp only [static, Fields.encoding, Option.bind_eq_some_iff, Option.map_eq_some_iff] at hbytes
      obtain ⟨_,_,b,hb,_⟩ := hbytes
      exact ⟨b,hb⟩
  · rintro ⟨hfield,hrest⟩ output
    obtain ⟨a,rfl⟩ := Option.isSome_iff_exists.mp hfield
    obtain ⟨b,hb⟩ := hrest output
    exact ⟨a ++ b,by simp [static, Fields.encoding, hb]⟩

/-- A submessage, left out when `present` is false. -/
def message (tag : ℕ) (present : Bool) (body rest : SizedFields) : SizedFields where
  fields := if present then .submessage ⟨tag,.len⟩ body.fields rest.fields else rest.fields
  limit := keySize tag .len + ((varint body.limit).length + body.limit) + rest.limit
  bounded := by
    intro output bytes h
    cases present with
    | false =>
      have hrest := rest.bounded output bytes h
      omega
    | true =>
      simp only [if_true, Fields.encoding, Option.bind_eq_some_iff, Option.map_eq_some_iff] at h
      obtain ⟨a,ha,b,hb,rfl⟩ := h
      have hbody := body.bounded output a ha
      have hrest := rest.bounded output b hb
      have hmono := varint_length_mono hbody
      simp only [List.length_append, keySize]
      omega

theorem encodable_message {tag : ℕ} {present : Bool} {body rest : SizedFields} :
    (message tag present body rest).Encodable ↔ (present = true → body.Encodable) ∧ rest.Encodable := by
  cases present with
  | false => simp [message, Encodable]
  | true =>
    simp only [message, Encodable, if_true, Fields.encoding, Option.bind_eq_some_iff,
      Option.map_eq_some_iff, true_implies]
    constructor
    · intro hall
      constructor
      · intro output
        obtain ⟨_,a,ha,_⟩ := hall output
        exact ⟨a,ha⟩
      · intro output
        obtain ⟨_,_,_,b,hb,_⟩ := hall output
        exact ⟨b,hb⟩
    · rintro ⟨hbody,hrest⟩ output
      obtain ⟨a,ha⟩ := hbody output
      obtain ⟨b,hb⟩ := hrest output
      exact ⟨_,a,ha,b,hb,rfl⟩

/-! The fields of each type. -/

section
variable (tag : ℕ)

theorem uint32Field_length (v : UInt32) : (uint32Field tag v).length ≤ keySize tag .varint + 5 := by
  unfold uint32Field
  split
  · simp
  · rw [List.length_append, keySize]
    exact Nat.add_le_add_left (varint_uint32_length v) _

def uint32 (v : UInt32) (rest : SizedFields) : SizedFields :=
  static (some (uint32Field tag v)) (keySize tag .varint + 5)
    (by rintro _ ⟨⟩; exact uint32Field_length tag v) rest

def uint64 (v : UInt64) (rest : SizedFields) : SizedFields :=
  static (some (uint64Field tag v)) (keySize tag .varint + 10) (by
    rintro _ ⟨⟩
    unfold uint64Field
    split
    · simp
    · rw [List.length_append, keySize]
      exact Nat.add_le_add_left (varint_uint64_length v) _) rest

def bool (v : Bool) (rest : SizedFields) : SizedFields :=
  static (some (boolField tag v)) (keySize tag .varint + 1)
    (by rintro _ ⟨⟩; cases v <;> simp [boolField, keySize]) rest

def enum {E : Type} (x : EnumField E) (rest : SizedFields) : SizedFields :=
  static (some (enumField tag x)) (keySize tag .varint + 5)
    (by rintro _ ⟨⟩; exact uint32Field_length tag _) rest

def sint32 (v : Int32) (rest : SizedFields) : SizedFields :=
  static (some (sint32Field tag v)) (keySize tag .varint + 5)
    (by rintro _ ⟨⟩; exact uint32Field_length tag _) rest

/-- A field with a presence flag is written also when it holds its default. -/
def optionalUint32 (x : OptionalField UInt32) (rest : SizedFields) : SizedFields :=
  static (some (if x.has then fieldKey ⟨tag,.varint⟩ ++ varint x.value.toNat else []))
    (keySize tag .varint + 5) (by
      rintro _ ⟨⟩
      split
      · rw [List.length_append, keySize]
        exact Nat.add_le_add_left (varint_uint32_length _) _
      · simp) rest

def optionalEnum {E : Type} (x : OptionalField (EnumField E)) (rest : SizedFields) : SizedFields :=
  optionalUint32 tag ⟨x.has,UInt32.ofInt x.value.raw⟩ rest

def string {n : ℕ} (x : CharArray n) (rest : SizedFields) : SizedFields :=
  static (stringField tag x) (keySize tag .len + ((varint (n-1)).length + (n-1))) (by
    intro bytes hbytes
    obtain ⟨text,htext,rfl⟩ := Option.map_eq_some_iff.mp hbytes
    split
    · simp
    · exact stringBytes_length_le tag (textOf_length htext)) rest

def bytes {n : ℕ} (x : BytesArray n) (rest : SizedFields) : SizedFields :=
  static (bytesField tag x) (keySize tag .len + ((varint n).length + n)) (by
    intro bytes hbytes
    unfold bytesField at hbytes
    split at hbytes
    · contradiction
    · rename_i hsize
      split at hbytes
      · obtain rfl := Option.some.inj hbytes
        simp
      · obtain rfl := Option.some.inj hbytes
        have hmono := varint_length_mono (Nat.le_of_not_lt hsize)
        have htake := List.length_take_le x.size x.bytes.toList
        simp only [List.length_append, keySize]
        omega) rest

def fixedBytes {n : ℕ} (x : Vector UInt8 n) (rest : SizedFields) : SizedFields :=
  static (some (fixedBytesField tag x)) (keySize tag .len + ((varint n).length + n))
    (by rintro _ ⟨⟩; simp [fixedBytesField, keySize]) rest

/-- Numbers of at most `size` bytes in a packed field. -/
def packed {α : Type} {n : ℕ} (x : RepeatedField α n) (item : α → List UInt8) (size : ℕ)
    (h : ∀ a, (item a).length ≤ size) (rest : SizedFields) : SizedFields :=
  static (packedField tag x item) (keySize tag .len + ((varint (n*size)).length + n*size)) (by
    intro bytes hbytes
    unfold packedField at hbytes
    split at hbytes
    · contradiction
    · rename_i hcount
      split at hbytes
      · obtain rfl := Option.some.inj hbytes
        simp
      · obtain rfl := Option.some.inj hbytes
        have hbody : ((x.items.toList.take x.count).flatMap item).length ≤ n*size := by
          have hitems := length_flatMap_le h (x.items.toList.take x.count)
          rw [List.length_take_of_le (by simpa using hcount)] at hitems
          exact hitems.trans (Nat.mul_le_mul_right size (Nat.le_of_not_lt hcount))
        have hmono := varint_length_mono hbody
        simp only [List.length_append, keySize]
        omega) rest

/-- An element of a repeated text is written also when it is empty. -/
def item {n : ℕ} (x : CharArray n) (rest : SizedFields) : SizedFields :=
  static ((textOf x).map (stringBytes tag)) (keySize tag .len + ((varint (n-1)).length + (n-1))) (by
    intro bytes hbytes
    obtain ⟨text,htext,rfl⟩ := Option.map_eq_some_iff.mp hbytes
    exact stringBytes_length_le tag (textOf_length htext)) rest

/-- One field for each counted element; a count beyond the capacity is refused. -/
def repeated {α : Type} {n : ℕ} (x : RepeatedField α n) (one : α → SizedFields → SizedFields) (size : ℕ)
    (h : ∀ a r, (one a r).limit = size + r.limit) (rest : SizedFields) : SizedFields where
  fields :=
    if n < x.count then .static none rest.fields
    else ((x.items.toList.take x.count).foldr one rest).fields
  limit := n*size + rest.limit
  bounded := by
    intro output bytes hbytes
    have hlimit (as : List α) : (as.foldr one rest).limit = as.length*size + rest.limit := by
      induction as with
      | nil => simp
      | cons a as ih => rw [List.foldr_cons, h, ih, List.length_cons, Nat.succ_mul]; omega
    split at hbytes
    · simp [Fields.encoding] at hbytes
    · rename_i hcount
      have hle := (List.foldr _ rest _).bounded output bytes hbytes
      rw [hlimit, List.length_take_of_le (by simpa using hcount)] at hle
      exact hle.trans (Nat.add_le_add_right (Nat.mul_le_mul_right size (Nat.le_of_not_lt hcount)) _)

end

/-! Which values are accepted. -/

section
variable {tag : ℕ} {rest : SizedFields}

@[simp] theorem encodable_uint32 {v : UInt32} : (uint32 tag v rest).Encodable ↔ rest.Encodable := by
  simp [uint32, encodable_static]

@[simp] theorem encodable_uint64 {v : UInt64} : (uint64 tag v rest).Encodable ↔ rest.Encodable := by
  simp [uint64, encodable_static]

@[simp] theorem encodable_bool {v : Bool} : (bool tag v rest).Encodable ↔ rest.Encodable := by
  simp [bool, encodable_static]

@[simp] theorem encodable_enum {E : Type} {x : EnumField E} : (enum tag x rest).Encodable ↔ rest.Encodable := by
  simp [enum, encodable_static]

@[simp] theorem encodable_sint32 {v : Int32} : (sint32 tag v rest).Encodable ↔ rest.Encodable := by
  simp [sint32, encodable_static]

@[simp] theorem encodable_optionalUint32 {x : OptionalField UInt32} :
    (optionalUint32 tag x rest).Encodable ↔ rest.Encodable := by
  simp [optionalUint32, encodable_static]

@[simp] theorem encodable_optionalEnum {E : Type} {x : OptionalField (EnumField E)} :
    (optionalEnum tag x rest).Encodable ↔ rest.Encodable := encodable_optionalUint32

theorem textOf_isSome {n : ℕ} (x : CharArray n) : (textOf x).isSome = true ↔ valid x := by
  rw [valid_charArray, textOf]
  split <;> simp_all

@[simp] theorem encodable_string {n : ℕ} {x : CharArray n} :
    (string tag x rest).Encodable ↔ valid x ∧ rest.Encodable := by
  simp [string, encodable_static, stringField, textOf_isSome]

@[simp] theorem encodable_item {n : ℕ} {x : CharArray n} :
    (item tag x rest).Encodable ↔ valid x ∧ rest.Encodable := by
  simp [item, encodable_static, textOf_isSome]

@[simp] theorem encodable_bytes {n : ℕ} {x : BytesArray n} :
    (bytes tag x rest).Encodable ↔ valid x ∧ rest.Encodable := by
  have hsome : (bytesField tag x).isSome = true ↔ valid x := by
    rw [valid_bytesArray, bytesField, BytesArray.capacity]
    by_cases hsize : n < x.size
    · simp [hsize]
    · rw [if_neg hsize]
      have hle : x.size ≤ n := Nat.le_of_not_lt hsize
      by_cases hzero : x.size = 0 <;> simp [hzero, hle]
  rw [bytes, encodable_static, hsome]

@[simp] theorem encodable_fixedBytes {n : ℕ} {x : Vector UInt8 n} :
    (fixedBytes tag x rest).Encodable ↔ rest.Encodable := by
  simp [fixedBytes, encodable_static]

@[simp] theorem encodable_packed {α : Type} {n : ℕ} {x : RepeatedField α n} {item : α → List UInt8} {size : ℕ}
    {h : ∀ a, (item a).length ≤ size} :
    (packed tag x item size h rest).Encodable ↔ x.count ≤ n ∧ rest.Encodable := by
  have hsome : (packedField tag x item).isSome = true ↔ x.count ≤ n := by
    unfold packedField
    by_cases hcount : n < x.count
    · simp [hcount]
    · by_cases hzero : x.count = 0
      · simp [hzero]
      · simp [hcount, hzero, Nat.le_of_not_lt hcount]
  rw [packed, encodable_static, hsome]

theorem encodable_repeated {α : Type} {n : ℕ} {x : RepeatedField α n} {one : α → SizedFields → SizedFields}
    {size : ℕ} {h : ∀ a r, (one a r).limit = size + r.limit} {ok : α → Prop}
    (hok : ∀ a r, (one a r).Encodable ↔ ok a ∧ r.Encodable) :
    (repeated x one size h rest).Encodable ↔
      x.count ≤ n ∧ (∀ a ∈ x.items.toList.take x.count, ok a) ∧ rest.Encodable := by
  have hfold (as : List α) : (as.foldr one rest).Encodable ↔ (∀ a ∈ as, ok a) ∧ rest.Encodable := by
    induction as with
    | nil => simp
    | cons a as ih => simp [hok, ih, and_assoc]
  by_cases hcount : n < x.count
  · have hno : ¬(repeated x one size h rest).Encodable := by
      intro hall
      obtain ⟨_,hbytes⟩ := hall fun _ => []
      simp [repeated, hcount, Fields.encoding] at hbytes
    exact iff_of_false hno fun hall => absurd hall.1 (Nat.not_le_of_lt hcount)
  · rw [← hfold]
    simp only [Nat.le_of_not_lt hcount, true_and]
    simp [repeated, Encodable, hcount]

end

/-! The exact size of an encoding. -/

/-- The size of a field with so many bytes behind its length. -/
def delimited (tag n : ℕ) : ℕ := keySize tag .len + ((varint n).length + n)

/-- The encoding of the fields takes so many bytes. -/
def Takes (f : SizedFields) (n : ℕ) : Prop := ∀ output, ∃ bytes, f.fields.encoding output = some bytes ∧ bytes.length = n

section
variable {tag n k : ℕ} {body rest : SizedFields}

theorem takes_nil : nil.Takes 0 := fun _ => ⟨[],rfl,rfl⟩

theorem takes_static {field : List UInt8} {size : ℕ} {h : ∀ bytes ∈ some field, bytes.length ≤ size}
    (hrest : rest.Takes k) : (static (some field) size h rest).Takes (field.length + k) := by
  intro output
  obtain ⟨b,hb,rfl⟩ := hrest output
  exact ⟨field ++ b,by simp [static, Fields.encoding, hb],List.length_append⟩

theorem takes_uint32 (v : UInt32) (hrest : rest.Takes k) :
    (uint32 tag v rest).Takes ((uint32Field tag v).length + k) := takes_static hrest

theorem takes_enum {E : Type} (x : EnumField E) (hrest : rest.Takes k) :
    (enum tag x rest).Takes ((enumField tag x).length + k) := takes_static hrest

theorem takes_message (hbody : body.Takes n) (hrest : rest.Takes k) :
    (message tag true body rest).Takes (delimited tag n + k) := by
  intro output
  obtain ⟨a,ha,rfl⟩ := hbody output
  obtain ⟨b,hb,rfl⟩ := hrest output
  refine ⟨fieldKey ⟨tag,.len⟩ ++ ((varint a.length ++ a) ++ b),by simp [message, Fields.encoding, ha, hb],?_⟩
  simp only [List.length_append, delimited, keySize]
  omega

theorem takes_bytes {m : ℕ} {x : BytesArray m} (hx : x.size ≤ m) (hrest : rest.Takes k) :
    (bytes tag x rest).Takes ((if x.size = 0 then 0 else delimited tag x.size) + k) := by
  intro output
  obtain ⟨b,hb,rfl⟩ := hrest output
  have hmax : ¬m < x.size := by omega
  by_cases hzero : x.size = 0
  · refine ⟨b,?_,by simp [hzero]⟩
    simp [bytes, static, bytesField, hzero, Fields.encoding, hb]
  · refine ⟨fieldKey ⟨tag,.len⟩ ++ varint x.size ++ x.bytes.toList.take x.size ++ b,?_,?_⟩
    · simp [bytes, static, bytesField, hmax, hzero, Fields.encoding, hb]
    · have htake : (x.bytes.toList.take x.size).length = x.size := List.length_take_of_le (by simpa using hx)
      rw [if_neg hzero, List.length_append, List.length_append, List.length_append, htake, delimited, keySize]
      omega

/-- The elements take what each of them takes. -/
theorem takes_repeated {α : Type} {m : ℕ} {x : RepeatedField α m} {one : α → SizedFields → SizedFields} {size : ℕ}
    {h : ∀ a r, (one a r).limit = size + r.limit} {taken : α → ℕ} (hx : x.count ≤ m)
    (hone : ∀ a ∈ x.items.toList.take x.count, ∀ {r : SizedFields} {j}, r.Takes j → (one a r).Takes (taken a + j))
    (hrest : rest.Takes k) :
    (repeated x one size h rest).Takes (((x.items.toList.take x.count).map taken).sum + k) := by
  have hfold (as : List α) (has : ∀ a ∈ as, a ∈ x.items.toList.take x.count) :
      (as.foldr one rest).Takes ((as.map taken).sum + k) := by
    induction as with
    | nil => simpa using hrest
    | cons a as ih =>
      rw [List.foldr_cons, List.map_cons, List.sum_cons, Nat.add_assoc]
      exact hone a (has a List.mem_cons_self) (ih fun b hb => has b (List.mem_cons_of_mem a hb))
  intro output
  have hcount : ¬m < x.count := by omega
  simp only [repeated, hcount, if_false]
  exact hfold _ (fun _ ha => ha) output

/-- The one encoding there is decides what is said of its size. -/
theorem Takes.length_le_iff {f : SizedFields} (h : f.Takes n) (output : CallbackField → List UInt8) {limit : ℕ} :
    (∃ bytes, f.fields.encoding output = some bytes ∧ bytes.length ≤ limit) ↔ n ≤ limit := by
  obtain ⟨bytes,hbytes,rfl⟩ := h output
  constructor
  · rintro ⟨bytes',hbytes',hle⟩
    obtain rfl := Option.some.inj (hbytes.symm.trans hbytes')
    exact hle
  · intro hle
    exact ⟨bytes,hbytes,hle⟩

/-! What a message that was encoded is made of. -/

variable {output : CallbackField → List UInt8} {encoded : List UInt8}

theorem encoding_static {field : Option (List UInt8)} {size : ℕ} {h : ∀ bytes ∈ field, bytes.length ≤ size}
    (hencoded : (static field size h rest).fields.encoding output = some encoded) :
    field.isSome ∧ ∃ b, rest.fields.encoding output = some b := by
  simp only [static, Fields.encoding, Option.bind_eq_some_iff, Option.map_eq_some_iff] at hencoded
  obtain ⟨a,rfl,b,hb,-⟩ := hencoded
  exact ⟨rfl,b,hb⟩

theorem encoding_message (hencoded : (message tag true body rest).fields.encoding output = some encoded) :
    (∃ a, body.fields.encoding output = some a) ∧ ∃ b, rest.fields.encoding output = some b := by
  simp only [message, if_true, Fields.encoding, Option.bind_eq_some_iff, Option.map_eq_some_iff] at hencoded
  obtain ⟨a,ha,b,hb,-⟩ := hencoded
  exact ⟨⟨a,ha⟩,b,hb⟩

theorem encoding_bytes {m : ℕ} {x : BytesArray m} (hencoded : (bytes tag x rest).fields.encoding output = some encoded) :
    x.size ≤ m := by
  obtain ⟨hsome,-⟩ := encoding_static hencoded
  by_contra hx
  simp [bytesField, not_le.mp hx] at hsome

/-- No element that was encoded is one that the runtime refuses. -/
theorem encoding_repeated {α : Type} {m : ℕ} {x : RepeatedField α m} {one : α → SizedFields → SizedFields} {size : ℕ}
    {h : ∀ a r, (one a r).limit = size + r.limit} {ok : α → Prop}
    (hone : ∀ a r encoded, (one a r).fields.encoding output = some encoded →
      ok a ∧ ∃ b, r.fields.encoding output = some b)
    (hencoded : (repeated x one size h rest).fields.encoding output = some encoded) :
    x.count ≤ m ∧ ∀ a ∈ x.items.toList.take x.count, ok a := by
  have hfold (as : List α) (encoded : List UInt8) (has : (as.foldr one rest).fields.encoding output = some encoded) :
      ∀ a ∈ as, ok a := by
    induction as generalizing encoded with
    | nil => simp
    | cons a as ih =>
      obtain ⟨ha,b,hb⟩ := hone a _ _ has
      exact List.forall_mem_cons.mpr ⟨ha,ih b hb⟩
  by_cases hcount : m < x.count
  · simp [repeated, hcount, Fields.encoding] at hencoded
  · simp only [repeated, hcount, if_false] at hencoded
    exact ⟨not_lt.mp hcount,hfold _ _ hencoded⟩

end
end SizedFields
end WhadLib
