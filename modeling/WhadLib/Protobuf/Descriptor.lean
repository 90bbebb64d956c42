import WhadLib.Wire
import WhadLib.Protobuf.Records

/-! The descriptors that the generated headers give to the runtime, and what the records of a message
mean by one. Records with tags that a descriptor does not know mean nothing; where a field that is
not repeated comes more than once, the message has no meaning here. -/
namespace WhadLib

/-- The types of single fields. -/
inductive FieldType
  | uint32
  | uint64
  | int32
  | bool
  | uenum
  | bytes (capacity : ℕ)
  | fixedLengthBytes (size : ℕ)
  | callback (wireType : WireType)
  deriving DecidableEq, Repr

namespace FieldType

def CallbackFree : FieldType → Bool
  | .callback _ => false
  | _ => true

/-- The values of a type. -/
def Holds : FieldType → WireValue → Prop
  | .uint32, .uint32 _ => True
  | .uint64, .uint64 _ => True
  | .int32, .int32 _ => True
  | .bool, .bool _ => True
  | .uenum, .enum _ => True
  | .bytes capacity, .bytes content => ∀ b ∈ content, b.length ≤ capacity
  | .fixedLengthBytes size, .fixed content => content.length = size
  | .callback wireType, .callback wireType' _ => wireType = wireType'
  | _, _ => False

/-- The cases of `Holds`: one for each type, with a value of its own. -/
@[elab_as_elim]
theorem holds_cases {motive : ∀ (type : FieldType) (v : WireValue), type.Holds v → Prop}
    (uint32 : ∀ v, motive .uint32 (.uint32 v) trivial) (uint64 : ∀ v, motive .uint64 (.uint64 v) trivial)
    (int32 : ∀ v, motive .int32 (.int32 v) trivial) (bool : ∀ v, motive .bool (.bool v) trivial)
    (uenum : ∀ raw, motive .uenum (.enum raw) trivial)
    (bytes : ∀ capacity content h, motive (.bytes capacity) (.bytes content) h)
    (fixedLengthBytes : ∀ size content h, motive (.fixedLengthBytes size) (.fixed content) h)
    (callback : ∀ wireType wireType' c h, motive (.callback wireType) (.callback wireType' c) h) {type : FieldType}
    {v : WireValue} (h : type.Holds v) : motive type v h := by
  cases type with
  | uint32 => cases v <;> first | exact h.elim | exact uint32 _
  | uint64 => cases v <;> first | exact h.elim | exact uint64 _
  | int32 => cases v <;> first | exact h.elim | exact int32 _
  | bool => cases v <;> first | exact h.elim | exact bool _
  | uenum => cases v <;> first | exact h.elim | exact uenum _
  | bytes => cases v <;> first | exact h.elim | exact bytes _ _ _
  | fixedLengthBytes => cases v <;> first | exact h.elim | exact fixedLengthBytes _ _ _
  | callback => cases v <;> first | exact h.elim | exact callback _ _ _ _

/-- The value of a field that was left out. -/
def initial : FieldType → WireValue
  | .uint32 => .uint32 0
  | .uint64 => .uint64 0
  | .int32 => .int32 0
  | .bool => .bool false
  | .uenum => .enum 0
  | .bytes _ => .bytes (some [])
  | .fixedLengthBytes size => .fixed (List.replicate size 0)
  | .callback wireType => .callback wireType .unset

/-- The value that a payload stands for. A negative number is written with 64 bits. -/
def read : FieldType → Payload → Option WireValue
  | .uint32, .varint v => if v < 2^32 then some (.uint32 (UInt32.ofNat v)) else none
  | .uint64, .varint v => if v < 2^64 then some (.uint64 (UInt64.ofNat v)) else none
  | .int32, .varint v =>
    if v < 2^31 then some (.int32 (Int32.ofInt v))
    else if 2^64-2^31 ≤ v ∧ v < 2^64 then some (.int32 (Int32.ofInt ((v : ℤ)-2^64)))
    else none
  | .bool, .varint v => if v < 2^32 then some (.bool (v ≠ 0)) else none
  | .uenum, .varint v => if v < 2^32 then some (.enum v) else none
  | .bytes capacity, .len content => if content.length ≤ capacity then some (.bytes (some content)) else none
  | .fixedLengthBytes size, .len content => if content.length = size then some (.fixed content) else none
  | _, _ => none

/-- The value of a field from all payloads under its tag. What a callback field holds is for the callback. -/
def readField : FieldType → List Payload → Option WireValue
  | .callback wireType, _ => some (.callback wireType .unset)
  | type, [] => some type.initial
  | type, [p] => type.read p
  | _, _ => none

end FieldType

/-- The fields of a message in the order of the field list. A `oneof` is a member of the union that closes
the message. -/
inductive Descriptor
  | nil
  | singular (tag : ℕ) (type : FieldType) (rest : Descriptor)
  | optional (tag : ℕ) (type : FieldType) (rest : Descriptor)
  | optionalMessage (tag : ℕ) (body rest : Descriptor)
  | repeated (tag capacity : ℕ) (body rest : Descriptor)
  | oneof (tag : ℕ) (type : FieldType) (rest : Descriptor)
  | oneofMessage (tag : ℕ) (body rest : Descriptor)
  deriving DecidableEq, Repr

/-- The payloads under a tag, in order. -/
def payloads (tag : ℕ) (rs : List Record) : List Payload := (rs.filter fun r => r.tag = tag).map Record.payload

/-- A submessage, given the meaning of its records. -/
def readMessage (read : List Record → Option Wire) : Payload → Option Wire
  | .len bytes => (readRecords bytes).bind read
  | _ => none

namespace Descriptor

def tags : Descriptor → List ℕ
  | .nil => []
  | .singular tag _ rest => tag :: rest.tags
  | .optional tag _ rest => tag :: rest.tags
  | .optionalMessage tag _ rest => tag :: rest.tags
  | .repeated tag _ _ rest => tag :: rest.tags
  | .oneof tag _ rest => tag :: rest.tags
  | .oneofMessage tag _ rest => tag :: rest.tags

/-- The tag is a field number, and no other field has it. -/
def NewTag (tag : ℕ) (rest : Descriptor) : Prop := 0 < tag ∧ tag < 2^29 ∧ tag ∉ rest.tags

instance (tag : ℕ) (rest : Descriptor) : Decidable (NewTag tag rest) := inferInstanceAs (Decidable (_ ∧ _))

/-- Every field has a tag of its own, and only a singular one is left to a callback. -/
def WellFormed : Descriptor → Prop
  | .nil => True
  | .singular tag _ rest => NewTag tag rest ∧ rest.WellFormed
  | .optional tag type rest => NewTag tag rest ∧ type.CallbackFree = true ∧ rest.WellFormed
  | .optionalMessage tag body rest => NewTag tag rest ∧ body.WellFormed ∧ rest.WellFormed
  | .repeated tag _ body rest => NewTag tag rest ∧ body.WellFormed ∧ rest.WellFormed
  | .oneof tag type rest => NewTag tag rest ∧ type.CallbackFree = true ∧ rest.WellFormed
  | .oneofMessage tag body rest => NewTag tag rest ∧ body.WellFormed ∧ rest.WellFormed

instance decidableWellFormed : (d : Descriptor) → Decidable d.WellFormed
  | .nil => isTrue trivial
  | .singular _ _ rest =>
    have := decidableWellFormed rest
    inferInstanceAs (Decidable (_ ∧ _))
  | .optional _ _ rest | .oneof _ _ rest =>
    have := decidableWellFormed rest
    inferInstanceAs (Decidable (_ ∧ _ ∧ _))
  | .optionalMessage _ body rest | .repeated _ _ body rest | .oneofMessage _ body rest =>
    have := decidableWellFormed body
    have := decidableWellFormed rest
    inferInstanceAs (Decidable (_ ∧ _ ∧ _))

/-- What the records of a message mean. -/
def read : Descriptor → List Record → Option Wire
  | .nil, _ => some .nil
  | .singular tag type rest, rs =>
    (type.readField (payloads tag rs)).bind fun v => (rest.read rs).map (.field tag v)
  | .optional tag type rest, rs =>
    match payloads tag rs with
    | [] => (rest.read rs).map (.field tag .absent)
    | [p] => (type.read p).bind fun v => (rest.read rs).map (.field tag (.present v))
    | _ => none
  | .optionalMessage tag body rest, rs =>
    match payloads tag rs with
    | [] => (rest.read rs).map (.field tag .absent)
    | [p] => (readMessage body.read p).bind fun b => (rest.read rs).map (.message tag b)
    | _ => none
  | .repeated tag capacity body rest, rs =>
    if (payloads tag rs).length ≤ capacity then
      ((payloads tag rs).mapM (readMessage body.read)).bind fun bs =>
        (rest.read rs).map fun w => bs.foldr (.message tag) w
    else none
  | .oneof tag type rest, rs =>
    match payloads tag rs with
    | [] => rest.read rs
    | [p] => if ∀ t ∈ rest.tags, payloads t rs = [] then (type.read p).map fun v => .field tag (.present v) .nil else none
    | _ => none
  | .oneofMessage tag body rest, rs =>
    match payloads tag rs with
    | [] => rest.read rs
    | [p] => if ∀ t ∈ rest.tags, payloads t rs = [] then (readMessage body.read p).map fun b => .message tag b .nil else none
    | _ => none

/-- The trees of fields that a descriptor describes, whatever the values are. -/
inductive Describes : Descriptor → Wire → Prop
  | nil : Describes .nil .nil
  | singular {tag type rest v w} (hv : type.Holds v) (hw : Describes rest w) :
    Describes (.singular tag type rest) (.field tag v w)
  | absent {tag type rest w} (hw : Describes rest w) : Describes (.optional tag type rest) (.field tag .absent w)
  | present {tag type rest v w} (hv : type.Holds v) (hw : Describes rest w) :
    Describes (.optional tag type rest) (.field tag (.present v) w)
  | noMessage {tag body rest w} (hw : Describes rest w) :
    Describes (.optionalMessage tag body rest) (.field tag .absent w)
  | message {tag body rest b w} (hb : Describes body b) (hw : Describes rest w) :
    Describes (.optionalMessage tag body rest) (.message tag b w)
  | refused {tag capacity body rest} : Describes (.repeated tag capacity body rest) .refused
  | last {tag capacity body rest w} (hw : Describes rest w) : Describes (.repeated tag capacity body rest) w
  | next {tag capacity body rest b w} (hb : Describes body b) (hw : Describes (.repeated tag capacity body rest) w) :
    Describes (.repeated tag (capacity+1) body rest) (.message tag b w)
  | member {tag type rest v} (hv : type.Holds v) : Describes (.oneof tag type rest) (.field tag (.present v) .nil)
  | notMember {tag type rest w} (hw : Describes rest w) : Describes (.oneof tag type rest) w
  | messageMember {tag body rest b} (hb : Describes body b) :
    Describes (.oneofMessage tag body rest) (.message tag b .nil)
  | notMessageMember {tag body rest w} (hw : Describes rest w) : Describes (.oneofMessage tag body rest) w

end Descriptor

section
variable {tag : ℕ} {own rs rs' : List Record}

theorem payloads_of_not_mem (h : ∀ r ∈ rs, r.tag ≠ tag) : payloads tag rs = [] := by
  simpa [payloads] using h

@[simp] theorem payloads_append : payloads tag (own ++ rs) = payloads tag own ++ payloads tag rs := by
  simp [payloads]

@[simp] theorem payloads_nil : payloads tag [] = [] := rfl

@[simp] theorem payloads_cons_self (p : Payload) : payloads tag (⟨tag,p⟩ :: rs) = p :: payloads tag rs := by
  simp [payloads]

/-- Only the payloads under the tags of the descriptor matter. -/
theorem Descriptor.read_congr {d : Descriptor} (h : ∀ t ∈ d.tags, payloads t rs = payloads t rs') :
    d.read rs = d.read rs' := by
  induction d with
  | nil => rfl
  | singular tag type rest ih =>
    rw [tags, List.forall_mem_cons] at h
    rw [read, read, h.1, ih h.2]
  | optional tag type rest ih =>
    rw [tags, List.forall_mem_cons] at h
    rw [read, read, h.1, ih h.2]
  | optionalMessage tag body rest ihbody ih =>
    rw [tags, List.forall_mem_cons] at h
    rw [read, read, h.1, ih h.2]
  | repeated tag capacity body rest ihbody ih =>
    rw [tags, List.forall_mem_cons] at h
    rw [read, read, h.1, ih h.2]
  | oneof tag type rest ih =>
    rw [tags, List.forall_mem_cons] at h
    have hothers : (∀ t ∈ rest.tags, payloads t rs = []) ↔ ∀ t ∈ rest.tags, payloads t rs' = [] :=
      forall₂_congr fun t ht => by rw [h.2 t ht]
    simp only [read, h.1, ih h.2, hothers]
  | oneofMessage tag body rest ihbody ih =>
    rw [tags, List.forall_mem_cons] at h
    have hothers : (∀ t ∈ rest.tags, payloads t rs = []) ↔ ∀ t ∈ rest.tags, payloads t rs' = [] :=
      forall₂_congr fun t ht => by rw [h.2 t ht]
    simp only [read, h.1, ih h.2, hothers]

/-- Records with unknown tags in front change nothing. -/
theorem Descriptor.read_append {d : Descriptor} (h : ∀ r ∈ own, r.tag ∉ d.tags) : d.read (own ++ rs) = d.read rs := by
  apply read_congr
  intro t ht
  have hown : ∀ r ∈ own, r.tag ≠ t := by
    rintro r hr rfl
    exact h r hr ht
  rw [payloads_append, payloads_of_not_mem hown, List.nil_append]

end
end WhadLib
