import WhadLib.Protobuf.Limit
import WhadLib.Structs

/-! What the descriptors of all domains share: how the types of the generated headers are declared to
the runtime, and the structures that several domains declare alike. -/
namespace WhadLib
open Library

section
variable {n : ℕ}

theorem holds_bytes (x : BytesArray n) : (FieldType.bytes n).Holds (value x) := by
  intro b hb
  simp only [BytesArray.content, Option.mem_def] at hb
  split at hb
  · contradiction
  · rename_i hsize
    obtain rfl := Option.some.inj hb
    exact (List.length_take_le _ _).trans (by omega)

theorem holds_fixed (v : Vector UInt8 n) : (FieldType.fixedLengthBytes n).Holds (value v) := Vector.length_toList

end

namespace Descriptor.Describes
variable {α : Type} {tag : ℕ} {body rest : Descriptor} {w : Wire} {wire : α → Wire}

/-- A field with a presence flag. -/
theorem value_optional [FieldValue α] {type : FieldType} {x : OptionalField α} (hv : type.Holds (value x.value))
    (hw : rest.Describes w) : (Descriptor.optional tag type rest).Describes (.field tag (value x) w) := by
  obtain ⟨has,v⟩ := x
  cases has with
  | false => exact .absent hw
  | true => exact .present hv hw

/-- A submessage with a presence flag. -/
theorem wire_optional {x : OptionalField α} (hb : body.Describes (wire x.value)) (hw : rest.Describes w) :
    (Descriptor.optionalMessage tag body rest).Describes (Wire.optional tag x wire w) := by
  obtain ⟨has,v⟩ := x
  cases has with
  | false => exact .noMessage hw
  | true => exact .message hb hw

/-- A counted array of submessages. -/
theorem wire_repeated {n : ℕ} {x : RepeatedField α n} (hb : ∀ a, body.Describes (wire a)) (hw : rest.Describes w) :
    (Descriptor.repeated tag n body rest).Describes (Wire.repeated tag x wire w) := by
  have hlist (as : List α) {k : ℕ} (hk : as.length ≤ k) :
      (Descriptor.repeated tag k body rest).Describes (as.foldr (fun a r => .message tag (wire a) r) w) := by
    induction as generalizing k with
    | nil => exact .last hw
    | cons a as ih =>
      obtain ⟨k,rfl⟩ : ∃ l, k = l+1 := ⟨k-1,by rw [List.length_cons] at hk; omega⟩
      exact .next (hb a) (ih (Nat.le_of_succ_le_succ hk))
  unfold Wire.repeated
  split
  · exact .refused
  · exact hlist _ ((List.length_take_le _ _).trans (by omega))

end Descriptor.Describes

def EmptyMessage.descriptor : Descriptor := .nil

def ChannelCmd.descriptor : Descriptor := .singular 1 .uint32 <| .nil

def Jammed.descriptor : Descriptor := .singular 1 .uint64 <| .nil

end WhadLib
