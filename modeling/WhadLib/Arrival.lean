import WhadLib.MessageCodec

/-! A message and what has arrived of it on the other side. The fields that the reader sees determine the tags,
and with them the member that both sides look at. -/
namespace WhadLib
open Library

/-- The second message shows what the first one does, as a reader sees it. -/
def Arrived (m m' : FullMessage) : Prop := m'.tree = m.tree.received

namespace FullMessage
variable {m m' : FullMessage} {k k' : Kind}

end FullMessage

/-! Fields that arrive as they were sent. -/

/-- The number has the 32 bits of an object of an enumeration type. -/
def Library.EnumField.Narrow {E : Type} (e : EnumField E) : Prop := 0 ≤ e.raw ∧ e.raw < 2^32

/-- A value that the encoder accepts and the reader sees as it is. -/
structure WireValue.Intact (v : WireValue) : Prop where
  accepted : v.Accepted
  received : v.received = v

structure Wire.Intact (w : Wire) : Prop where
  accepted : w.Accepted
  received : w.received = w

section
variable {n : ℕ}

@[simp] theorem Wire.intact_nil : Wire.nil.Intact := ⟨trivial,rfl⟩

@[simp] theorem Wire.intact_field {tag : ℕ} {v : WireValue} {rest : Wire} :
    (Wire.field tag v rest).Intact ↔ v.Intact ∧ rest.Intact := by
  constructor
  · rintro ⟨⟨hv,hrest⟩,h⟩
    obtain ⟨-,hvalue,hrest'⟩ := Wire.field.inj h
    exact ⟨⟨hv,hvalue⟩,⟨hrest,hrest'⟩⟩
  · rintro ⟨⟨hv,hvalue⟩,⟨hrest,hrest'⟩⟩
    exact ⟨⟨hv,hrest⟩,by rw [Wire.received, hvalue, hrest']⟩

@[simp] theorem intact_uint32 (x : UInt32) : (value x).Intact := ⟨trivial,rfl⟩
@[simp] theorem intact_uint64 (x : UInt64) : (value x).Intact := ⟨trivial,rfl⟩
@[simp] theorem intact_int32 (x : Int32) : (value x).Intact := ⟨trivial,rfl⟩
@[simp] theorem intact_bool (x : Bool) : (value x).Intact := ⟨trivial,rfl⟩
@[simp] theorem intact_vector (x : Vector UInt8 n) : (value x).Intact := ⟨trivial,rfl⟩

@[simp] theorem intact_enum {E : Type} {e : EnumField E} : (value e).Intact ↔ e.Narrow := by
  constructor
  · rintro ⟨-,h⟩
    have hmod : e.raw % 2^32 = e.raw := WireValue.enum.inj h
    exact ⟨by omega,by omega⟩
  · rintro ⟨hpos,hlt⟩
    exact ⟨trivial,congrArg WireValue.enum (Int.emod_eq_of_lt hpos hlt)⟩

@[simp] theorem intact_bytes {x : BytesArray n} : (value x).Intact ↔ x.size ≤ n :=
  ⟨fun h => (accepted_bytes_iff x).mp h.accepted,fun h => ⟨(accepted_bytes_iff x).mpr h,rfl⟩⟩

@[simp] theorem intact_absent : WireValue.absent.Intact := ⟨trivial,rfl⟩

@[simp] theorem intact_present {v : WireValue} : v.present.Intact ↔ v.Intact :=
  ⟨fun h => ⟨h.accepted,WireValue.present.inj h.received⟩,fun h => ⟨h.accepted,congrArg WireValue.present h.received⟩⟩

/-- A value behind its flag. -/
@[simp] theorem intact_optional {α : Type} [FieldValue α] {x : OptionalField α} :
    (value x).Intact ↔ (x.has = true → (value x.value).Intact) := by
  cases x with | mk has v => cases has <;> simp

end

/-- The tag of the first field. -/
def Wire.firstTag : Wire → Option ℕ
  | .field tag _ _ => some tag
  | .message tag _ _ => some tag
  | _ => none

@[simp] theorem Wire.firstTag_received (w : Wire) : w.received.firstTag = w.firstTag := by cases w <;> rfl

theorem Kind.firstTag_member (k : Kind) (p : k.Struct) : (k.member p).firstTag = some k.tag := by
  cases k with
  | generic k => cases k <;> rfl
  | _ => rfl

/-- The member can be told from the fields of the message of its domain. -/
theorem Kind.eq_of_member {k k' : Kind} {p : k.Struct} {p' : k'.Struct} (hdomain : k'.domainTag = k.domainTag)
    (h : k'.member p' = (k.member p).received) : k' = k := by
  have htag := congrArg Wire.firstTag h
  rw [Wire.firstTag_received, firstTag_member, firstTag_member, Option.some.injEq] at htag
  have hselect := Kind.select_tag k'
  rw [hdomain, htag, Kind.select_tag k] at hselect
  exact (Option.some.inj hselect).symm

/-- What has arrived of a message of a kind is one of that kind, with the fields as a reader sees them. -/
theorem Arrived.member {m m' : FullMessage} {k : Kind} (h : Arrived m m') (hk : m.Holds k) :
    m'.Holds k ∧ k.member (m'.msg k) = (k.member (m.msg k)).received := by
  rw [Arrived, hk.tree] at h
  have hmem : m'.whichMsg ∈ domainDescriptors.map Prod.fst := by
    by_contra hnot
    rw [FullMessage.tree, if_neg hnot] at h
    contradiction
  rw [FullMessage.tree, if_pos hmem] at h
  obtain ⟨hdomain,hmember,-⟩ := Wire.message.inj h
  cases hk' : m'.kind with
  | none =>
    -- a message without a member shows none
    rw [FullMessage.domainMessage, hk'] at hmember
    have htag := congrArg Wire.firstTag hmember
    rw [Wire.firstTag_received, Kind.firstTag_member] at htag
    contradiction
  | some k' =>
    have hholds := FullMessage.kind_eq_some_iff.mp hk'
    rw [FullMessage.domainMessage, hk'] at hmember
    obtain rfl := Kind.eq_of_member (hholds.domain.symm.trans hdomain) hmember
    exact ⟨hholds,hmember⟩

/-- The visible fields of a member from those of the message of its domain. -/
theorem Kind.wire_of_member {k : Kind} {p q : k.Struct} (h : k.member q = (k.member p).received) :
    k.wire q = (k.wire p).received := by
  cases k with
  | generic k => cases k <;> first | exact h | exact (Wire.message.inj h).2.1
  | _ => exact (Wire.message.inj h).2.1

theorem Arrived.holds {m m' : FullMessage} {k : Kind} (h : Arrived m m') (hk : m.Holds k) : m'.Holds k :=
  (h.member hk).1

theorem Arrived.wire {m m' : FullMessage} {k : Kind} (h : Arrived m m') (hk : m.Holds k) :
    k.wire (m'.msg k) = (k.wire (m.msg k)).received :=
  Kind.wire_of_member (h.member hk).2

end WhadLib
