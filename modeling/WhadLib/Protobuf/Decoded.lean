import WhadLib.Protobuf.Codec
import WhadLib.Structs

/-! What comes out of a reader. Whatever the bytes are, the tree that a descriptor reads from them has the
fields of the descriptor, with values of the types that the structures hold, and no size beyond its capacity. -/
namespace WhadLib
open Library

/-- The values that a reader makes of a field. -/
def FieldType.Yields : FieldType → WireValue → Prop
  | .uint32, v => ∃ x : UInt32, v = value x
  | .uint64, v => ∃ x : UInt64, v = value x
  | .int32, v => ∃ x : Int32, v = value x
  | .bool, v => ∃ x : Bool, v = value x
  | .uenum, v => ∃ raw : ℤ, (0 ≤ raw ∧ raw < 2^32) ∧ v = .enum raw
  | .bytes capacity, v => ∃ x : BytesArray capacity, x.size ≤ capacity ∧ v = value x
  | .fixedLengthBytes size, v => ∃ x : Vector UInt8 size, v = value x
  | .callback wireType, v => v = .callback wireType .unset

/-- The trees that a reader makes of a message. -/
def Descriptor.Yields : Descriptor → Wire → Prop
  | .nil, w => w = .nil
  | .singular tag type rest, w => ∃ v w', w = .field tag v w' ∧ type.Yields v ∧ rest.Yields w'
  | .optional tag type rest, w =>
    ∃ v w', w = .field tag v w' ∧ (v = .absent ∨ ∃ v', v = .present v' ∧ type.Yields v') ∧ rest.Yields w'
  | .optionalMessage tag body rest, w =>
    (∃ w', w = .field tag .absent w' ∧ rest.Yields w') ∨
      ∃ b w', w = .message tag b w' ∧ body.Yields b ∧ rest.Yields w'
  | .repeated tag capacity body rest, w =>
    ∃ (bs : List Wire) (w' : Wire), w = bs.foldr (.message tag) w' ∧ bs.length ≤ capacity ∧ (∀ b ∈ bs, body.Yields b) ∧ rest.Yields w'
  | .oneof tag type rest, w => (∃ v, w = .field tag (.present v) .nil ∧ type.Yields v) ∨ rest.Yields w
  | .oneofMessage tag body rest, w => (∃ b, w = .message tag b .nil ∧ body.Yields b) ∨ rest.Yields w

section
variable {n : ℕ}

/-- The bytes of a list, as a counted array. -/
theorem exists_bytesArray {content : List UInt8} (h : content.length ≤ n) :
    ∃ x : BytesArray n, x.size ≤ n ∧ WireValue.bytes (some content) = value x := by
  let bytes : Vector UInt8 n := Vector.ofFn fun i => content.getD i 0
  refine ⟨⟨content.length,bytes⟩,h,congrArg WireValue.bytes ?_⟩
  have htake : content = bytes.toList.take content.length := by
    apply List.ext_getElem
    · simpa [bytes] using h
    · intro i hi hi'
      simp [bytes, hi]
  rw [BytesArray.content, if_neg (not_lt.mpr h), ← htake]

theorem exists_vector {content : List UInt8} (h : content.length = n) :
    ∃ x : Vector UInt8 n, WireValue.fixed content = value x := by
  subst h
  exact ⟨⟨content.toArray,by simp⟩,by simp [value]⟩

end

namespace FieldType
variable {type : FieldType} {v : WireValue}

theorem yields_of_read {p : Payload} (h : type.read p = some v) : type.Yields v := by
  unfold read at h
  split at h <;> (try split at h) <;> (try split at h) <;> simp only [Option.some.injEq, reduceCtorEq] at h
  all_goals subst h
  · exact ⟨_,rfl⟩
  · exact ⟨_,rfl⟩
  · exact ⟨_,rfl⟩
  · exact ⟨_,rfl⟩
  · exact ⟨_,rfl⟩
  · rename_i hlt
    exact ⟨_,⟨by omega,by omega⟩,rfl⟩
  · rename_i hle
    exact exists_bytesArray hle
  · rename_i hsize
    exact exists_vector hsize

theorem yields_initial (type : FieldType) : type.Yields type.initial := by
  cases type with
  | uenum => exact ⟨0,by decide,rfl⟩
  | bytes capacity => exact exists_bytesArray (Nat.zero_le capacity)
  | fixedLengthBytes size => exact exists_vector List.length_replicate
  | callback => rfl
  | _ => exact ⟨_,rfl⟩

theorem yields_of_readField {ps : List Payload} (h : type.readField ps = some v) : type.Yields v := by
  unfold readField at h
  split at h
  · exact (Option.some.inj h).symm
  · obtain rfl := Option.some.inj h
    exact type.yields_initial
  · exact yields_of_read h
  · contradiction

/-- A value that was read shows all of itself to the next reader. -/
theorem Yields.received (h : type.Yields v) : v.Accepted ∧ v.received = v := by
  cases type with
  | uenum =>
    obtain ⟨raw,⟨hzero,hlt⟩,rfl⟩ := h
    exact ⟨trivial,congrArg WireValue.enum (Int.emod_eq_of_lt hzero hlt)⟩
  | bytes capacity =>
    obtain ⟨x,hx,rfl⟩ := h
    exact ⟨(accepted_bytes_iff x).mpr hx,rfl⟩
  | callback =>
    obtain rfl := h
    exact ⟨trivial,rfl⟩
  | _ =>
    obtain ⟨x,rfl⟩ := h
    exact ⟨trivial,rfl⟩

end FieldType

/-! A list whose elements are read one by one. -/
section
variable {α β : Type} {f : α → Option β} {xs : List α} {ys : List β}

theorem length_of_mapM (h : xs.mapM f = some ys) : ys.length = xs.length := by
  induction xs generalizing ys with
  | nil =>
    obtain rfl := Option.some.inj h
    rfl
  | cons x xs ih =>
    simp only [List.mapM_cons, Option.bind_eq_bind, Option.bind_eq_some_iff, Option.pure_def, Option.some.injEq] at h
    obtain ⟨y,-,ys',hys,rfl⟩ := h
    exact congrArg Nat.succ (ih hys)

theorem exists_of_mapM (h : xs.mapM f = some ys) : ∀ y ∈ ys, ∃ x ∈ xs, f x = some y := by
  induction xs generalizing ys with
  | nil =>
    obtain rfl := Option.some.inj h
    exact fun y hy => absurd hy List.not_mem_nil
  | cons x xs ih =>
    simp only [List.mapM_cons, Option.bind_eq_bind, Option.bind_eq_some_iff, Option.pure_def, Option.some.injEq] at h
    obtain ⟨y,hy,ys',hys,rfl⟩ := h
    intro y' hy'
    rcases List.mem_cons.mp hy' with rfl | hmem
    · exact ⟨x,List.mem_cons_self,hy⟩
    · obtain ⟨x',hx',hf⟩ := ih hys y' hmem
      exact ⟨x',List.mem_cons_of_mem x hx',hf⟩

end

namespace Descriptor

theorem yields_of_readMessage {read : List Record → Option Wire} {p : Payload} {b : Wire}
    (h : readMessage read p = some b) : ∃ rs, read rs = some b := by
  cases p with
  | len bytes =>
    obtain ⟨rs,-,hread⟩ := Option.bind_eq_some_iff.mp h
    exact ⟨rs,hread⟩
  | _ => contradiction

/-- Whatever the records are, what is read has the fields of the descriptor. -/
theorem yields_of_read {d : Descriptor} {rs : List Record} {w : Wire} (h : d.read rs = some w) : d.Yields w := by
  induction d generalizing rs w with
  | nil => exact (Option.some.inj h).symm
  | singular tag type rest ih =>
    obtain ⟨v,hv,hrest⟩ := Option.bind_eq_some_iff.mp h
    obtain ⟨w',hw',rfl⟩ := Option.map_eq_some_iff.mp hrest
    exact ⟨v,w',rfl,FieldType.yields_of_readField hv,ih hw'⟩
  | optional tag type rest ih =>
    rw [read] at h
    split at h
    · obtain ⟨w',hw',rfl⟩ := Option.map_eq_some_iff.mp h
      exact ⟨_,w',rfl,.inl rfl,ih hw'⟩
    · obtain ⟨v,hv,hrest⟩ := Option.bind_eq_some_iff.mp h
      obtain ⟨w',hw',rfl⟩ := Option.map_eq_some_iff.mp hrest
      exact ⟨_,w',rfl,.inr ⟨v,rfl,FieldType.yields_of_read hv⟩,ih hw'⟩
    · contradiction
  | optionalMessage tag body rest ihbody ih =>
    rw [read] at h
    split at h
    · obtain ⟨w',hw',rfl⟩ := Option.map_eq_some_iff.mp h
      exact .inl ⟨w',rfl,ih hw'⟩
    · obtain ⟨b,hb,hrest⟩ := Option.bind_eq_some_iff.mp h
      obtain ⟨w',hw',rfl⟩ := Option.map_eq_some_iff.mp hrest
      obtain ⟨rs',hb⟩ := yields_of_readMessage hb
      exact .inr ⟨b,w',rfl,ihbody hb,ih hw'⟩
    · contradiction
  | repeated tag capacity body rest ihbody ih =>
    rw [read] at h
    split at h
    · rename_i hle
      obtain ⟨bs,hbs,hrest⟩ := Option.bind_eq_some_iff.mp h
      obtain ⟨w',hw',rfl⟩ := Option.map_eq_some_iff.mp hrest
      refine ⟨bs,w',rfl,(length_of_mapM hbs).trans_le hle,fun b hb => ?_,ih hw'⟩
      obtain ⟨p,-,hp⟩ := exists_of_mapM hbs b hb
      obtain ⟨rs',hb⟩ := yields_of_readMessage hp
      exact ihbody hb
    · contradiction
  | oneof tag type rest ih =>
    rw [read] at h
    split at h
    · exact .inr (ih h)
    · split at h
      · obtain ⟨v,hv,rfl⟩ := Option.map_eq_some_iff.mp h
        exact .inl ⟨v,rfl,FieldType.yields_of_read hv⟩
      · contradiction
    · contradiction
  | oneofMessage tag body rest ihbody ih =>
    rw [read] at h
    split at h
    · exact .inr (ih h)
    · split at h
      · obtain ⟨b,hb,rfl⟩ := Option.map_eq_some_iff.mp h
        obtain ⟨rs',hb⟩ := yields_of_readMessage hb
        exact .inl ⟨b,rfl,ihbody hb⟩
      · contradiction
    · contradiction

/-- A tree that was read shows all of itself to the next reader. -/
theorem Yields.received {d : Descriptor} {w : Wire} (h : d.Yields w) : w.Accepted ∧ w.received = w := by
  induction d generalizing w with
  | nil =>
    obtain rfl := h
    exact ⟨trivial,rfl⟩
  | singular tag type rest ih =>
    obtain ⟨v,w',rfl,hv,hw'⟩ := h
    obtain ⟨hacc,hreceived⟩ := ih hw'
    exact ⟨⟨hv.received.1,hacc⟩,by rw [Wire.received, hv.received.2, hreceived]⟩
  | optional tag type rest ih =>
    obtain ⟨v,w',rfl,hv,hw'⟩ := h
    obtain ⟨hacc,hreceived⟩ := ih hw'
    have hvalue : v.Accepted ∧ v.received = v := by
      rcases hv with rfl | ⟨v',rfl,hv'⟩
      · exact ⟨trivial,rfl⟩
      · exact ⟨hv'.received.1,congrArg WireValue.present hv'.received.2⟩
    exact ⟨⟨hvalue.1,hacc⟩,by rw [Wire.received, hvalue.2, hreceived]⟩
  | optionalMessage tag body rest ihbody ih =>
    rcases h with ⟨w',rfl,hw'⟩ | ⟨b,w',rfl,hb,hw'⟩
    · obtain ⟨hacc,hreceived⟩ := ih hw'
      exact ⟨⟨trivial,hacc⟩,by rw [Wire.received, hreceived]; rfl⟩
    · obtain ⟨hacc,hreceived⟩ := ih hw'
      obtain ⟨hbody,hbody'⟩ := ihbody hb
      exact ⟨⟨hbody,hacc⟩,by rw [Wire.received, hbody', hreceived]⟩
  | repeated tag capacity body rest ihbody ih =>
    obtain ⟨bs,w',rfl,-,hbs,hw'⟩ := h
    induction bs with
    | nil => exact ih hw'
    | cons b bs ihbs =>
      obtain ⟨hb,hbs⟩ := List.forall_mem_cons.mp hbs
      obtain ⟨hbody,hbody'⟩ := ihbody hb
      obtain ⟨hacc,hreceived⟩ := ihbs hbs
      exact ⟨⟨hbody,hacc⟩,by rw [List.foldr_cons, Wire.received, hbody', hreceived]⟩
  | oneof tag type rest ih =>
    rcases h with ⟨v,rfl,hv⟩ | hw
    · refine ⟨⟨hv.received.1,trivial⟩,?_⟩
      simp only [Wire.received, WireValue.received, hv.received.2]
    · exact ih hw
  | oneofMessage tag body rest ihbody ih =>
    rcases h with ⟨b,rfl,hb⟩ | hw
    · obtain ⟨hbody,hbody'⟩ := ihbody hb
      exact ⟨⟨hbody,trivial⟩,by rw [Wire.received, hbody', Wire.received]⟩
    · exact ih hw

/-- Everything that a reader makes of a message is good. -/
def Covers (d : Descriptor) (good : Wire → Prop) : Prop := ∀ w, d.Yields w → good w

end Descriptor

/-- All values of a type are values of the fields that hold it. -/
def FieldType.ReadAs (type : FieldType) (α : Type) [FieldValue α] : Prop := ∀ v, type.Yields v → ∃ x : α, value x = v

namespace FieldType.ReadAs
variable {n : ℕ}

theorem uint32 : FieldType.uint32.ReadAs UInt32 := fun _ ⟨x,h⟩ => ⟨x,h.symm⟩
theorem uint64 : FieldType.uint64.ReadAs UInt64 := fun _ ⟨x,h⟩ => ⟨x,h.symm⟩
theorem int32 : FieldType.int32.ReadAs Int32 := fun _ ⟨x,h⟩ => ⟨x,h.symm⟩
theorem bool : FieldType.bool.ReadAs Bool := fun _ ⟨x,h⟩ => ⟨x,h.symm⟩
theorem uenum {E : Type} : FieldType.uenum.ReadAs (EnumField E) := fun _ ⟨raw,_,h⟩ => ⟨⟨raw⟩,h.symm⟩
theorem bytes : (FieldType.bytes n).ReadAs (BytesArray n) := fun _ ⟨x,_,h⟩ => ⟨x,h.symm⟩
theorem fixed : (FieldType.fixedLengthBytes n).ReadAs (Vector UInt8 n) := fun _ ⟨x,h⟩ => ⟨x,h.symm⟩

end FieldType.ReadAs

/-! One rule for each kind of field: the structure of a message is covered field by field. -/
namespace Descriptor.Covers
variable {tag capacity : ℕ} {type : FieldType} {body rest : Descriptor} {good goodBody : Wire → Prop} {α : Type}

theorem nil (h : good .nil) : Descriptor.nil.Covers good := by
  rintro w rfl
  exact h

theorem singular [FieldValue α] (htype : type.ReadAs α) (h : ∀ x : α, rest.Covers fun w => good (.field tag (value x) w)) :
    (Descriptor.singular tag type rest).Covers good := by
  rintro w ⟨v,w',rfl,hv,hw'⟩
  obtain ⟨x,rfl⟩ := htype v hv
  exact h x w' hw'

/-- Of a callback field nothing is read. -/
theorem callback {wireType : WireType} (h : rest.Covers fun w => good (.field tag (.callback wireType .unset) w)) :
    (Descriptor.singular tag (.callback wireType) rest).Covers good := by
  rintro w ⟨v,w',rfl,rfl,hw'⟩
  exact h w' hw'

theorem optional [FieldValue α] [Inhabited α] (htype : type.ReadAs α)
    (h : ∀ x : OptionalField α, rest.Covers fun w => good (.field tag (value x) w)) :
    (Descriptor.optional tag type rest).Covers good := by
  rintro w ⟨v,w',rfl,hv,hw'⟩
  rcases hv with rfl | ⟨v',rfl,hv'⟩
  · exact h ⟨false,default⟩ w' hw'
  · obtain ⟨x,rfl⟩ := htype v' hv'
    exact h ⟨true,x⟩ w' hw'

theorem optionalMessage [Inhabited α] {wire : α → Wire} (hbody : body.Covers fun b => ∃ p, wire p = b)
    (h : ∀ x : OptionalField α, rest.Covers fun w => good (Wire.optional tag x wire w)) :
    (Descriptor.optionalMessage tag body rest).Covers good := by
  rintro w (⟨w',rfl,hw'⟩ | ⟨b,w',rfl,hb,hw'⟩)
  · exact h ⟨false,default⟩ w' hw'
  · obtain ⟨p,rfl⟩ := hbody b hb
    exact h ⟨true,p⟩ w' hw'

/-- The elements of a counted array, and then whatever is in it. -/
theorem repeated [Inhabited α] {wire : α → Wire} (hbody : body.Covers fun b => ∃ p, wire p = b)
    (h : ∀ x : RepeatedField α capacity, rest.Covers fun w => good (Wire.repeated tag x wire w)) :
    (Descriptor.repeated tag capacity body rest).Covers good := by
  rintro w ⟨bs,w',rfl,hle,hbs,hw'⟩
  obtain ⟨ps,rfl⟩ : ∃ ps : List α, ps.map wire = bs := by
    clear hle
    induction bs with
    | nil => exact ⟨[],rfl⟩
    | cons b bs ih =>
      obtain ⟨hb,hrest⟩ := List.forall_mem_cons.mp hbs
      obtain ⟨p,rfl⟩ := hbody b hb
      obtain ⟨ps,rfl⟩ := ih hrest
      exact ⟨p :: ps,rfl⟩
  rw [List.length_map] at hle
  let items : Vector α capacity := Vector.ofFn fun i => ps.getD i default
  have hitems : items.toList.take ps.length = ps := by
    apply List.ext_getElem
    · simpa [items] using hle
    · intro i hi hi'
      simp [items, hi']
  have hx : good (Wire.repeated tag ⟨ps.length,items⟩ wire w') := h ⟨ps.length,items⟩ w' hw'
  simp only [Wire.repeated, if_neg (not_lt.mpr hle), hitems] at hx
  rwa [List.foldr_map]

theorem oneof [FieldValue α] (htype : type.ReadAs α) (h : ∀ x : α, good (.field tag (.present (value x)) .nil))
    (hrest : rest.Covers good) : (Descriptor.oneof tag type rest).Covers good := by
  rintro w (⟨v,rfl,hv⟩ | hw)
  · obtain ⟨x,rfl⟩ := htype v hv
    exact h x
  · exact hrest w hw

theorem oneofMessage (hbody : body.Covers fun b => good (.message tag b .nil)) (hrest : rest.Covers good) :
    (Descriptor.oneofMessage tag body rest).Covers good := by
  rintro w (⟨b,rfl,hb⟩ | hw)
  · exact hbody b hb
  · exact hrest w hw

end Descriptor.Covers
end WhadLib
