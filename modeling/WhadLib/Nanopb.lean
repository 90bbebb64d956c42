import WhadLib.Library.BoundedWriter

/-! What the library uses of the protobuf runtime. The runtime is not part of the repository:
its functions are a parameter here, and `Nanopb.Documented` states what its documentation says
about them. The wire format itself is that of protobuf. -/
namespace WhadLib
open Library

/-- Seven bits a byte, the lowest first; all bytes but the last have the top bit set. The first
argument bounds the number of bytes behind the first one. -/
def varintBytes : ℕ → ℕ → List UInt8
  | 0, v => [UInt8.ofNat v]
  | fuel+1, v => if v < 128 then [UInt8.ofNat v] else UInt8.ofNat (v % 128 + 128) :: varintBytes fuel (v / 128)

def varint (v : ℕ) : List UInt8 := varintBytes v v

theorem varint_ne_nil (v : ℕ) : varint v ≠ [] := by
  unfold varint varintBytes
  split
  · simp
  · split <;> simp

example : varint 300 = [0xAC,0x02] := by decide

inductive WireType
  | varint
  | fixed64
  | len
  | fixed32
  deriving DecidableEq, Repr

def WireType.code : WireType → ℕ
  | .varint => 0
  | .fixed64 => 1
  | .len => 2
  | .fixed32 => 5

/-- What a callback reads of a `pb_field_t`. -/
structure PbField where
  tag : ℕ
  wireType : WireType
  deriving DecidableEq, Repr

def fieldKey (field : PbField) : List UInt8 := varint (8*field.tag + field.wireType.code)

/-- A message as `pb_encode` walks it, field by field: a static field with the bytes protobuf
gives it (`none` when the runtime refuses its value), a callback field, a submessage. `κ` is
what a callback field holds. -/
inductive Fields (κ : Type)
  | nil
  | static (bytes : Option (List UInt8)) (rest : Fields κ)
  | callback (c : κ) (rest : Fields κ)
  | submessage (field : PbField) (body rest : Fields κ)
  deriving Inhabited

/-- The protobuf encoding, given what every callback field stands for; `none` when a static field
cannot be encoded. -/
def Fields.encoding {κ : Type} (output : κ → List UInt8) : Fields κ → Option (List UInt8)
  | .nil => some []
  | .static bytes rest => bytes.bind fun a => (rest.encoding output).map fun b => a ++ b
  | .callback c rest => (rest.encoding output).map fun b => output c ++ b
  | .submessage field body rest =>
    (body.encoding output).bind fun a => (rest.encoding output).map fun b =>
      fieldKey field ++ ((varint a.length ++ a) ++ b)

/-- A submessage has a tag. -/
theorem Fields.encoding_submessage_ne_nil {κ : Type} {output : κ → List UInt8} {field : PbField} {body rest : Fields κ}
    {bytes : List UInt8} (h : (Fields.submessage field body rest).encoding output = some bytes) : bytes ≠ [] := by
  simp only [Fields.encoding, Option.bind_eq_some_iff, Option.map_eq_some_iff] at h
  obtain ⟨_,_,_,_,rfl⟩ := h
  intro hnil
  exact varint_ne_nil _ (List.append_eq_nil_iff.mp hnil).1

/-- The functions of the runtime. -/
structure Nanopb where
  encodeVarint : ℕ → Writer UInt8
  encodeTagForField : PbField → Writer UInt8
  encodeString : List UInt8 → Writer UInt8
  /-- The argument encodes the fields of the submessage. -/
  encodeSubmessage : Writer UInt8 → Writer UInt8
  /-- The first argument runs the callback of a callback field. -/
  encode : {κ : Type} → (κ → Writer UInt8) → Fields κ → Writer UInt8

/-- The documented behaviour: tags, varints and strings are written whole or reported as
failed; a submessage is encoded twice, once to measure it; a message is encoded field by field
until one fails. -/
structure Nanopb.Documented (pb : Nanopb) : Prop where
  varint : ∀ v, (pb.encodeVarint v).Emits (varint v)
  tag : ∀ field, (pb.encodeTagForField field).Emits (fieldKey field)
  string : ∀ bytes, (pb.encodeString bytes).Emits (WhadLib.varint bytes.length ++ bytes)
  submessage : ∀ body, pb.encodeSubmessage body = Writer.measured pb.encodeVarint body
  nil : ∀ {κ : Type} (run : κ → Writer UInt8), pb.encode run .nil = Writer.done
  static : ∀ {κ : Type} (run : κ → Writer UInt8) bytes rest,
    ∃ w : Writer UInt8, w.Emits bytes ∧
      pb.encode run (.static (some bytes) rest) = w.andThen (pb.encode run rest)
  refused : ∀ {κ : Type} (run : κ → Writer UInt8) rest s, (pb.encode run (.static none rest) s).1 = false
  callback : ∀ {κ : Type} (run : κ → Writer UInt8) c rest,
    pb.encode run (.callback c rest) = (run c).andThen (pb.encode run rest)
  nested : ∀ {κ : Type} (run : κ → Writer UInt8) field body rest,
    pb.encode run (.submessage field body rest) = (pb.encodeTagForField field).andThen
      ((pb.encodeSubmessage (pb.encode run body)).andThen (pb.encode run rest))

namespace Nanopb.Documented
variable {pb : Nanopb} {κ : Type} {run : κ → Writer UInt8} {output : κ → List UInt8}

/-- With callbacks that write their output wherever there is room, so does the whole message. -/
theorem encode_completes (h : pb.Documented) (hrun : ∀ c, (run c).Completes (output c)) {fields : Fields κ}
    {bytes : List UInt8} (hbytes : fields.encoding output = some bytes) :
    (pb.encode run fields).Completes bytes := by
  induction fields generalizing bytes with
  | nil =>
    obtain rfl : [] = bytes := by simpa [Fields.encoding] using hbytes
    rw [h.nil]
    exact Writer.emits_done.completes
  | static field rest ih =>
    simp only [Fields.encoding, Option.bind_eq_some_iff, Option.map_eq_some_iff] at hbytes
    obtain ⟨a,rfl,b,hb,rfl⟩ := hbytes
    obtain ⟨w,hw,heq⟩ := h.static run a rest
    rw [heq]
    exact hw.completes.andThen (ih hb)
  | callback c rest ih =>
    simp only [Fields.encoding, Option.map_eq_some_iff] at hbytes
    obtain ⟨b,hb,rfl⟩ := hbytes
    rw [h.callback]
    exact (hrun c).andThen (ih hb)
  | submessage field body rest ihbody ihrest =>
    simp only [Fields.encoding, Option.bind_eq_some_iff, Option.map_eq_some_iff] at hbytes
    obtain ⟨a,ha,b,hb,rfl⟩ := hbytes
    rw [h.nested, h.submessage]
    have hsub := Writer.emits_measured (ihbody ha) (h.varint a.length)
    exact (h.tag field).completes.andThen (hsub.completes.andThen (ihrest hb))

/-- A value the runtime refuses makes the encoding fail. -/
theorem encode_refused (h : pb.Documented) {fields : Fields κ} (hnone : fields.encoding output = none)
    (s : Sink UInt8) :
    (pb.encode run fields s).1 = false := by
  induction fields generalizing s with
  | nil => simp [Fields.encoding] at hnone
  | static field rest ih =>
    cases field with
    | none => exact h.refused run rest s
    | some a =>
      simp only [Fields.encoding, Option.bind_some, Option.map_eq_none_iff] at hnone
      obtain ⟨w,_,heq⟩ := h.static run a rest
      rw [heq, Writer.andThen]
      split
      · exact ih hnone _
      · rfl
  | callback c rest ih =>
    simp only [Fields.encoding, Option.map_eq_none_iff] at hnone
    rw [h.callback, Writer.andThen]
    split
    · exact ih hnone _
    · rfl
  | submessage field body rest ihbody ihrest =>
    rw [h.nested, Writer.andThen]
    split
    · cases hbody : body.encoding output with
      | none =>
        have hfirst := ihbody hbody ⟨[],none⟩
        rw [h.submessage, Writer.andThen, Writer.measured]
        cases hres : pb.encode run body ⟨[],none⟩ with
        | mk ok first =>
          rw [hres] at hfirst
          simp only at hfirst
          subst hfirst
          rfl
      | some a =>
        simp only [Fields.encoding, hbody, Option.bind_some, Option.map_eq_none_iff] at hnone
        rw [Writer.andThen]
        split
        · exact ihrest hnone _
        · rfl
    · rfl

/-- A message that is one submessage is written whole or reported as failed, even when its
callbacks do not report their own failures: the first pass has measured what they write. -/
theorem encode_emits (h : pb.Documented) (hrun : ∀ c, (run c).Completes (output c)) {field : PbField}
    {body : Fields κ} {bytes : List UInt8} (hbytes : (Fields.submessage field body .nil).encoding output = some bytes) :
    (pb.encode run (.submessage field body .nil)).Emits bytes := by
  simp only [Fields.encoding, Option.bind_eq_some_iff, Option.map_some, Option.some.injEq] at hbytes
  obtain ⟨a,ha,rfl⟩ := hbytes
  rw [h.nested, h.submessage, h.nil]
  have hsub := Writer.emits_measured (h.encode_completes hrun ha) (h.varint a.length)
  exact (h.tag field).andThen (hsub.andThen Writer.emits_done)

end Nanopb.Documented
/-- A runtime that does just what the documentation says. -/
def Nanopb.plain : Nanopb where
  encodeVarint := fun v => Writer.chunk (varint v)
  encodeTagForField := fun field => Writer.chunk (fieldKey field)
  encodeString := fun bytes => (Writer.chunk (varint bytes.length)).andThen (Writer.chunk bytes)
  encodeSubmessage := Writer.measured fun n => Writer.chunk (varint n)
  encode := encodeFields
where
  encodeFields {κ : Type} (run : κ → Writer UInt8) : Fields κ → Writer UInt8
    | .nil => Writer.done
    | .static (some bytes) rest => (Writer.chunk bytes).andThen (encodeFields run rest)
    | .static none _ => fun s => (false, s)
    | .callback c rest => (run c).andThen (encodeFields run rest)
    | .submessage field body rest => (Writer.chunk (fieldKey field)).andThen
      ((Writer.measured (fun n => Writer.chunk (varint n)) (encodeFields run body)).andThen
        (encodeFields run rest))

theorem Nanopb.plain_documented : Nanopb.plain.Documented where
  varint := fun _ => Writer.emits_chunk _
  tag := fun _ => Writer.emits_chunk _
  string := fun _ => (Writer.emits_chunk _).andThen (Writer.emits_chunk _)
  submessage := fun _ => rfl
  nil := fun _ => rfl
  static := fun _ bytes _ => ⟨_,Writer.emits_chunk bytes,rfl⟩
  refused := fun _ _ _ => rfl
  callback := fun _ _ _ => rfl
  nested := fun _ _ _ _ => rfl

end WhadLib
