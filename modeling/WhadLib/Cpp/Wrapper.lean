import WhadLib.Parse

/-! The wrapper classes of the C++ interface that are constructed from a received message. Their objects
keep what the constructor reads, and `getRaw()` writes it all back. -/
namespace WhadLib

/-- A value shows an optional field, if the field is there. -/
def Library.OptionalField.Shown {α : Type} (x : Library.OptionalField α) (v : α) : Prop := x.has = true → v = x.value

/-- Two optional values are both absent, or the same. -/
def Library.OptionalField.Same {α : Type} (x y : Library.OptionalField α) : Prop := x.has = y.has ∧ y.Shown x.value

namespace Cpp
open Library

/-- A class with a constructor from a received message. What the constructor finds in the members and the
local variables that nothing initialises is its parameter `memory`. There is no object when it throws,
and no message when `pack()` throws or follows a pointer to nowhere. -/
structure WrapperClass where
  kind : Kind
  Memory : Type
  Object : Type
  construct : FullMessage → Memory → Option (FullMessage × Object)
  pack : FullMessage → Object → Option FullMessage
  /-- Every accessor returns what the message carries. -/
  Shows : FullMessage → Object → Prop

/-- Wrapping leaves a message as it was: an object shows what it was constructed from, and `getRaw()`
changes neither a tag nor a visible field. -/
def WrapperClass.Faithful (c : WrapperClass) (m : FullMessage) : Prop :=
  ∀ memory m₁ o, c.construct m memory = some (m₁,o) →
    (∃ m₂, c.pack m₁ o = some m₂ ∧ m₂.SameWire m) ∧ c.Shows m o

/-- What a parser has written, unless it returned an error. -/
def parsedBy {S : Type} (parsed : Parsed S) : Option S :=
  match parsed with
  | some (.success,out) => out
  | _ => none

/-- The message that a builder leaves; its result is not looked at. -/
def packed (outcome : Outcome) : Option FullMessage := outcome.bind Prod.snd

/-- The class of an object with the structure of a parser for its members: `unpack()` calls the parser,
`pack()` the builder. -/
def WrapperClass.unpacking {S : Type} (kind : Kind) (parser : Option FullMessage → Option S → Parsed S)
    (builder : Option FullMessage → S → Outcome) (shows : FullMessage → S → Prop) : WrapperClass where
  kind := kind
  Memory := S
  Object := S
  construct m memory := (parsedBy (parser (some m) (some memory))).map fun o => (m,o)
  pack m o := packed (builder (some m) o)
  Shows := shows

/-- The class of an object without members. -/
def WrapperClass.plain (kind : Kind) (builder : Option FullMessage → Outcome) : WrapperClass where
  kind := kind
  Memory := Unit
  Object := Unit
  construct m _ := some (m,())
  pack m _ := packed (builder (some m))
  Shows _ _ := True

/-- `Packet<n>`, as far as it is filled. -/
structure Packet (n : ℕ) where
  bytes : List UInt8
  bounded : bytes.length ≤ n

namespace Packet
variable {n : ℕ}

/-- An empty packet. -/
def empty : Packet n := ⟨[],n.zero_le⟩

def getSize (x : Packet n) : ℤ := x.bytes.length

def getBytes (x : Packet n) : Buffer := fun i => x.bytes.getD i 0

theorem take_toNat_le (src : Buffer) {size : ℤ} (h : 0 ≤ size ∧ size ≤ n) : (src.take size.toNat).length ≤ n := by
  simp only [Buffer.take, List.length_map, List.length_range]
  omega

/-- It throws when the size exceeds that of the packet. -/
def setBytes (src : Buffer) (size : ℤ) : Option (Packet n) :=
  if h : 0 ≤ size ∧ size ≤ n then some ⟨src.take size.toNat,take_toNat_le src h⟩ else none

theorem setBytes_of_le (src : Buffer) {size : ℕ} (h : size ≤ n) :
    ∃ packet : Packet n, setBytes src size = some packet := ⟨_,dif_pos ⟨by omega,by omega⟩⟩

theorem setBytes_of_lt (src : Buffer) {size : ℕ} (h : n < size) :
    setBytes (n := n) src size = none := dif_neg (by omega)

end Packet

/-- What `addRssi` and its like make of a member of a new packet. -/
def added {α : Type} (x : OptionalField α) (initial : α) : OptionalField α :=
  if x.has then ⟨true,x.value⟩ else ⟨false,initial⟩

/-- A pointer and a length read as an array of a message. -/
structure ReadsAs {n : ℕ} (x : BytesArray n) (src : Buffer) (length : ℤ) : Prop where
  size : length = x.size
  content : x.content = some (src.take x.size)

section
variable {n k : ℕ} {x : BytesArray n} {src : Buffer} {length : ℤ}

theorem take_bufferOf (v : Vector UInt8 n) (h : k ≤ n) : (bufferOf v).take k = v.toList.take k := by
  apply List.ext_getElem
  · simp only [Buffer.take, List.length_map, List.length_range, List.length_take, Vector.length_toList]
    omega
  · intro i hi hi'
    simp only [Buffer.take, List.length_map, List.length_range] at hi
    have hin : i < n := by omega
    simp [Buffer.take, bufferOf, hin]

/-- A copy that fits reads as its source. -/
theorem exists_memcpy (dst : Vector UInt8 n) (src : Buffer) (h : k ≤ n) :
    ∃ bytes, memcpy dst src k = some bytes ∧ (bufferOf bytes).take k = src.take k := by
  have hcopy : memcpy dst src k = some _ := memcpy_of_le (by omega) (by omega)
  refine ⟨_,hcopy,?_⟩
  rw [take_bufferOf _ h]
  exact memcpy_take hcopy

theorem take_getD (bytes : List UInt8) : Buffer.take (fun i => bytes.getD i 0) bytes.length = bytes := by
  apply List.ext_getElem
  · simp [Buffer.take]
  · intro i hi hi'
    simp [Buffer.take, hi']

theorem content_eq (h : x.size ≤ n) : x.content = some ((bufferOf x.bytes).take x.size) := by
  rw [BytesArray.content, if_neg (by omega), take_bufferOf _ h]

theorem take_eq_iff {src' : Buffer} : src.take k = src'.take k ↔ ∀ i < k, src i = src' i := by
  simp [Buffer.take, List.map_inj_left]

/-- Arrays of one size show the same when their bytes agree as far as it goes. -/
theorem value_bytes_iff {bytes : Vector UInt8 n} (h : x.size ≤ n) :
    value (⟨x.size,bytes⟩ : BytesArray n) = value x ↔ ∀ i < x.size, bufferOf bytes i = bufferOf x.bytes i := by
  rw [← take_eq_iff]
  have hcontent : (⟨x.size,bytes⟩ : BytesArray n).content = some ((bufferOf bytes).take x.size) := content_eq h
  simp only [value, hcontent, content_eq h, WireValue.bytes.injEq, Option.some.injEq]

/-- An array of a message reads as itself. -/
theorem readsAs_self (h : x.size ≤ n) : ReadsAs x (bufferOf x.bytes) x.size := ⟨rfl,content_eq h⟩

/-- So does a copy of it. -/
theorem readsAs_of_take (hx : x.size ≤ n) (h : src.take x.size = (bufferOf x.bytes).take x.size) :
    ReadsAs x src x.size := ⟨rfl,by rw [content_eq hx, h]⟩

theorem readsAs_congr {src' : Buffer} (h : src.take x.size = src'.take x.size) :
    ReadsAs x src x.size ↔ ReadsAs x src' x.size := by
  constructor
  · rintro ⟨-,hcontent⟩
    exact ⟨rfl,by rw [hcontent, h]⟩
  · rintro ⟨-,hcontent⟩
    exact ⟨rfl,by rw [hcontent, h]⟩

/-- So does a packet that was filled from what does. -/
theorem ReadsAs.setBytes (h : ReadsAs x src length) {packet : Packet k} (hp : Packet.setBytes src length = some packet) :
    ReadsAs x packet.getBytes packet.getSize := by
  obtain ⟨rfl,hcontent⟩ := h
  rw [Packet.setBytes] at hp
  split at hp
  · obtain rfl := Option.some.inj hp
    have hlen : (src.take (x.size : ℤ).toNat).length = x.size := by simp [Buffer.take]
    have hself := take_getD (src.take (x.size : ℤ).toNat)
    refine ⟨congrArg Nat.cast hlen,hcontent.trans (congrArg some ?_)⟩
    rw [hlen] at hself
    exact hself.symm
  · contradiction

theorem ReadsAs.bounded (h : ReadsAs x src length) : x.size ≤ n := by
  by_contra hlt
  have hcontent := h.content
  rw [BytesArray.content, if_pos (by omega)] at hcontent
  contradiction

/-- What is copied into an array shows the same as what was there if it read as it. -/
theorem value_fill_iff {y z : BytesArray n} (hn : n < 65536)
    (h : y.fill src x.size = some z) : value z = value x ↔ ReadsAs x src x.size := by
  have hvalue : value z = .bytes (some (src.take x.size)) := value_fill h hn
  constructor
  · intro heq
    exact ⟨rfl,(WireValue.bytes.inj (hvalue.symm.trans heq)).symm⟩
  · intro hreads
    exact hvalue.trans (congrArg WireValue.bytes hreads.content.symm)

/-- Arrays that show the same read alike. -/
theorem ReadsAs.of_value {y : BytesArray n} (hsize : y.size = x.size) (hvalue : value y = value x)
    (h : ReadsAs y src length) : ReadsAs x src length := by
  refine ⟨h.size.trans (congrArg Nat.cast hsize),?_⟩
  rw [← hsize, ← h.content]
  exact (WireValue.bytes.inj hvalue).symm

/-- What reads as an array restores it. -/
theorem ReadsAs.fill (h : ReadsAs x src length) (hn : n < 65536) (y : BytesArray n) :
    ∃ z, y.fill src length = some z ∧ z.size = x.size ∧ value z = value x := by
  have hle : length ≤ n := by
    rw [h.size]
    exact_mod_cast h.bounded
  obtain ⟨z,hz⟩ := y.exists_fill src (by rw [h.size]; omega) hle
  refine ⟨z,hz,?_,?_⟩
  · have hbounded := h.bounded
    rw [(BytesArray.fill_eq_some_iff.mp hz).2, h.size, sizeOf16_of_lt (by omega) (by omega), Int.toNat_natCast]
  rw [value_fill hz hn, h.size, Int.toNat_natCast]
  exact congrArg WireValue.bytes h.content.symm

theorem readsAs_empty (hx : x.size = 0) (src : Buffer) : ReadsAs x src x.size := by
  refine ⟨rfl,?_⟩
  rw [content_eq (by omega), hx]
  rfl

/-- A buffer that is copied to an array of its own reads as before. -/
theorem ReadsAs.copyOf (h : ReadsAs x src length) : ReadsAs x (bufferOf (copyOf src : Vector UInt8 n)) length := by
  obtain ⟨rfl,hcontent⟩ := h
  have hbounded := ReadsAs.bounded ⟨rfl,hcontent⟩
  refine ⟨rfl,hcontent.trans (congrArg some (take_eq_iff.mpr fun i hi => ?_))⟩
  have hin : i < n := by omega
  simp [bufferOf, Library.copyOf, hin]

end

/-! Visible values that are the same. -/

@[simp] theorem value_uint32_inj (a b : UInt32) : value a = value b ↔ a = b := by simp [value]

@[simp] theorem value_uint64_inj (a b : UInt64) : value a = value b ↔ a = b := by simp [value]

@[simp] theorem value_int32_inj (a b : Int32) : value a = value b ↔ a = b := by simp [value]

@[simp] theorem value_bool_inj (a b : Bool) : value a = value b ↔ a = b := by simp [value]

theorem value_optional_iff {α : Type} [FieldValue α] (x y : OptionalField α) :
    value x = value y ↔ x.has = y.has ∧ (y.has = true → value x.value = value y.value) := by
  obtain ⟨has,x⟩ := x
  obtain ⟨has',y⟩ := y
  cases has <;> cases has' <;> simp [value]

theorem value_of_same {α : Type} [FieldValue α] {x y : OptionalField α} (h : x.Same y) : value x = value y := by
  rw [value_optional_iff]
  exact ⟨h.1,fun hhas => congrArg value (h.2 hhas)⟩

theorem same_trans {α : Type} {x y z : OptionalField α} (h : x.Same y) (h' : y.Same z) : x.Same z :=
  ⟨h.1.trans h'.1,fun hhas => (h.2 (h'.1.trans hhas)).trans (h'.2 hhas)⟩

/-- What a parser copies behind a flag. -/
theorem loadOptional_same {α β : Type} (s : OptionalField β) (x : OptionalField α) (convert : α → β) :
    (loadOptional s x convert).Same ⟨x.has,convert x.value⟩ := ⟨rfl,fun hhas => if_pos hhas⟩

theorem added_same {α : Type} (x : OptionalField α) (initial : α) : (added x initial).Same x := by
  obtain ⟨has,v⟩ := x
  cases has
  · exact ⟨rfl,fun h => nomatch h⟩
  · exact ⟨rfl,fun _ => rfl⟩

theorem packed_build {m : FullMessage} {k : Kind} {body : k.Struct → Option (WhadResult × k.Struct)} {r : WhadResult}
    {p : k.Struct} (h : body (m.msg k) = some (r,p)) : packed (m.build k body) = some (m.put k p) := by
  simp only [FullMessage.build, packed, h, Option.map_some, Option.bind_some]

theorem parsedBy_parse {S : Type} {m : FullMessage} {s s' : S} {body : FullMessage → S → Option (WhadResult × S)}
    (h : body m s = some (.success,s')) : parsedBy (parse (some m) (some s) body) = some s' := by
  simp only [parse, h, Option.map_some, parsedBy]

theorem sameWire_refl (m : FullMessage) : m.SameWire m := ⟨rfl,rfl,rfl⟩

/-! Numbers that pass through other types. -/

/-- A number of 64 bits that passes through one of 32. -/
theorem toUInt32_toUInt64_iff (v : UInt64) : v.toUInt32.toUInt64 = v ↔ v.toNat < 2^32 := by
  rw [← UInt64.toNat_inj, UInt32.toNat_toUInt64, UInt64.toNat_toUInt32]
  constructor
  · intro h
    rw [← h]
    exact Nat.mod_lt _ (by norm_num)
  · exact Nat.mod_eq_of_lt

theorem toUInt8_toUInt32_iff (v : UInt32) : v.toUInt8.toUInt32 = v ↔ v.toNat < 256 := by
  rw [← UInt32.toNat_inj, UInt8.toNat_toUInt32, UInt32.toNat_toUInt8]
  constructor
  · intro h
    rw [← h]
    exact Nat.mod_lt _ (by norm_num)
  · exact Nat.mod_eq_of_lt

theorem toInt_eq (i : Int32) :
    i.toInt = if 2*i.toUInt32.toNat < 2^32 then (i.toUInt32.toNat : ℤ) else i.toUInt32.toNat-2^32 :=
  BitVec.toInt_eq_toNat_cond i.toBitVec

/-- An `int` carries all 32 bits. -/
theorem uint32_ofInt_toInt (v : UInt32) : UInt32.ofInt v.toInt32.toInt = v := by
  have hint := toInt_eq v.toInt32
  have hlt := v.toNat_lt
  have hmod : v.toInt32.toInt % 2^32 = v.toNat := by
    rw [show v.toInt32.toUInt32 = v from rfl] at hint
    split at hint <;> omega
  rw [UInt32.ofInt, hmod, Int.toNat_natCast, UInt32.ofNat_toNat]

theorem toNat_uint8_ofNat {n : ℕ} (h : n < 256) : (UInt8.ofNat n).toNat = n := UInt8.toNat_ofNat_of_lt' h

theorem toNat_uint8_ofInt {n : ℕ} (h : n < 256) : (UInt8.ofInt n).toNat = n := by
  have hmod : (n : ℤ) % 2^8 = n := by omega
  rw [UInt8.ofInt, hmod, Int.toNat_natCast, toNat_uint8_ofNat h]

/-- A timestamp of 64 bits comes back if 32 are enough for it. -/
theorem value_half_iff {x y : OptionalField UInt64} (h : y.Same ⟨x.has,x.value.toUInt32.toUInt64⟩) :
    value y = value x ↔ (x.has = true → x.value.toNat < 2^32) := by
  rw [value_of_same h, value_optional_iff]
  simp only [value_uint64_inj, toUInt32_toUInt64_iff, true_and]

theorem value_timestamp_iff (x : OptionalField UInt64) :
    value (if x.has = true then ⟨true,(if x.has = true then x.value.toUInt32 else 0).toUInt64⟩ else x) = value x ↔
      (x.has = true → x.value.toNat < 2^32) := by
  refine value_half_iff ?_
  obtain ⟨has,v⟩ := x
  cases has
  · exact ⟨rfl,fun h => nomatch h⟩
  · exact ⟨rfl,fun _ => rfl⟩

theorem included_restored {α : Type} (x : OptionalField α) (d : α) :
    (if x.has = true then ⟨true,if x.has = true then x.value else d⟩ else x) = x := by
  obtain ⟨has,v⟩ := x
  cases has <;> rfl

namespace WrapperClass
variable {c : WrapperClass} {m : FullMessage}

/-- An object that overwrites its member by something that shows the same. -/
theorem faithful_of (hown : m.Holds c.kind)
    (h : ∀ memory m₁ o, c.construct m memory = some (m₁,o) →
      (∃ q, c.pack m₁ o = some (m.put c.kind q) ∧ c.kind.wire q = c.kind.wire (m.msg c.kind)) ∧ c.Shows m o) :
    c.Faithful m := by
  intro memory m₁ o ho
  obtain ⟨⟨q,hq,hwire⟩,hshows⟩ := h memory m₁ o ho
  refine ⟨⟨_,hq,⟨hown.domain.symm,hown.tag.symm,?_⟩⟩,hshows⟩
  rw [FullMessage.put_wire, hwire, hown.wire]

/-- A constructor that always leaves an object, which overwrites its member: what decides may depend on what
lies in memory. -/
theorem faithful_iff_forall (hown : m.Holds c.kind) {kept : c.Memory → Prop}
    (h : ∀ s, ∃ (m₁ : FullMessage) (o : c.Object) (m' : FullMessage) (q : c.kind.Struct),
      c.construct m s = some (m₁,o) ∧ c.pack m₁ o = some (m'.put c.kind q) ∧
        (c.kind.wire q = c.kind.wire (m.msg c.kind) ∧ c.Shows m o ↔ kept s)) : c.Faithful m ↔ ∀ s, kept s := by
  constructor
  · intro hfaithful s
    obtain ⟨m₁,o,m',q,hc,hp,hkept⟩ := h s
    obtain ⟨⟨m₂,hm₂,hsame⟩,hshows⟩ := hfaithful s m₁ o hc
    obtain rfl := Option.some.inj (hp.symm.trans hm₂)
    refine hkept.mp ⟨?_,hshows⟩
    have hfields := hsame.fields
    rw [FullMessage.put_wire, hown.wire] at hfields
    exact hfields
  · intro hkept s m₁ o ho
    obtain ⟨m₁',o',m',q,hc,hp,hiff⟩ := h s
    obtain ⟨rfl,rfl⟩ := Prod.mk.inj (Option.some.inj (hc.symm.trans ho))
    obtain ⟨hwire,hshows⟩ := hiff.mpr (hkept s)
    refine ⟨⟨_,hp,⟨hown.domain.symm,hown.tag.symm,?_⟩⟩,hshows⟩
    rw [FullMessage.put_wire, hwire, hown.wire]

/-- A constructor that leaves the message alone, whatever lies in memory. -/
theorem faithful_iff_of (hown : m.Holds c.kind) {kept : Prop} (memory : c.Memory)
    (h : ∀ s, ∃ o q, c.construct m s = some (m,o) ∧ c.pack m o = some (m.put c.kind q) ∧
      (c.kind.wire q = c.kind.wire (m.msg c.kind) ∧ c.Shows m o ↔ kept)) : c.Faithful m ↔ kept := by
  have hforall : c.Faithful m ↔ c.Memory → kept := by
    refine faithful_iff_forall hown fun s => ?_
    obtain ⟨o,q,hc,hp,hkept⟩ := h s
    exact ⟨m,o,m,q,hc,hp,hkept⟩
  exact hforall.trans ⟨fun hkept => hkept memory,fun hkept _ => hkept⟩

/-- A constructor and an object that are given in closed form. -/
theorem faithful_iff (hown : m.Holds c.kind) {o : c.Memory → c.Object} {q : c.Memory → c.kind.Struct}
    (hc : ∀ s, c.construct m s = some (m,o s)) (hp : ∀ s, c.pack m (o s) = some (m.put c.kind (q s))) :
    c.Faithful m ↔ ∀ s, c.kind.wire (q s) = c.kind.wire (m.msg c.kind) ∧ c.Shows m (o s) :=
  faithful_iff_forall hown fun s => ⟨m,o s,m,q s,hc s,hp s,Iff.rfl⟩

/-- The same for a parser that always succeeds, and a builder that overwrites the member. -/
theorem unpacking_faithful_iff {S : Type} {kind : Kind} {parser : Option FullMessage → Option S → Parsed S}
    {builder : Option FullMessage → S → Outcome} {shows : FullMessage → S → Prop} (hown : m.Holds kind)
    {o : S → S} {q : S → kind.Struct} (hparser : ∀ s, parser (some m) (some s) = some (.success,some (o s)))
    (hbuilder : ∀ s, builder (some m) (o s) = some (.success,some (m.put kind (q s)))) :
    (unpacking kind parser builder shows).Faithful m ↔
      ∀ s, kind.wire (q s) = kind.wire (m.msg kind) ∧ shows m (o s) := by
  have hc (s : S) : (unpacking kind parser builder shows).construct m s = some (m,o s) :=
    congrArg (fun parsed => (parsedBy parsed).map fun o => (m,o)) (hparser s)
  have hp (s : S) : (unpacking kind parser builder shows).pack m (o s) = some (m.put kind (q s)) :=
    congrArg packed (hbuilder s)
  exact faithful_iff hown hc hp

theorem unpacking_faithful {S : Type} {kind : Kind} {parser : Option FullMessage → Option S → Parsed S}
    {builder : Option FullMessage → S → Outcome} {shows : FullMessage → S → Prop} (hown : m.Holds kind)
    {o : S → S} {q : S → kind.Struct} (hparser : ∀ s, parser (some m) (some s) = some (.success,some (o s)))
    (hbuilder : ∀ s, builder (some m) (o s) = some (.success,some (m.put kind (q s))))
    (h : ∀ s, kind.wire (q s) = kind.wire (m.msg kind) ∧ shows m (o s)) :
    (unpacking kind parser builder shows).Faithful m :=
  (unpacking_faithful_iff hown hparser hbuilder).mpr h

theorem plain_faithful {kind : Kind} {builder : Option FullMessage → Outcome} (hown : m.Holds kind)
    (hbuilder : builder (some m) = some (.success,some (m.put kind (m.msg kind)))) : (plain kind builder).Faithful m := by
  refine faithful_of hown ?_
  rintro s m₁ o ⟨rfl⟩
  exact ⟨⟨_,congrArg packed hbuilder,rfl⟩,trivial⟩

/-- A constructor that throws leaves nothing to compare. -/
theorem faithful_of_throws (h : ∀ s, c.construct m s = none) : c.Faithful m := by
  intro s m₁ o ho
  rw [h s] at ho
  contradiction

/-- An object that shows something else, or that packs another message. -/
theorem not_faithful_of_shows {s : c.Memory} {m₁ : FullMessage} {o : c.Object} (hc : c.construct m s = some (m₁,o))
    (hshows : ¬c.Shows m o) : ¬c.Faithful m := fun h => hshows (h s m₁ o hc).2

theorem not_faithful_of_tag {s : c.Memory} {m₁ m' : FullMessage} {o : c.Object} {k : Kind} {q : k.Struct}
    (hown : m.Holds c.kind) (hc : c.construct m s = some (m₁,o)) (hp : c.pack m₁ o = some (m'.put k q))
    (hne : k.tag ≠ c.kind.tag) : ¬c.Faithful m := by
  intro h
  obtain ⟨⟨m₂,hm₂,hsame⟩,-⟩ := h s m₁ o hc
  obtain rfl := Option.some.inj (hp.symm.trans hm₂)
  exact hne (hsame.tag.trans hown.tag)

/-- One object that changes a field is enough to break it. -/
theorem not_faithful {s : c.Memory} {m₁ m' : FullMessage} {o : c.Object} {k : Kind} {q : k.Struct}
    (hc : c.construct m s = some (m₁,o)) (hp : c.pack m₁ o = some (m'.put k q)) (hown : m.Holds k)
    (hne : k.wire q ≠ k.wire (m.msg k)) : ¬c.Faithful m := by
  intro h
  obtain ⟨⟨m₂,hm₂,hsame⟩,-⟩ := h s m₁ o hc
  obtain rfl := Option.some.inj (hp.symm.trans hm₂)
  have hfields := hsame.fields
  rw [FullMessage.put_wire, hown.wire] at hfields
  exact hne hfields

end WrapperClass
end Cpp
end WhadLib
