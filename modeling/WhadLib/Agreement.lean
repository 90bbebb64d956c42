import WhadLib.Arrival
import WhadLib.Cpp.Wrapper
import WhadLib.Parse

/-! What a parser tells of a message, as far as its caller can see, and what can be told from the visible fields
of a member. -/
namespace WhadLib
open Library

/-- What is behind a pointer as far as a length goes, and nothing else. -/
def Library.Buffer.cut (n : ℕ) (src : Buffer) : Buffer := fun i => if i < n then src i else 0

/-- What a caller sees of an output: all of it, but for what lies behind the length that comes with a pointer. -/
class Output (S : Type) where
  seen : S → S

instance (priority := low) {S : Type} : Output S := ⟨id⟩

/-- What a call of a parser comes to for its caller. -/
def Parsed.seen {S : Type} [Output S] (r : Parsed S) : Parsed S := r.map (Prod.map id (Option.map Output.seen))

/-- A parser says the same of two messages. -/
def ReadsAlike {S : Type} [Output S] (parser : Option FullMessage → Parsed S) (m m' : FullMessage) : Prop :=
  (parser (some m)).seen = (parser (some m')).seen

section
variable {S : Type} [Output S] {m m' : FullMessage} {out : Option S}

theorem readsAlike_parse {body : FullMessage → S → Option (WhadResult × S)}
    (h : ∀ s, (body m s).map (Prod.map id Output.seen) = (body m' s).map (Prod.map id Output.seen)) :
    ReadsAlike (parse · out body) m m' := by
  cases out with
  | none => rfl
  | some s =>
    have hs := congrArg (Option.map (Prod.map id some)) (h s)
    simp only [Option.map_map] at hs
    simp only [ReadsAlike, Parsed.seen, parse, Option.map_map]
    exact hs

theorem readsAlike_of_body {body : FullMessage → S → Option (WhadResult × S)} (h : ∀ s, body m s = body m' s) :
    ReadsAlike (parse · out body) m m' := readsAlike_parse fun s => by rw [h]

theorem readsAlike_fetch {read : FullMessage → S → S} (h : ∀ s, Output.seen (read m s) = Output.seen (read m' s)) :
    ReadsAlike (fetch · out read) m m' :=
  readsAlike_parse fun s => congrArg (fun seen => some (WhadResult.success,seen)) (h s)

theorem readsAlike_of_read {read : FullMessage → S → S} (h : ∀ s, read m s = read m' s) :
    ReadsAlike (fetch · out read) m m' := readsAlike_fetch fun s => by rw [h]

end

section
variable {n k : ℕ}

theorem cut_eq_iff {src src' : Buffer} : src.cut n = src'.cut n ↔ src.take n = src'.take n := by
  rw [Cpp.take_eq_iff]
  constructor
  · intro h i hi
    have hcell := congrFun h i
    simpa [Buffer.cut, hi] using hcell
  · intro h
    funext i
    by_cases hi : i < n
    · simp [Buffer.cut, hi, h i hi]
    · simp [Buffer.cut, hi]

/-! A field can be told from its value; of an array only what its size covers. -/

@[simp] theorem value_uint32_inj {x y : UInt32} : value x = value y ↔ x = y := ⟨fun h => WireValue.uint32.inj h,congrArg _⟩
@[simp] theorem value_uint64_inj {x y : UInt64} : value x = value y ↔ x = y := ⟨fun h => WireValue.uint64.inj h,congrArg _⟩
@[simp] theorem value_int32_inj {x y : Int32} : value x = value y ↔ x = y := ⟨fun h => WireValue.int32.inj h,congrArg _⟩
@[simp] theorem value_bool_inj {x y : Bool} : value x = value y ↔ x = y := ⟨fun h => WireValue.bool.inj h,congrArg _⟩

@[simp] theorem value_enum_inj {E : Type} {x y : EnumField E} : value x = value y ↔ x = y := by
  refine ⟨fun h => ?_,congrArg _⟩
  have hraw : x.raw = y.raw := WireValue.enum.inj h
  cases x
  cases y
  exact congrArg EnumField.mk hraw

@[simp] theorem value_vector_inj {x y : Vector UInt8 n} : value x = value y ↔ x = y :=
  ⟨fun h => Vector.toList_inj.mp (WireValue.fixed.inj h),congrArg _⟩

theorem value_optional_has {α : Type} [FieldValue α] {x y : OptionalField α} (h : value x = value y) : x.has = y.has := by
  cases x with | mk hx vx =>
  cases y with | mk hy vy =>
  cases hx <;> cases hy <;> first | rfl | contradiction

theorem value_optional_value {α : Type} [FieldValue α] {x y : OptionalField α} (h : value x = value y)
    (hx : x.has = true) : value x.value = value y.value := by
  have hy := (value_optional_has h).symm.trans hx
  cases x with | mk hx' vx =>
  cases y with | mk hy' vy =>
  obtain rfl : hx' = true := hx
  obtain rfl : hy' = true := hy
  exact WireValue.present.inj h

/-- Two arrays that show the same, and are within their capacity. -/
theorem value_bytes_eq {x y : BytesArray n} (h : value x = value y) (hx : x.size ≤ n) :
    x.size = y.size ∧ (bufferOf x.bytes).take y.size = (bufferOf y.bytes).take y.size := by
  have hcontent : x.content = y.content := WireValue.bytes.inj h
  have hy : y.size ≤ n := (accepted_bytes_iff y).mp (h ▸ (accepted_bytes_iff x).mpr hx)
  rw [Cpp.content_eq hx, Cpp.content_eq hy, Option.some.injEq] at hcontent
  have hsize : x.size = y.size := by simpa [Buffer.take] using congrArg List.length hcontent
  exact ⟨hsize,by rw [← hcontent, hsize]⟩

/-- Submessages in a row can be told one by one. -/
theorem Wire.messages_inj {tag : ℕ} {as bs : List Wire}
    (h : as.foldr (fun a rest => Wire.message tag a rest) .nil = bs.foldr (fun a rest => .message tag a rest) .nil) :
    as = bs := by
  induction as generalizing bs with
  | nil =>
    cases bs with
    | nil => rfl
    | cons b bs => contradiction
  | cons a as ih =>
    cases bs with
    | nil => contradiction
    | cons b bs =>
      obtain ⟨-,rfl,hrest⟩ := Wire.message.inj h
      rw [ih hrest]

/-- Two counted arrays that show the same, and are within their capacity. -/
theorem Wire.repeated_inj {α : Type} {x y : RepeatedField α n} {wire : α → Wire} {tag : ℕ} (hx : x.count ≤ n)
    (h : Wire.repeated tag x wire .nil = Wire.repeated tag y wire .nil) :
    x.count = y.count ∧ ∀ i (hi : i < n), i < x.count → wire x.items[i] = wire y.items[i] := by
  have hfold (z : RepeatedField α n) : (z.items.toList.take z.count).foldr (fun a r => .message tag (wire a) r) Wire.nil =
      ((z.items.toList.take z.count).map wire).foldr (.message tag) .nil := (List.foldr_map ..).symm
  have hy : y.count ≤ n := by
    by_contra hlt
    rw [Wire.repeated, Wire.repeated, if_neg (by omega), if_pos (by omega), hfold] at h
    cases hl : (x.items.toList.take x.count).map wire <;> rw [hl] at h <;> contradiction
  rw [Wire.repeated, Wire.repeated, if_neg (by omega), if_neg (by omega), hfold, hfold] at h
  have hlists := Wire.messages_inj h
  have hcount : x.count = y.count := by
    have hlen := congrArg List.length hlists
    simp only [List.length_map, List.length_take, Vector.length_toList] at hlen
    omega
  refine ⟨hcount,fun i hi hlt => ?_⟩
  have hx : i < ((x.items.toList.take x.count).map wire).length := by
    simp only [List.length_map, List.length_take, Vector.length_toList]
    omega
  have hitem := congrArg (fun l => l[i]?) hlists
  have hy : i < ((y.items.toList.take y.count).map wire).length := hlists ▸ hx
  simp only [List.getElem?_eq_getElem hx, List.getElem?_eq_getElem hy, Option.some.injEq] at hitem
  simpa using hitem

/-- A submessage with a presence flag can be told from what follows. -/
theorem Wire.optional_inj {α : Type} {x y : OptionalField α} {wire : α → Wire} {tag : ℕ} {rest rest' : Wire}
    (h : Wire.optional tag x wire rest = Wire.optional tag y wire rest') :
    x.has = y.has ∧ (x.has = true → wire x.value = wire y.value) ∧ rest = rest' := by
  unfold Wire.optional at h
  split at h <;> split at h
  · rename_i hx hy
    obtain ⟨-,hvalue,hrest⟩ := Wire.message.inj h
    exact ⟨hx.trans hy.symm,fun _ => hvalue,hrest⟩
  · contradiction
  · contradiction
  · rename_i hx hy
    obtain ⟨-,-,hrest⟩ := Wire.field.inj h
    exact ⟨(Bool.eq_false_of_not_eq_true hx).trans (Bool.eq_false_of_not_eq_true hy).symm,fun h => absurd h hx,hrest⟩

/-- The counted part of an array is accepted item by item. -/
theorem Wire.repeated_items_accepted {α : Type} {x : RepeatedField α n} {wire : α → Wire} {tag : ℕ} {rest : Wire}
    (h : (Wire.repeated tag x wire rest).Accepted) (i : ℕ) (hi : i < n) (hlt : i < x.count) :
    (wire x.items[i]).Accepted := by
  have hcount := Wire.repeated_accepted h
  rw [Wire.repeated, if_neg (by omega)] at h
  have hall (as : List α) (h : (as.foldr (fun a r => Wire.message tag (wire a) r) rest).Accepted) :
      ∀ a ∈ as, (wire a).Accepted := by
    induction as with
    | nil => simp
    | cons a as ih => exact List.forall_mem_cons.mpr ⟨h.1,ih h.2⟩
  apply hall _ h
  rw [List.mem_take_iff_getElem]
  exact ⟨i,by simp only [Vector.length_toList]; omega,by simp⟩

/-- A copy does not look behind what it copies. -/
theorem memcpy_congr {dst : Vector UInt8 k} {src src' : Buffer} {length : ℕ} (h : src.take length = src'.take length) :
    memcpy dst src length = memcpy dst src' length := by
  rw [Cpp.take_eq_iff] at h
  exact (memcpy_of_agree fun i hi => (h i (Int.ofNat_lt.mp hi)).symm).symm

/-- A pointer to the bytes of an array, with its size. -/
theorem cut_bytes {x y : BytesArray n} (h : value x = value y) (hx : x.size ≤ n) :
    x.size = y.size ∧ (bufferOf x.bytes).cut y.size = (bufferOf y.bytes).cut y.size := by
  obtain ⟨hsize,htake⟩ := value_bytes_eq h hx
  exact ⟨hsize,cut_eq_iff.mpr htake⟩

section
variable {α β : Type} [FieldValue α] {x y : OptionalField α}

/-- A value that counts only behind its flag. -/
theorem value_elim (hinj : ∀ {a b : α}, value a = value b ↔ a = b) (h : value x = value y) (f : α → β) (b : β) :
    (if x.has then f x.value else b) = if y.has then f y.value else b := by
  have hhas := value_optional_has h
  rw [hhas]
  split
  · rename_i hy
    rw [hinj.mp (value_optional_value h (hhas.trans hy))]
  · rfl

theorem value_orElse (hinj : ∀ {a b : α}, value a = value b ↔ a = b) (h : value x = value y) (a : α) :
    (if x.has then x.value else a) = if y.has then y.value else a := value_elim hinj h id a

theorem loadOptional_congr (hinj : ∀ {a b : α}, value a = value b ↔ a = b) (h : value x = value y) (s : OptionalField β)
    (convert : α → β) : loadOptional s x convert = loadOptional s y convert := by
  rw [loadOptional, loadOptional, value_optional_has h, ← value_elim hinj h convert s.value, value_optional_has h]

end

end
end WhadLib
