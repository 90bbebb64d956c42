import WhadLib.Protobuf.Descriptor

/-! From the visible fields of a structure to the bytes on the wire and back. The encoder leaves out a
field that holds its default; a reader with the descriptor gets all visible fields back. -/
namespace WhadLib
open Library

namespace WireValue

/-- The value as it is written; `none` when the runtime refuses it. A negative `int32` has 64 bits. -/
def payload : WireValue → Option Payload
  | .uint32 v => some (.varint v.toNat)
  | .uint64 v => some (.varint v.toNat)
  | .int32 v => some (.varint (v.toInt % 2^64).toNat)
  | .bool v => some (.varint v.toNat)
  | .enum raw => some (.varint (raw % 2^32).toNat)
  | .bytes content => content.map .len
  | .fixed content => some (.len content)
  | .present v => v.payload
  | _ => none

/-- The runtime leaves out a field with this value. -/
def omitted : WireValue → Bool
  | .uint32 v => v = 0
  | .uint64 v => v = 0
  | .int32 v => v = 0
  | .bool v => v = false
  | .enum raw => raw % 2^32 = 0
  | .bytes content => content = some []
  | .absent => true
  | _ => false

/-- The record of a field. -/
def records (tag : ℕ) (v : WireValue) : Option (List Record) :=
  if v.omitted then some [] else v.payload.map fun p => [⟨tag,p⟩]

/-- What a reader sees: a number of an enumeration has 32 bits, and the callback of the sender means nothing. -/
def received : WireValue → WireValue
  | .enum raw => .enum (raw % 2^32)
  | .callback wireType _ => .callback wireType .unset
  | .present v => .present v.received
  | v => v

end WireValue

/-- The wire type that the encode function of a callback writes. -/
def PbCallback.wireType : PbCallback → Option WireType
  | .unset => none
  | .verboseMsg _ => some .len
  | .debugMsg _ => some .len
  | .enumCapabilities _ => some .varint
  | .frequencyRange _ => some .len

/-- The records that a callback field stands for. -/
def CallbackField.records (h : Heap) (c : CallbackField) : List Record :=
  match c.callback with
  | .unset => []
  | .verboseMsg text => if c.field.tag = verboseDataTag then [⟨c.field.tag,.len text⟩] else []
  | .debugMsg text => if c.field.tag = debugDataTag then [⟨c.field.tag,.len text⟩] else []
  | .enumCapabilities capabilities =>
    if c.field.tag = capabilitiesTag then
      (capabilities.takeWhile fun x => x.cap ≠ 0 ∧ x.domain ≠ 0).map fun x =>
        ⟨c.field.tag,.varint (x.domain ||| x.cap).toNat⟩
    else []
  | .frequencyRange arg =>
    if c.field.tag = frequencyRangesTag then
      ((h.rangesAt arg).takeWhile fun r => r.start ≠ 0 ∧ r.stop ≠ 0).map fun r => ⟨c.field.tag,.len r.bytes⟩
    else []

namespace Wire

/-- The fields as `pb_encode` walks them. -/
def fields : Wire → Fields CallbackField
  | .nil => .nil
  | .refused => .static none .nil
  | .field tag (.callback wireType c) rest => .callback ⟨⟨tag,wireType⟩,c⟩ rest.fields
  | .field tag v rest => .static ((v.records tag).map recordBytes) rest.fields
  | .message tag body rest => .submessage ⟨tag,.len⟩ body.fields rest.fields

/-- The records that are written; `none` when the runtime refuses a value. -/
def records (h : Heap) : Wire → Option (List Record)
  | .nil => some []
  | .refused => none
  | .field tag (.callback wireType c) rest =>
    (rest.records h).map fun rs => CallbackField.records h ⟨⟨tag,wireType⟩,c⟩ ++ rs
  | .field tag v rest => (v.records tag).bind fun own => (rest.records h).map fun rs => own ++ rs
  | .message tag body rest =>
    (body.records h).bind fun b => (rest.records h).map fun rs => ⟨tag,.len (recordBytes b)⟩ :: rs

/-- Every callback writes what its field is declared to hold. -/
def OwnCallbacks : Wire → Prop
  | .nil => True
  | .refused => True
  | .field _ (.callback wireType c) rest => (∀ t ∈ c.wireType, t = wireType) ∧ rest.OwnCallbacks
  | .field _ _ rest => rest.OwnCallbacks
  | .message _ body rest => body.OwnCallbacks ∧ rest.OwnCallbacks

/-- The fields as a reader sees them. -/
def received : Wire → Wire
  | .nil => .nil
  | .refused => .refused
  | .field tag v rest => .field tag v.received rest.received
  | .message tag body rest => .message tag body.received rest.received

end Wire

theorem CallbackField.records_tag (h : Heap) (c : CallbackField) : ∀ r ∈ c.records h, r.tag = c.field.tag := by
  intro r hr
  unfold records at hr
  split at hr <;> (try split at hr) <;> simp_all
  · obtain ⟨_,_,rfl⟩ := hr
    rfl
  · obtain ⟨_,_,rfl⟩ := hr
    rfl

/-- A callback writes the bytes of its records. -/
theorem CallbackField.output_eq {h : Heap} {c : CallbackField} (hown : ∀ t ∈ c.callback.wireType, t = c.field.wireType) :
    c.output h = recordBytes (c.records h) := by
  obtain ⟨⟨tag,wireType⟩,callback⟩ := c
  cases callback with
  | unset => rfl
  | verboseMsg text =>
    obtain rfl : .len = wireType := hown _ rfl
    simp only [output, textOutput, records]
    split <;> simp [Record.bytes, Payload.wireType, Payload.bytes]
  | debugMsg text =>
    obtain rfl : .len = wireType := hown _ rfl
    simp only [output, textOutput, records]
    split <;> simp [Record.bytes, Payload.wireType, Payload.bytes]
  | enumCapabilities capabilities =>
    obtain rfl : .varint = wireType := hown _ rfl
    simp only [output, capabilitiesOutput, records]
    split
    · rw [recordBytes, List.flatMap_map]
      rfl
    · rfl
  | frequencyRange arg =>
    obtain rfl : .len = wireType := hown _ rfl
    simp only [output, frequencyRangeOutput, records]
    split
    · rw [recordBytes, List.flatMap_map]
      rfl
    · rfl

section
variable {h : Heap} {tag : ℕ} {v : WireValue} {rest : Wire}

/-- A field without a callback. -/
def WireValue.Static (v : WireValue) : Prop := ∀ wireType c, v ≠ .callback wireType c

theorem WireValue.static_absent : WireValue.absent.Static := nofun

theorem WireValue.static_present (v : WireValue) : (WireValue.present v).Static := nofun

theorem Wire.records_static (hv : v.Static) :
    (Wire.field tag v rest).records h = (v.records tag).bind fun own => (rest.records h).map fun rs => own ++ rs := by
  cases v with
  | callback wireType c => exact absurd rfl (hv wireType c)
  | _ => rfl

theorem Wire.ownCallbacks_static (hv : v.Static) : (Wire.field tag v rest).OwnCallbacks ↔ rest.OwnCallbacks := by
  cases v with
  | callback wireType c => exact absurd rfl (hv wireType c)
  | _ => rfl

end

/-- The encoding of the fields is the bytes of their records. -/
theorem Wire.fields_encoding {h : Heap} {w : Wire} (hown : w.OwnCallbacks) :
    w.fields.encoding (CallbackField.output h) = (w.records h).map recordBytes := by
  fun_induction Wire.fields w with
  | case1 => rfl
  | case2 => rfl
  | case3 tag wireType c rest ih =>
    obtain ⟨hc,hrest⟩ := hown
    rw [Fields.encoding, ih hrest, CallbackField.output_eq hc, records]
    cases rest.records h <;> simp
  | case4 tag v rest hv ih =>
    rw [Wire.ownCallbacks_static fun wireType c => hv wireType c] at hown
    rw [Fields.encoding, ih hown, Wire.records_static fun wireType c => hv wireType c]
    cases v.records tag <;> cases rest.records h <;> simp
  | case5 tag body rest ihbody ih =>
    rw [Fields.encoding, ihbody hown.1, ih hown.2, records]
    cases body.records h <;> cases rest.records h <;> simp [Record.bytes, Payload.wireType, Payload.bytes]

/-! What was written under a type is read back. -/

section
variable {type : FieldType} {v : WireValue} {tag : ℕ}

/-- A number with a sign is read from its 64 bits. -/
theorem FieldType.read_int32 (v : Int32) : int32.read (.varint (v.toInt % 2^64).toNat) = some (.int32 v) := by
  have hlow := v.le_toInt
  have hhigh := v.toInt_lt
  by_cases hneg : v.toInt < 0
  · have hraw : (v.toInt % 2^64).toNat = (v.toInt + 2^64).toNat := by omega
    have hvalue : (((v.toInt + 2^64).toNat : ℕ) : ℤ) - 2^64 = v.toInt := by omega
    rw [read, hraw, if_neg (by omega), if_pos (by omega), hvalue, Int32.ofInt_toInt]
  · have hraw : (v.toInt % 2^64).toNat = v.toInt.toNat := by omega
    have hvalue : ((v.toInt.toNat : ℕ) : ℤ) = v.toInt := by omega
    rw [read, hraw, if_pos (by omega), hvalue, Int32.ofInt_toInt]

/-- A payload of a type is read as the value that was written. -/
theorem FieldType.read_payload (h : type.Holds v) {p : Payload} (hp : v.payload = some p) :
    type.read p = some v.received := by
  cases h using FieldType.holds_cases with
  | uint32 v =>
    obtain rfl := Option.some.inj hp
    rw [read, if_pos v.toNat_lt, UInt32.ofNat_toNat]
    rfl
  | uint64 v =>
    obtain rfl := Option.some.inj hp
    rw [read, if_pos v.toNat_lt, UInt64.ofNat_toNat]
    rfl
  | int32 v =>
    obtain rfl := Option.some.inj hp
    exact read_int32 v
  | bool v =>
    obtain rfl := Option.some.inj hp
    cases v <;> rfl
  | uenum raw =>
    obtain rfl := Option.some.inj hp
    rw [read, if_pos (by omega), Int.toNat_of_nonneg (by omega)]
    rfl
  | bytes capacity content h =>
    obtain ⟨b,rfl,rfl⟩ := Option.map_eq_some_iff.mp hp
    exact if_pos (h b rfl)
  | fixedLengthBytes size content h =>
    obtain rfl := Option.some.inj hp
    exact if_pos h
  | callback => nomatch hp

/-- A value that was left out is the one that the reader assumes. -/
theorem FieldType.initial_of_omitted (h : type.Holds v) (hv : v.omitted = true) : type.initial = v.received := by
  cases h using FieldType.holds_cases with
  | uint32 v => exact congrArg WireValue.uint32 (of_decide_eq_true hv).symm
  | uint64 v => exact congrArg WireValue.uint64 (of_decide_eq_true hv).symm
  | int32 v => exact congrArg WireValue.int32 (of_decide_eq_true hv).symm
  | bool v => exact congrArg WireValue.bool (of_decide_eq_true hv).symm
  | uenum raw => exact congrArg WireValue.enum (of_decide_eq_true hv).symm
  | bytes capacity content => exact congrArg WireValue.bytes (of_decide_eq_true hv).symm
  | fixedLengthBytes => nomatch hv
  | callback => nomatch hv

theorem FieldType.readField_records (h : type.Holds v) {rs : List Record} (hrs : v.Static → v.records tag = some rs) :
    type.readField (payloads tag rs) = some v.received := by
  by_cases hv : v.Static
  · have hrs := hrs hv
    unfold WireValue.records at hrs
    split at hrs
    · rename_i homitted
      obtain rfl := Option.some.inj hrs
      rw [← initial_of_omitted h homitted]
      cases type <;> rfl
    · obtain ⟨p,hp,rfl⟩ := Option.map_eq_some_iff.mp hrs
      have hread := read_payload h hp
      rw [payloads_cons_self, payloads_nil]
      cases h using FieldType.holds_cases with
      | callback => exact absurd rfl (hv _ _)
      | _ => exact hread
  · obtain ⟨wireType,c,rfl⟩ : ∃ wireType c, v = .callback wireType c := by
      simpa [WireValue.Static] using hv
    cases type with
    | callback wireType' => obtain rfl : wireType' = wireType := h; rfl
    | _ => exact h.elim

theorem WireValue.records_present {own : List Record} (h : (WireValue.present v).records tag = some own) :
    ∃ p, v.payload = some p ∧ own = [⟨tag,p⟩] := by
  obtain ⟨p,hp,rfl⟩ := Option.map_eq_some_iff.mp h
  exact ⟨p,hp,rfl⟩

end

/-! The records of a field list. -/

/-- A number has 64 bits. -/
def Payload.Small : Payload → Prop
  | .varint v => v < 2^64
  | _ => True

theorem WireValue.payload_small {v : WireValue} {p : Payload} (hp : v.payload = some p) : p.Small := by
  induction v with
  | uint32 v => obtain rfl := Option.some.inj hp; exact v.toNat_lt.trans (by norm_num)
  | uint64 v => obtain rfl := Option.some.inj hp; exact v.toNat_lt
  | int32 v => obtain rfl := Option.some.inj hp; change _ < _; omega
  | bool v => obtain rfl := Option.some.inj hp; exact (Bool.toNat_lt v).trans (by norm_num)
  | enum raw => obtain rfl := Option.some.inj hp; change _ < _; omega
  | bytes content => obtain ⟨b,-,rfl⟩ := Option.map_eq_some_iff.mp hp; trivial
  | fixed content => obtain rfl := Option.some.inj hp; trivial
  | callback wireType c => nomatch hp
  | absent => nomatch hp
  | present v ih => exact ih hp

theorem WireValue.records_small {v : WireValue} {tag : ℕ} {rs : List Record} (hrs : v.records tag = some rs) :
    ∀ r ∈ rs, r.tag = tag ∧ r.payload.Small := by
  unfold records at hrs
  split at hrs
  · obtain rfl := Option.some.inj hrs
    simp
  · obtain ⟨p,hp,rfl⟩ := Option.map_eq_some_iff.mp hrs
    simpa using payload_small hp

theorem CallbackField.records_small (h : Heap) (c : CallbackField) : ∀ r ∈ c.records h, r.payload.Small := by
  intro r hr
  obtain ⟨field,callback⟩ := c
  cases callback with
  | unset => simp [records] at hr
  | verboseMsg text => simp only [records] at hr; split at hr <;> simp_all [Payload.Small]
  | debugMsg text => simp only [records] at hr; split at hr <;> simp_all [Payload.Small]
  | enumCapabilities capabilities =>
    simp only [records] at hr
    split at hr
    · obtain ⟨x,-,rfl⟩ := List.mem_map.mp hr
      exact (x.domain ||| x.cap).toNat_lt.trans (by norm_num)
    · simp at hr
  | frequencyRange arg =>
    simp only [records] at hr
    split at hr
    · obtain ⟨x,-,rfl⟩ := List.mem_map.mp hr
      trivial
    · simp at hr

section
variable {h : Heap} {tag : ℕ} {v : WireValue} {body rest : Wire} {rs : List Record}

/-- The records of a field come first, under its tag. -/
theorem Wire.records_field (hrs : (Wire.field tag v rest).records h = some rs) :
    ∃ own rs', rest.records h = some rs' ∧ rs = own ++ rs' ∧ (∀ r ∈ own, r.tag = tag ∧ r.payload.Small) ∧
      (v.Static → v.records tag = some own) := by
  by_cases hv : v.Static
  · rw [Wire.records_static hv] at hrs
    obtain ⟨own,hown,hmap⟩ := Option.bind_eq_some_iff.mp hrs
    obtain ⟨rs',hrs',rfl⟩ := Option.map_eq_some_iff.mp hmap
    exact ⟨own,rs',hrs',rfl,WireValue.records_small hown,fun _ => hown⟩
  · obtain ⟨wireType,c,rfl⟩ : ∃ wireType c, v = .callback wireType c := by
      simpa [WireValue.Static] using hv
    obtain ⟨rs',hrs',rfl⟩ := Option.map_eq_some_iff.mp hrs
    exact ⟨_,rs',hrs',rfl,fun r hr => ⟨CallbackField.records_tag h _ r hr,CallbackField.records_small h _ r hr⟩,
      fun hstatic => absurd hstatic hv⟩

/-- The record of a submessage comes first. -/
theorem Wire.records_message (hrs : (Wire.message tag body rest).records h = some rs) :
    ∃ b rs', body.records h = some b ∧ rest.records h = some rs' ∧ rs = ⟨tag,.len (recordBytes b)⟩ :: rs' := by
  obtain ⟨b,hb,hmap⟩ := Option.bind_eq_some_iff.mp hrs
  obtain ⟨rs',hrs',rfl⟩ := Option.map_eq_some_iff.mp hmap
  exact ⟨b,rs',hb,hrs',rfl⟩

end

namespace Descriptor
variable {d : Descriptor} {w : Wire} {h : Heap} {rs : List Record}

/-- A described field list is written under the tags of its descriptor. -/
theorem Describes.records_small (hd : d.Describes w) (hrs : w.records h = some rs) :
    ∀ r ∈ rs, r.tag ∈ d.tags ∧ r.payload.Small := by
  have hfield {tag : ℕ} {v : WireValue} {rest : Descriptor} {w : Wire} {rs : List Record}
      (ih : ∀ {rs}, w.records h = some rs → ∀ r ∈ rs, r.tag ∈ rest.tags ∧ r.payload.Small)
      (hrs : (Wire.field tag v w).records h = some rs) : ∀ r ∈ rs, r.tag ∈ tag :: rest.tags ∧ r.payload.Small := by
    obtain ⟨own,rs',hrs',rfl,hown,-⟩ := Wire.records_field hrs
    intro r hr
    rcases List.mem_append.mp hr with hr | hr
    · exact ⟨(hown r hr).1 ▸ List.mem_cons_self,(hown r hr).2⟩
    · exact ⟨List.mem_cons_of_mem _ (ih hrs' r hr).1,(ih hrs' r hr).2⟩
  have hmessage {tag : ℕ} {tags : List ℕ} {body w : Wire} {rs : List Record} (htag : tag ∈ tags)
      (ih : ∀ {rs}, w.records h = some rs → ∀ r ∈ rs, r.tag ∈ tags ∧ r.payload.Small)
      (hrs : (Wire.message tag body w).records h = some rs) : ∀ r ∈ rs, r.tag ∈ tags ∧ r.payload.Small := by
    obtain ⟨b,rs',-,hrs',rfl⟩ := Wire.records_message hrs
    intro r hr
    rcases List.mem_cons.mp hr with rfl | hr
    · exact ⟨htag,trivial⟩
    · exact ih hrs' r hr
  have hnil {tags : List ℕ} {rs : List Record} (hrs : Wire.nil.records h = some rs) :
      ∀ r ∈ rs, r.tag ∈ tags ∧ r.payload.Small := by
    obtain rfl := Option.some.inj hrs
    simp
  have hcons {tag : ℕ} {tags : List ℕ} {w : Wire} (ih : ∀ {rs}, w.records h = some rs → ∀ r ∈ rs, r.tag ∈ tags ∧ r.payload.Small)
      {rs : List Record} (hrs : w.records h = some rs) : ∀ r ∈ rs, r.tag ∈ tag :: tags ∧ r.payload.Small :=
    fun r hr => ⟨List.mem_cons_of_mem _ (ih hrs r hr).1,(ih hrs r hr).2⟩
  induction hd generalizing rs with
  | nil => exact hnil hrs
  | singular hv hw ih => exact hfield ih hrs
  | absent hw ih => exact hfield ih hrs
  | present hv hw ih => exact hfield ih hrs
  | noMessage hw ih => exact hfield ih hrs
  | message hb hw ihbody ih => exact hmessage List.mem_cons_self (hcons ih) hrs
  | refused => simp [Wire.records] at hrs
  | last hw ih => exact hcons ih hrs
  | next hb hw ihbody ih => exact hmessage List.mem_cons_self ih hrs
  | member hv => exact hfield hnil hrs
  | notMember hw ih => exact hcons ih hrs
  | messageMember hb ih => exact hmessage List.mem_cons_self hnil hrs
  | notMessageMember hw ih => exact hcons ih hrs

theorem WellFormed.tag_bounds (hd : d.WellFormed) : ∀ t ∈ d.tags, 0 < t ∧ t < 2^29 := by
  induction d with
  | nil => simp [tags]
  | singular tag type rest ih => exact List.forall_mem_cons.mpr ⟨⟨hd.1.1,hd.1.2.1⟩,ih hd.2⟩
  | optional tag type rest ih => exact List.forall_mem_cons.mpr ⟨⟨hd.1.1,hd.1.2.1⟩,ih hd.2.2⟩
  | optionalMessage tag body rest ihbody ih => exact List.forall_mem_cons.mpr ⟨⟨hd.1.1,hd.1.2.1⟩,ih hd.2.2⟩
  | repeated tag capacity body rest ihbody ih => exact List.forall_mem_cons.mpr ⟨⟨hd.1.1,hd.1.2.1⟩,ih hd.2.2⟩
  | oneof tag type rest ih => exact List.forall_mem_cons.mpr ⟨⟨hd.1.1,hd.1.2.1⟩,ih hd.2.2⟩
  | oneofMessage tag body rest ihbody ih => exact List.forall_mem_cons.mpr ⟨⟨hd.1.1,hd.1.2.1⟩,ih hd.2.2⟩

/-- A record is no longer than all records. -/
theorem length_bytes_le {r : Record} (hr : r ∈ rs) : r.bytes.length ≤ (recordBytes rs).length := by
  exact (List.sublist_flatten_of_mem (List.mem_map_of_mem hr)).length_le

/-- A submessage is no longer than its record. -/
theorem length_le_record (tag : ℕ) (bytes : List UInt8) : bytes.length ≤ (Record.bytes ⟨tag,.len bytes⟩).length := by
  simp only [Record.bytes, Payload.bytes, List.length_append]
  omega

/-- Its records are such as a reader takes. -/
theorem Describes.records_fit (hd : d.Describes w) (hwf : d.WellFormed) (hrs : w.records h = some rs)
    (hlen : (recordBytes rs).length < 2^64) : ∀ r ∈ rs, r.Fits := by
  intro r hr
  obtain ⟨htag,hsmall⟩ := hd.records_small hrs r hr
  obtain ⟨hpos,hlt⟩ := hwf.tag_bounds r.tag htag
  refine ⟨hpos,hlt,?_⟩
  have hle := length_bytes_le hr
  obtain ⟨tag,payload⟩ := r
  cases payload with
  | varint v => exact hsmall
  | fixed64 bytes => trivial
  | len bytes => exact ((length_le_record tag bytes).trans hle).trans_lt hlen
  | fixed32 bytes => trivial

/-- The bytes of a submessage mean what its records mean. -/
theorem Describes.readMessage_bytes (hd : d.Describes w) (hwf : d.WellFormed) (hrs : w.records h = some rs)
    (hlen : (recordBytes rs).length < 2^64) : readMessage d.read (.len (recordBytes rs)) = d.read rs := by
  rw [readMessage, readRecords_bytes (hd.records_fit hwf hrs hlen), Option.bind_some]

/-- The records of other fields in front change nothing. -/
theorem read_own {tag : ℕ} {own : List Record} (htag : tag ∉ d.tags) (hown : ∀ r ∈ own, r.tag = tag) :
    d.read (own ++ rs) = d.read rs := by
  apply read_append
  intro r hr hmem
  rw [hown r hr] at hmem
  exact htag hmem

theorem read_record {tag : ℕ} {p : Payload} (htag : tag ∉ d.tags) : d.read (⟨tag,p⟩ :: rs) = d.read rs := by
  have hown : ∀ r ∈ [(⟨tag,p⟩ : Record)], r.tag = tag := by simp
  exact read_own htag hown

/-- A field whose tag nobody else uses finds its own records only. -/
theorem Describes.payloads_rest {tag : ℕ} (hd : d.Describes w) (hrs : w.records h = some rs) (htag : tag ∉ d.tags) :
    payloads tag rs = [] := by
  apply payloads_of_not_mem
  rintro r hr rfl
  exact htag (hd.records_small hrs r hr).1

theorem Describes.payloads_own {tag : ℕ} {own : List Record} (hd : d.Describes w) (hrs : w.records h = some rs)
    (htag : tag ∉ d.tags) : payloads tag (own ++ rs) = payloads tag own := by
  rw [payloads_append, hd.payloads_rest hrs htag, List.append_nil]

/-- The member of a union that was written is its only one. -/
theorem payloads_others {tag : ℕ} {p : Payload} (htag : tag ∉ d.tags) : ∀ t ∈ d.tags, payloads t [⟨tag,p⟩] = [] := by
  intro t ht
  apply payloads_of_not_mem
  rintro r hr rfl
  rw [List.mem_singleton.mp hr] at ht
  exact htag ht

/-- What was written is read back: all visible fields, under any descriptor that describes them. -/
theorem Describes.read_records (hd : d.Describes w) (hwf : d.WellFormed) (hrs : w.records h = some rs)
    (hlen : (recordBytes rs).length < 2^64) : d.read rs = some w.received := by
  induction hd generalizing rs with
  | nil => rfl
  | @singular tag type rest v w hv hw ih =>
    obtain ⟨⟨-,-,htag⟩,hrest⟩ := hwf
    obtain ⟨own,rs',hrs',rfl,hown,hrecords⟩ := Wire.records_field hrs
    rw [recordBytes_append, List.length_append] at hlen
    rw [read, hw.payloads_own hrs' htag, FieldType.readField_records hv hrecords, Option.bind_some,
      read_own htag fun r hr => (hown r hr).1, ih hrest hrs' (by omega)]
    rfl
  | @absent tag type rest w hw ih =>
    obtain ⟨⟨-,-,htag⟩,-,hrest⟩ := hwf
    obtain ⟨own,rs',hrs',rfl,hown,hrecords⟩ := Wire.records_field hrs
    obtain rfl : [] = own := Option.some.inj (hrecords WireValue.static_absent)
    rw [List.nil_append] at hlen ⊢
    simp only [read, hw.payloads_rest hrs' htag, ih hrest hrs' hlen]
    rfl
  | @present tag type rest v w hv hw ih =>
    obtain ⟨⟨-,-,htag⟩,-,hrest⟩ := hwf
    obtain ⟨own,rs',hrs',rfl,hown,hrecords⟩ := Wire.records_field hrs
    obtain ⟨p,hp,rfl⟩ := WireValue.records_present (hrecords (WireValue.static_present v))
    rw [recordBytes_append, List.length_append] at hlen
    simp only [read, hw.payloads_own hrs' htag, payloads_cons_self, payloads_nil, FieldType.read_payload hv hp,
      Option.bind_some, read_own htag fun r hr => (hown r hr).1, ih hrest hrs' (by omega)]
    rfl
  | @noMessage tag body rest w hw ih =>
    obtain ⟨⟨-,-,htag⟩,-,hrest⟩ := hwf
    obtain ⟨own,rs',hrs',rfl,hown,hrecords⟩ := Wire.records_field hrs
    obtain rfl : [] = own := Option.some.inj (hrecords WireValue.static_absent)
    rw [List.nil_append] at hlen ⊢
    simp only [read, hw.payloads_rest hrs' htag, ih hrest hrs' hlen]
    rfl
  | @message tag body rest b w hb hw ihbody ih =>
    obtain ⟨⟨-,-,htag⟩,hbody,hrest⟩ := hwf
    obtain ⟨brs,rs',hbrs,hrs',rfl⟩ := Wire.records_message hrs
    rw [recordBytes_cons, List.length_append] at hlen
    have hle := length_le_record tag (recordBytes brs)
    have hbytes := (hb.readMessage_bytes hbody hbrs (by omega)).trans (ihbody hbody hbrs (by omega))
    simp only [read, payloads_cons_self, hw.payloads_rest hrs' htag, hbytes, read_record htag, ih hrest hrs' (by omega)]
    rfl
  | refused => simp [Wire.records] at hrs
  | @last tag capacity body rest w hw ih =>
    obtain ⟨⟨-,-,htag⟩,-,hrest⟩ := hwf
    rw [read, hw.payloads_rest hrs htag, List.length_nil, if_pos (Nat.zero_le _), ih hrest hrs hlen]
    rfl
  | @next tag capacity body rest b w hb hw ihbody ih =>
    obtain ⟨⟨-,-,htag⟩,hbody,hrest⟩ := id hwf
    obtain ⟨brs,rs',hbrs,hrs',rfl⟩ := Wire.records_message hrs
    rw [recordBytes_cons, List.length_append] at hlen
    have hle := length_le_record tag (recordBytes brs)
    have hbytes := (hb.readMessage_bytes hbody hbrs (by omega)).trans (ihbody hbody hbrs (by omega))
    -- what is left of the array was read under one element less
    have hthere := ih hwf hrs' (by omega)
    rw [read] at hthere
    split at hthere
    · rename_i hcount
      obtain ⟨bs,hbs,hmap⟩ := Option.bind_eq_some_iff.mp hthere
      obtain ⟨w',hw',hfold⟩ := Option.map_eq_some_iff.mp hmap
      rw [read, payloads_cons_self, List.length_cons, if_pos (Nat.succ_le_succ hcount), List.mapM_cons, hbytes, hbs,
        read_record htag, hw']
      simp only [Option.bind_some, Option.map_some, List.foldr_cons, Wire.received, ← hfold, bind, pure]
    · contradiction
  | @member tag type rest v hv =>
    obtain ⟨⟨-,-,htag⟩,hrest⟩ := hwf
    obtain ⟨own,rs',hrs',rfl,hown,hrecords⟩ := Wire.records_field hrs
    obtain ⟨p,hp,rfl⟩ := WireValue.records_present (hrecords (WireValue.static_present v))
    obtain rfl := Option.some.inj hrs'
    rw [List.append_nil]
    simp only [read, payloads_cons_self, payloads_nil, if_pos (payloads_others htag), FieldType.read_payload hv hp]
    rfl
  | @notMember tag type rest w hw ih =>
    obtain ⟨⟨-,-,htag⟩,-,hrest⟩ := hwf
    simp only [read, hw.payloads_rest hrs htag, ih hrest hrs hlen]
  | @messageMember tag body rest b hb ih =>
    obtain ⟨⟨-,-,htag⟩,hbody,-⟩ := hwf
    obtain ⟨brs,rs',hbrs,hrs',rfl⟩ := Wire.records_message hrs
    obtain rfl := Option.some.inj hrs'
    rw [recordBytes_cons, List.length_append] at hlen
    have hle := length_le_record tag (recordBytes brs)
    have hbytes := (hb.readMessage_bytes hbody hbrs (by omega)).trans (ih hbody hbrs (by omega))
    simp only [read, payloads_cons_self, payloads_nil, if_pos (payloads_others htag), hbytes]
    rfl
  | @notMessageMember tag body rest w hw ih =>
    obtain ⟨⟨-,-,htag⟩,-,hrest⟩ := hwf
    simp only [read, hw.payloads_rest hrs htag, ih hrest hrs hlen]

end Descriptor
end WhadLib
