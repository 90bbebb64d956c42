import WhadLib.Protobuf.Codec

/-! Which messages can be written, and how long they get: a descriptor without callbacks bounds the size
of every message that it describes. -/
namespace WhadLib
open Library

namespace FieldType

def wireType : FieldType → WireType
  | .bytes _ => .len
  | .fixedLengthBytes _ => .len
  | .callback wireType => wireType
  | _ => .varint

/-- The most bytes that a payload takes. -/
def limit : FieldType → ℕ
  | .uint32 => 5
  | .uint64 => 10
  | .int32 => 10
  | .bool => 1
  | .uenum => 5
  | .bytes capacity => (varint capacity).length + capacity
  | .fixedLengthBytes size => (varint size).length + size
  | .callback _ => 0

/-- With its key. -/
def recordLimit (tag : ℕ) (type : FieldType) : ℕ := keySize tag type.wireType + type.limit

end FieldType

/-- A submessage of at most `n` bytes with its key and its length. -/
def messageLimit (tag n : ℕ) : ℕ := keySize tag .len + ((varint n).length + n)

namespace Descriptor

/-- The most bytes that a message without callbacks takes. -/
def limit : Descriptor → ℕ
  | .nil => 0
  | .singular tag type rest => type.recordLimit tag + rest.limit
  | .optional tag type rest => type.recordLimit tag + rest.limit
  | .optionalMessage tag body rest => messageLimit tag body.limit + rest.limit
  | .repeated tag capacity body rest => capacity*messageLimit tag body.limit + rest.limit
  | .oneof tag type rest => max (type.recordLimit tag) rest.limit
  | .oneofMessage tag body rest => max (messageLimit tag body.limit) rest.limit

/-- No field is left to a callback. -/
def CallbackFree : Descriptor → Bool
  | .nil => true
  | .singular _ type rest => type.CallbackFree && rest.CallbackFree
  | .optional _ type rest => type.CallbackFree && rest.CallbackFree
  | .optionalMessage _ body rest => body.CallbackFree && rest.CallbackFree
  | .repeated _ _ body rest => body.CallbackFree && rest.CallbackFree
  | .oneof _ type rest => type.CallbackFree && rest.CallbackFree
  | .oneofMessage _ body rest => body.CallbackFree && rest.CallbackFree

end Descriptor

section
variable {type : FieldType} {v : WireValue} {tag : ℕ} {own : List Record}

theorem FieldType.payload_length (h : type.Holds v) {p : Payload} (hp : v.payload = some p) :
    p.wireType = type.wireType ∧ p.bytes.length ≤ type.limit := by
  cases h using FieldType.holds_cases with
  | uint32 v =>
    obtain rfl := Option.some.inj hp
    exact ⟨rfl,varint_uint32_length v⟩
  | uint64 v =>
    obtain rfl := Option.some.inj hp
    exact ⟨rfl,varint_uint64_length v⟩
  | int32 v =>
    obtain rfl := Option.some.inj hp
    exact ⟨rfl,varintBytes_length_le (show _ < _ by omega)⟩
  | bool v =>
    obtain rfl := Option.some.inj hp
    cases v <;> exact ⟨rfl,by decide⟩
  | uenum raw =>
    obtain rfl := Option.some.inj hp
    exact ⟨rfl,varintBytes_length_le (show _ < _ by omega)⟩
  | bytes capacity content h =>
    obtain ⟨b,rfl,rfl⟩ := Option.map_eq_some_iff.mp hp
    have hle := h b rfl
    have hmono := varint_length_mono hle
    simp only [Payload.wireType, Payload.bytes, List.length_append, wireType, limit, true_and]
    omega
  | fixedLengthBytes size content h =>
    obtain rfl := Option.some.inj hp
    subst h
    exact ⟨rfl,by simp [Payload.bytes, limit]⟩
  | callback => simp [WireValue.payload] at hp

theorem FieldType.payload_record (h : type.Holds v) {p : Payload} (hp : v.payload = some p) :
    (recordBytes [⟨tag,p⟩]).length ≤ type.recordLimit tag := by
  obtain ⟨hwire,hle⟩ := payload_length h hp
  simp only [recordBytes_cons, recordBytes_nil, List.append_nil, Record.bytes, List.length_append, recordLimit, keySize,
    hwire]
  omega

theorem FieldType.records_length (h : type.Holds v) (hown : v.records tag = some own) :
    (recordBytes own).length ≤ type.recordLimit tag := by
  unfold WireValue.records at hown
  split at hown
  · obtain rfl := Option.some.inj hown
    exact Nat.zero_le _
  · obtain ⟨p,hp,rfl⟩ := Option.map_eq_some_iff.mp hown
    exact payload_record h hp

theorem FieldType.static_of_callbackFree (h : type.Holds v) (hfree : type.CallbackFree = true) : v.Static := by
  rintro wireType c rfl
  cases type with
  | callback wireType' => nomatch hfree
  | _ => exact h

/-- The runtime takes a value exactly when it is accepted. -/
theorem FieldType.payload_isSome (h : type.Holds v) (hv : v.Static) : v.payload.isSome ↔ v.Accepted := by
  cases h using FieldType.holds_cases with
  | bytes capacity content => exact iff_of_eq (congrArg (· = true) Option.isSome_map)
  | callback => exact absurd rfl (hv _ _)
  | _ => exact iff_of_true rfl trivial

theorem FieldType.records_isSome (h : type.Holds v) (hv : v.Static) : (v.records tag).isSome ↔ v.Accepted := by
  unfold WireValue.records
  split
  · rename_i homitted
    refine iff_of_true rfl ?_
    cases h using FieldType.holds_cases with
    | bytes capacity content =>
      obtain rfl := of_decide_eq_true homitted
      rfl
    | _ => trivial
  · rw [Option.isSome_map]
    exact payload_isSome h hv

end

/-- No callback writes anything. -/
def Wire.Silent : Wire → Prop
  | .field _ (.callback _ c) rest => c = .unset ∧ rest.Silent
  | .field _ _ rest => rest.Silent
  | .message _ body rest => body.Silent ∧ rest.Silent
  | _ => True

theorem Wire.silent_static {tag : ℕ} {v : WireValue} {rest : Wire} (hv : v.Static) :
    (Wire.field tag v rest).Silent ↔ rest.Silent := by
  cases v with
  | callback wireType c => exact absurd rfl (hv wireType c)
  | _ => rfl

theorem Wire.Silent.ownCallbacks {w : Wire} (h : w.Silent) : w.OwnCallbacks := by
  induction w with
  | field tag v rest ih =>
    cases v with
    | callback wireType c =>
      obtain ⟨rfl,hrest⟩ := h
      exact ⟨nofun,ih hrest⟩
    | _ => exact ih h
  | message tag body rest ihbody ih => exact ⟨ihbody h.1,ih h.2⟩
  | _ => trivial

/-- What a reader sees is silent. -/
theorem Wire.silent_received (w : Wire) : w.received.Silent := by
  induction w with
  | field tag v rest ih =>
    cases v with
    | callback wireType c => exact ⟨rfl,ih⟩
    | _ => exact ih
  | message tag body rest ihbody ih => exact ⟨ihbody,ih⟩
  | _ => trivial

namespace Descriptor
variable {d : Descriptor} {w : Wire} {h : Heap} {rs : List Record}

/-- A message can be encoded exactly when every size in it is within its capacity. -/
theorem Describes.records_isSome (hd : d.Describes w) (hwf : d.WellFormed) (h : Heap) : (w.records h).isSome ↔ w.Accepted := by
  have hfield {tag : ℕ} {v : WireValue} {w : Wire} (hv : v.Static → ((v.records tag).isSome ↔ v.Accepted))
      (ih : (w.records h).isSome ↔ w.Accepted) :
      ((Wire.field tag v w).records h).isSome ↔ (Wire.field tag v w).Accepted := by
    by_cases hstatic : v.Static
    · rw [Wire.records_static hstatic, Wire.Accepted, ← ih, ← hv hstatic]
      cases v.records tag <;> cases w.records h <;> simp
    · obtain ⟨wireType,c,rfl⟩ : ∃ wireType c, v = .callback wireType c := by
        simpa [WireValue.Static] using hstatic
      rw [Wire.records, Option.isSome_map, ih]
      exact ⟨fun hw => ⟨trivial,hw⟩,And.right⟩
  have habsent {tag : ℕ} : (WireValue.absent.records tag).isSome ↔ WireValue.absent.Accepted :=
    iff_of_true rfl trivial
  have hpresent {tag : ℕ} {type : FieldType} {v : WireValue} (hv : type.Holds v) (hfree : type.CallbackFree = true) :
      ((WireValue.present v).records tag).isSome ↔ (WireValue.present v).Accepted := by
    have hpayload := FieldType.payload_isSome hv (FieldType.static_of_callbackFree hv hfree)
    have hrecords : (WireValue.present v).records tag = v.payload.map fun p => [⟨tag,p⟩] := rfl
    rw [hrecords, Option.isSome_map]
    exact hpayload
  have hmessage {tag : ℕ} {body w : Wire} (ihbody : (body.records h).isSome ↔ body.Accepted)
      (ih : (w.records h).isSome ↔ w.Accepted) :
      ((Wire.message tag body w).records h).isSome ↔ (Wire.message tag body w).Accepted := by
    rw [Wire.records, Wire.Accepted, ← ihbody, ← ih]
    cases body.records h <;> cases w.records h <;> simp
  have hnil : (Wire.nil.records h).isSome ↔ Wire.nil.Accepted := iff_of_true rfl trivial
  induction hd with
  | nil => exact hnil
  | singular hv hw ih => exact hfield (FieldType.records_isSome hv) (ih hwf.2)
  | absent hw ih => exact hfield (fun _ => habsent) (ih hwf.2.2)
  | present hv hw ih => exact hfield (fun _ => hpresent hv hwf.2.1) (ih hwf.2.2)
  | noMessage hw ih => exact hfield (fun _ => habsent) (ih hwf.2.2)
  | message hb hw ihbody ih => exact hmessage (ihbody hwf.2.1) (ih hwf.2.2)
  | refused => exact iff_of_false (by simp [Wire.records]) id
  | last hw ih => exact ih hwf.2.2
  | next hb hw ihbody ih => exact hmessage (ihbody hwf.2.1) (ih hwf)
  | member hv => exact hfield (fun _ => hpresent hv hwf.2.1) hnil
  | notMember hw ih => exact ih hwf.2.2
  | messageMember hb ih => exact hmessage (ih hwf.2.1) hnil
  | notMessageMember hw ih => exact ih hwf.2.2

/-- Where no field is left to a callback, nothing is. -/
theorem Describes.silent (hd : d.Describes w) (hfree : d.CallbackFree = true) : w.Silent := by
  induction hd with
  | nil => trivial
  | singular hv hw ih =>
    obtain ⟨htype,hrest⟩ := Bool.and_eq_true_iff.mp hfree
    exact (Wire.silent_static (FieldType.static_of_callbackFree hv htype)).mpr (ih hrest)
  | absent hw ih => exact ih (Bool.and_eq_true_iff.mp hfree).2
  | present hv hw ih => exact ih (Bool.and_eq_true_iff.mp hfree).2
  | noMessage hw ih => exact ih (Bool.and_eq_true_iff.mp hfree).2
  | message hb hw ihbody ih =>
    obtain ⟨hbody,hrest⟩ := Bool.and_eq_true_iff.mp hfree
    exact ⟨ihbody hbody,ih hrest⟩
  | refused => trivial
  | last hw ih => exact ih (Bool.and_eq_true_iff.mp hfree).2
  | next hb hw ihbody ih => exact ⟨ihbody (Bool.and_eq_true_iff.mp hfree).1,ih hfree⟩
  | member hv => trivial
  | notMember hw ih => exact ih (Bool.and_eq_true_iff.mp hfree).2
  | messageMember hb ih => exact ⟨ih (Bool.and_eq_true_iff.mp hfree).1,trivial⟩
  | notMessageMember hw ih => exact ih (Bool.and_eq_true_iff.mp hfree).2

/-- A message whose callbacks are silent is no longer than its descriptor says. -/
theorem Describes.length_le (hd : d.Describes w) (hsilent : w.Silent) (hrs : w.records h = some rs) :
    (recordBytes rs).length ≤ d.limit := by
  have hfield {tag m n : ℕ} {v : WireValue} {w : Wire} {rs : List Record} (hv : v.Static)
      (hown : ∀ {own}, v.records tag = some own → (recordBytes own).length ≤ m)
      (ih : ∀ {rs}, w.records h = some rs → (recordBytes rs).length ≤ n)
      (hrs : (Wire.field tag v w).records h = some rs) : (recordBytes rs).length ≤ m + n := by
    obtain ⟨own,rs',hrs',rfl,-,hrecords⟩ := Wire.records_field hrs
    rw [recordBytes_append, List.length_append]
    exact Nat.add_le_add (hown (hrecords hv)) (ih hrs')
  have habsent {tag : ℕ} {own : List Record} (hown : WireValue.absent.records tag = some own) :
      (recordBytes own).length ≤ 0 := by
    obtain rfl := Option.some.inj hown
    exact le_rfl
  have hpresent {tag : ℕ} {type : FieldType} {v : WireValue} (hv : type.Holds v) {own : List Record}
      (hown : (WireValue.present v).records tag = some own) : (recordBytes own).length ≤ type.recordLimit tag := by
    obtain ⟨p,hp,rfl⟩ := WireValue.records_present hown
    exact FieldType.payload_record hv hp
  have hmessage {tag m n : ℕ} {body w : Wire} {rs : List Record}
      (ihbody : ∀ {rs}, body.records h = some rs → (recordBytes rs).length ≤ m)
      (ih : ∀ {rs}, w.records h = some rs → (recordBytes rs).length ≤ n)
      (hrs : (Wire.message tag body w).records h = some rs) : (recordBytes rs).length ≤ messageLimit tag m + n := by
    obtain ⟨b,rs',hb,hrs',rfl⟩ := Wire.records_message hrs
    have hbody := ihbody hb
    have hrest := ih hrs'
    have hmono := varint_length_mono hbody
    simp only [recordBytes_cons, Record.bytes, Payload.wireType, Payload.bytes, List.length_append, messageLimit, keySize]
    omega
  have hnil {rs : List Record} (hrs : Wire.nil.records h = some rs) : (recordBytes rs).length ≤ 0 := by
    obtain rfl := Option.some.inj hrs
    exact le_rfl
  induction hd generalizing rs with
  | nil => exact hnil hrs
  | @singular tag type rest v w hv hw ih =>
    by_cases hstatic : v.Static
    · exact hfield hstatic (FieldType.records_length hv) (ih ((Wire.silent_static hstatic).mp hsilent)) hrs
    · obtain ⟨wireType,c,rfl⟩ : ∃ wireType c, v = .callback wireType c := by
        simpa [WireValue.Static] using hstatic
      obtain ⟨rfl,hrest⟩ := hsilent
      obtain ⟨rs',hrs',rfl⟩ := Option.map_eq_some_iff.mp hrs
      exact (ih hrest hrs').trans (Nat.le_add_left _ _)
  | absent hw ih =>
    have hle := hfield WireValue.static_absent habsent (ih hsilent) hrs
    exact hle.trans (Nat.add_le_add_right (Nat.zero_le _) _)
  | present hv hw ih => exact hfield (WireValue.static_present _) (hpresent hv) (ih hsilent) hrs
  | noMessage hw ih =>
    have hle := hfield WireValue.static_absent habsent (ih hsilent) hrs
    exact hle.trans (Nat.add_le_add_right (Nat.zero_le _) _)
  | message hb hw ihbody ih => exact hmessage (ihbody hsilent.1) (ih hsilent.2) hrs
  | refused => simp [Wire.records] at hrs
  | last hw ih => exact (ih hsilent hrs).trans (Nat.le_add_left _ _)
  | next hb hw ihbody ih =>
    have hle := hmessage (ihbody hsilent.1) (ih hsilent.2) hrs
    rw [limit, Nat.succ_mul]
    rw [limit] at hle
    omega
  | member hv => exact (hfield (WireValue.static_present _) (hpresent hv) hnil hrs).trans (le_max_left _ _)
  | notMember hw ih => exact (ih hsilent hrs).trans (le_max_right _ _)
  | messageMember hb ih => exact (hmessage (ih hsilent.1) hnil hrs).trans (le_max_left _ _)
  | notMessageMember hw ih => exact (ih hsilent hrs).trans (le_max_right _ _)

end Descriptor
end WhadLib
