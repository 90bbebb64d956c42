import WhadLib.FullMessage
import WhadLib.Ble.Descriptors
import WhadLib.Device.Descriptors
import WhadLib.Dot15d4.Descriptors
import WhadLib.Phy.Descriptors
import WhadLib.Unifying.Descriptors

/-! Whole messages on the wire: the union of domains, the union of members in each of them, and the
fields of the member. -/
namespace WhadLib
open Library

/-- A union of submessages. -/
def Descriptor.union {κ : Type} (tag : κ → ℕ) (descriptor : κ → Descriptor) (ks : List κ) : Descriptor :=
  ks.foldr (fun k rest => .oneofMessage (tag k) (descriptor k) rest) .nil

/-- `discovery_Message_fields`, and the same for the other domains. -/
def discoveryDescriptor : Descriptor := .union DiscoveryKind.tag DiscoveryKind.descriptor DiscoveryKind.all
def bleDescriptor : Descriptor := .union Ble.BleKind.tag Ble.BleKind.descriptor Ble.BleKind.all
def dot15d4Descriptor : Descriptor :=
  .union Dot15d4.Dot15d4Kind.tag Dot15d4.Dot15d4Kind.descriptor Dot15d4.Dot15d4Kind.all
def esbDescriptor : Descriptor := .union Esb.EsbKind.tag Esb.EsbKind.descriptor Esb.EsbKind.all
def unifyingDescriptor : Descriptor :=
  .union Unifying.UnifyingKind.tag Unifying.UnifyingKind.descriptor Unifying.UnifyingKind.all
def phyDescriptor : Descriptor := .union Phy.PhyKind.tag Phy.PhyKind.descriptor Phy.PhyKind.all

/-- The messages of the domains, without the board. -/
def domainDescriptors : List (ℕ × Descriptor) :=
  [(Message.genericTag,genericDescriptor),(Message.discoveryTag,discoveryDescriptor),(Message.bleTag,bleDescriptor),
    (Message.dot15d4Tag,dot15d4Descriptor),(Message.esbTag,esbDescriptor),(Message.unifyingTag,unifyingDescriptor),
    (Message.phyTag,phyDescriptor)]

/-- `Message_fields` without the board messages. -/
def messageDescriptor : Descriptor := .union Prod.fst Prod.snd domainDescriptors

/-- What the bytes of a message mean. A record with a board message is passed over, as one with an unknown tag is. -/
def readMessageBytes (bytes : List UInt8) : Option Wire := (readRecords bytes).bind messageDescriptor.read

/-- The fields of the message of the domain: its member is a message of its own, but for the result code. -/
def Kind.member : (k : Kind) → k.Struct → Wire
  | .generic .result, p => GenericKind.result.wire p
  | k, p => .message k.tag (k.wire p) .nil

namespace FullMessage

/-- The message of the domain. -/
def domainMessage (m : FullMessage) : Wire :=
  match m.kind with
  | some k => k.member (m.msg k)
  | none => .nil

/-- All visible fields of a message. A tag of the domain that nobody knows shows nothing, and nothing is
said about board messages. -/
def tree (m : FullMessage) : Wire :=
  if m.whichMsg ∈ domainDescriptors.map Prod.fst then .message m.whichMsg m.domainMessage .nil else .nil

end FullMessage

theorem messageDescriptor_wellFormed : messageDescriptor.WellFormed := by decide +kernel

section
variable {κ : Type} {tag : κ → ℕ} {descriptor : κ → Descriptor} {ks : List κ}

/-- No member at all. -/
theorem Descriptor.describes_union_nil : (union tag descriptor ks).Describes .nil := by
  induction ks with
  | nil => exact .nil
  | cons k ks ih => exact .notMessageMember ih

/-- One of the members. -/
theorem Descriptor.describes_union {k : κ} (hk : k ∈ ks) {w : Wire} (hw : (descriptor k).Describes w) :
    (union tag descriptor ks).Describes (.message (tag k) w .nil) := by
  induction ks with
  | nil => contradiction
  | cons k' ks ih =>
    rcases List.mem_cons.mp hk with rfl | hk
    · exact .messageMember hw
    · exact .notMessageMember (ih hk)

end

theorem DiscoveryKind.mem_all (k : DiscoveryKind) : k ∈ all := by cases k <;> decide
theorem Ble.BleKind.mem_all (k : BleKind) : k ∈ all := by cases k <;> decide
theorem Dot15d4.Dot15d4Kind.mem_all (k : Dot15d4Kind) : k ∈ all := by cases k <;> decide
theorem Esb.EsbKind.mem_all (k : EsbKind) : k ∈ all := by cases k <;> decide
theorem Unifying.UnifyingKind.mem_all (k : UnifyingKind) : k ∈ all := by cases k <;> decide
theorem Phy.PhyKind.mem_all (k : PhyKind) : k ∈ all := by cases k <;> decide

namespace Kind

/-- The descriptor of the message of the domain. -/
def domainDescriptor : Kind → Descriptor
  | .generic _ => genericDescriptor
  | .discovery _ => discoveryDescriptor
  | .ble _ => bleDescriptor
  | .dot15d4 _ => dot15d4Descriptor
  | .esb _ => esbDescriptor
  | .unifying _ => unifyingDescriptor
  | .phy _ => phyDescriptor

theorem generic_describes (k : GenericKind) (p : k.Struct) : genericDescriptor.Describes ((Kind.generic k).member p) := by
  cases k with
  | result => exact .member trivial
  | cmdResult => exact .notMember (.messageMember (.singular trivial .nil))
  | progress => exact .notMember (.notMessageMember (.messageMember (.singular trivial .nil)))
  | debug =>
    exact .notMember (.notMessageMember (.notMessageMember (.messageMember (.singular trivial (.singular rfl .nil)))))
  | verbose =>
    exact .notMember (.notMessageMember (.notMessageMember (.notMessageMember (.messageMember (.singular rfl .nil)))))

/-- A member is described by the message of its domain. -/
theorem describes (k : Kind) (p : k.Struct) : k.domainDescriptor.Describes (k.member p) := by
  cases k with
  | generic k => exact generic_describes k p
  | discovery k => exact Descriptor.describes_union k.mem_all (k.describes p)
  | ble k => exact Descriptor.describes_union k.mem_all (k.describes p)
  | dot15d4 k => exact Descriptor.describes_union k.mem_all (k.describes p)
  | esb k => exact Descriptor.describes_union k.mem_all (k.describes p)
  | unifying k => exact Descriptor.describes_union k.mem_all (k.describes p)
  | phy k => exact Descriptor.describes_union k.mem_all (k.describes p)

theorem domain_mem (k : Kind) : (k.domainTag,k.domainDescriptor) ∈ domainDescriptors := by
  cases k <;> simp [domainDescriptors, domainTag, domainDescriptor]

theorem domainTag_mem (k : Kind) : k.domainTag ∈ domainDescriptors.map Prod.fst := List.mem_map_of_mem k.domain_mem

end Kind

theorem Kind.select_eq_some_iff {domain tag : ℕ} {k : Kind} :
    select domain tag = some k ↔ domain = k.domainTag ∧ tag = k.tag := by
  constructor
  · intro h
    have htags := List.find?_some h
    rw [Bool.and_eq_true, beq_iff_eq, beq_iff_eq] at htags
    exact ⟨htags.1.symm,htags.2.symm⟩
  · rintro ⟨rfl,rfl⟩
    exact select_tag k

theorem FullMessage.kind_eq_some_iff {m : FullMessage} {k : Kind} : m.kind = some k ↔ m.Holds k :=
  Kind.select_eq_some_iff.trans ⟨fun h => ⟨h.1,h.2⟩,fun h => ⟨h.domain,h.tag⟩⟩

theorem FullMessage.Holds.tree {m : FullMessage} {k : Kind} (h : m.Holds k) :
    m.tree = .message k.domainTag (k.member (m.msg k)) .nil := by
  rw [FullMessage.tree, domainMessage, h.kind, h.domain, if_pos k.domainTag_mem]

/-- Every domain accepts a message without a member. -/
theorem domainDescriptors_describe_nil : ∀ d ∈ domainDescriptors, d.2.Describes .nil := by
  simp only [domainDescriptors, List.forall_mem_cons, List.not_mem_nil, false_implies, implies_true, and_true]
  exact ⟨.notMember (.notMessageMember (.notMessageMember (.notMessageMember (.notMessageMember .nil)))),
    Descriptor.describes_union_nil,Descriptor.describes_union_nil,Descriptor.describes_union_nil,
    Descriptor.describes_union_nil,Descriptor.describes_union_nil,Descriptor.describes_union_nil⟩

/-- Whatever a message holds, the descriptor of the protocol describes it. -/
theorem FullMessage.describes (m : FullMessage) : messageDescriptor.Describes m.tree := by
  rw [tree]
  split
  · rename_i htag
    cases hk : m.kind with
    | some k =>
      rw [domainMessage, hk, (kind_eq_some_iff.mp hk).domain]
      exact Descriptor.describes_union k.domain_mem (k.describes (m.msg k))
    | none =>
      obtain ⟨d,hd,htag⟩ := List.mem_map.mp htag
      rw [← htag, domainMessage, hk]
      exact Descriptor.describes_union hd (domainDescriptors_describe_nil d hd)
  · exact Descriptor.describes_union_nil

/-! The message as `whad_send_message` takes it. -/

namespace FullMessage

/-- The fields of the message of a domain with a member of a given tag. -/
def memberFields (m : FullMessage) (domain tag : ℕ) : Fields CallbackField :=
  match Kind.select domain tag with
  | some k => (k.member (m.msg k)).fields
  | none => .nil

def toMessage (m : FullMessage) : Message where
  whichMsg := m.whichMsg
  generic :=
    { whichMsg := m.whichDomainMsg
      result := UInt32.ofInt (m.msg (.generic .result)).raw
      cmdResult := UInt32.ofInt (m.msg (.generic .cmdResult)).result.raw
      progress := (m.msg (.generic .progress)).value
      debug := m.msg (.generic .debug)
      verbose := (m.msg (.generic .verbose)).data }
  discovery :=
    { whichMsg := m.whichDomainMsg
      infoQuery := (m.msg (.discovery .infoQuery)).protoVer
      infoResp := m.msg (.discovery .infoResp)
      domainQuery := (m.msg (.discovery .domainQuery)).domain
      domainResp := m.msg (.discovery .domainResp)
      setSpeed := (m.msg (.discovery .setSpeed)).speed }
  ble := m.memberFields Message.bleTag m.whichDomainMsg
  dot15d4 := m.memberFields Message.dot15d4Tag m.whichDomainMsg
  esb := m.memberFields Message.esbTag m.whichDomainMsg
  unifying := m.memberFields Message.unifyingTag m.whichDomainMsg
  phy :=
    { whichMsg := m.whichDomainMsg
      supportedFreq := (m.msg (.phy .supportedFreq)).frequencyRanges
      other := m.memberFields Message.phyTag }
  board := default

end FullMessage

section
variable {n : ℕ} (tag : ℕ)

/-- The bytes of a field that is left out. -/
theorem recordBytes_omitted {v : WireValue} (h : v.omitted = true) : (v.records tag).map recordBytes = some [] := by
  rw [WireValue.records, if_pos h]
  rfl

theorem recordBytes_payload (v : WireValue) (p : Payload) (h : ¬v.omitted = true) (hp : v.payload = some p) :
    (v.records tag).map recordBytes = some (Record.bytes ⟨tag,p⟩) := by
  rw [WireValue.records, if_neg h, hp, Option.map_some, Option.map_some, recordBytes_cons, recordBytes_nil, List.append_nil]

/-! Both ways to write a field come to the same. -/

theorem records_uint32 (v : UInt32) : ((value v).records tag).map recordBytes = some (uint32Field tag v) := by
  rw [uint32Field]
  split
  · rename_i hv
    exact recordBytes_omitted tag (decide_eq_true hv)
  · rename_i hv
    exact recordBytes_payload tag (.uint32 v) (.varint v.toNat) (mt of_decide_eq_true hv) rfl

theorem records_uint64 (v : UInt64) : ((value v).records tag).map recordBytes = some (uint64Field tag v) := by
  rw [uint64Field]
  split
  · rename_i hv
    exact recordBytes_omitted tag (decide_eq_true hv)
  · rename_i hv
    exact recordBytes_payload tag (.uint64 v) (.varint v.toNat) (mt of_decide_eq_true hv) rfl

theorem toNat_uint32OfInt (raw : ℤ) : (UInt32.ofInt raw).toNat = (raw % 2^32).toNat := by
  have hlt : (raw % 2^32).toNat < 2^32 := by omega
  exact UInt32.toNat_ofNat_of_lt' hlt

/-- The object of an enumeration is written as the number of 32 bits that it is. -/
theorem records_enum {E : Type} (x : EnumField E) :
    ((value x).records tag).map recordBytes = some (uint32Field tag (UInt32.ofInt x.raw)) := by
  have hnat := toNat_uint32OfInt x.raw
  have hzero : UInt32.ofInt x.raw = 0 ↔ x.raw % 2^32 = 0 := by
    rw [← UInt32.toNat_inj, hnat, UInt32.toNat_zero]
    omega
  rw [uint32Field]
  split
  · rename_i hv
    exact recordBytes_omitted tag (decide_eq_true (hzero.mp hv))
  · rename_i hv
    rw [hnat]
    exact recordBytes_payload tag (.enum x.raw) (.varint _) (mt of_decide_eq_true (mt hzero.mpr hv)) rfl

theorem records_bytes (x : BytesArray n) : ((value x).records tag).map recordBytes = bytesField tag x := by
  rw [bytesField]
  split
  · rename_i hsize
    have hnone : value x = .bytes none := congrArg WireValue.bytes (if_pos hsize)
    rw [hnone]
    rfl
  · rename_i hsize
    have hcontent : x.content = some (x.bytes.toList.take x.size) := if_neg hsize
    have hlen : (x.bytes.toList.take x.size).length = x.size := List.length_take_of_le (by simpa using hsize)
    split
    · rename_i hzero
      refine recordBytes_omitted tag (decide_eq_true ?_)
      rw [hcontent, hzero, List.take_zero]
    · rename_i hzero
      have hne : ¬x.content = some [] := by
        rw [hcontent, Option.some.injEq, ← List.length_eq_zero_iff, hlen]
        exact hzero
      have hpayload : (WireValue.bytes x.content).payload = some (.len (x.bytes.toList.take x.size)) := by
        rw [WireValue.payload, hcontent]
        rfl
      refine (recordBytes_payload tag (.bytes x.content) _ (mt of_decide_eq_true hne) hpayload).trans ?_
      rw [Record.bytes, Payload.bytes, hlen, List.append_assoc]
      rfl

theorem records_fixed (x : Vector UInt8 n) :
    ((value x).records tag).map recordBytes = some (fixedBytesField tag x) := by
  have hbytes := recordBytes_payload tag (.fixed x.toList) (.len x.toList) nofun rfl
  refine hbytes.trans ?_
  rw [Record.bytes, Payload.bytes, fixedBytesField, Vector.length_toList, List.append_assoc]
  rfl

end

namespace FullMessage
variable (m : FullMessage)

theorem memberFields_of_kind (k : Kind) : m.memberFields k.domainTag k.tag = (k.member (m.msg k)).fields := by
  rw [memberFields, Kind.select_tag]

theorem memberFields_of_none {domain tag : ℕ} (h : ∀ k : Kind, domain = k.domainTag → tag ≠ k.tag) :
    m.memberFields domain tag = .nil := by
  have hnone : Kind.select domain tag = none := by
    rw [Option.eq_none_iff_forall_ne_some]
    intro k hk
    obtain ⟨hdomain,htag⟩ := Kind.select_eq_some_iff.mp hk
    exact h k hdomain htag
  rw [memberFields, hnone]

/-- A submessage with one field. -/
theorem submessage_congr {field : PbField} {a b : Option (List UInt8)} {rest : Fields CallbackField} (h : a = b) :
    Fields.submessage field (.static a rest) .nil = .submessage field (.static b rest) .nil := by rw [h]

theorem generic_fields : m.toMessage.generic.fields = m.memberFields Message.genericTag m.whichDomainMsg := by
  have hkind (k : GenericKind) (h : m.whichDomainMsg = k.tag) :
      m.memberFields Message.genericTag m.whichDomainMsg = ((Kind.generic k).member (m.msg (.generic k))).fields := by
    rw [h]
    exact m.memberFields_of_kind (.generic k)
  rw [GenericMessage.fields]
  split
  · rename_i htag
    let x : EnumField ResultCode := m.msg (.generic .result)
    have hbytes := recordBytes_payload 1 (.present (.enum x.raw)) (.varint _) nofun rfl
    rw [hkind .result htag, toMessage, toNat_uint32OfInt]
    exact congrArg (fun b => Fields.static b .nil) hbytes.symm
  · rename_i htag
    rw [hkind .cmdResult htag]
    exact submessage_congr (records_enum 1 _).symm
  · rename_i htag
    rw [hkind .progress htag]
    exact submessage_congr (records_uint32 1 _).symm
  · rename_i htag
    rw [hkind .debug htag]
    exact submessage_congr (records_uint32 1 _).symm
  · rename_i htag
    rw [hkind .verbose htag]
    rfl
  · rename_i h1 h2 h3 h4 h5
    refine (m.memberFields_of_none fun k hdomain htag => ?_).symm
    cases k with
    | generic k => cases k <;> first | exact h1 htag | exact h2 htag | exact h3 htag | exact h4 htag | exact h5 htag
    | _ => nomatch hdomain

theorem discovery_fields : m.toMessage.discovery.fields = m.memberFields Message.discoveryTag m.whichDomainMsg := by
  have hkind (k : DiscoveryKind) (h : m.whichDomainMsg = k.tag) :
      m.memberFields Message.discoveryTag m.whichDomainMsg =
        ((Kind.discovery k).member (m.msg (.discovery k))).fields := by
    rw [h]
    exact m.memberFields_of_kind (.discovery k)
  rw [DiscoveryMessage.fields]
  split
  · rename_i htag
    rw [hkind .resetQuery htag]
    rfl
  · rename_i htag
    rw [hkind .readyResp htag]
    rfl
  · rename_i htag
    rw [hkind .infoQuery htag]
    exact submessage_congr (records_uint32 1 _).symm
  · rename_i htag
    let p : DeviceInfoResp := m.msg (.discovery .infoResp)
    have hfields : p.fields = p.wire.fields := by
      rw [DeviceInfoResp.fields, ← records_uint32, ← records_uint32, ← records_uint32, ← records_uint32, ← records_uint32,
        ← records_uint32, ← records_fixed, ← records_bytes, ← records_bytes]
      rfl
    rw [hkind .infoResp htag]
    exact congrArg (fun body => Fields.submessage ⟨4,.len⟩ body .nil) hfields
  · rename_i htag
    rw [hkind .domainQuery htag]
    exact submessage_congr (records_uint32 1 _).symm
  · rename_i htag
    rw [hkind .domainResp htag, ← records_uint32, ← records_uint64]
    rfl
  · rename_i htag
    rw [hkind .setSpeed htag]
    exact submessage_congr (records_uint32 1 _).symm
  · rename_i h1 h2 h3 h4 h5 h6 h7
    refine (m.memberFields_of_none fun k hdomain htag => ?_).symm
    cases k with
    | discovery k =>
      cases k <;>
        first | exact h1 htag | exact h2 htag | exact h3 htag | exact h4 htag | exact h5 htag | exact h6 htag | exact h7 htag
    | _ => nomatch hdomain

theorem phy_fields : m.toMessage.phy.fields = m.memberFields Message.phyTag m.whichDomainMsg := by
  rw [PhyMessage.fields]
  split
  · rename_i htag
    have hkind : m.memberFields Message.phyTag m.whichDomainMsg =
        ((Kind.phy .supportedFreq).member (m.msg (.phy .supportedFreq))).fields := by
      have htag : m.whichDomainMsg = Phy.PhyKind.supportedFreq.tag := htag
      rw [htag]
      exact m.memberFields_of_kind (.phy .supportedFreq)
    rw [hkind]
    rfl
  · rfl

/-- Both models of a message have the same fields. -/
theorem toMessage_fields {boardFields : BoardMessage → Fields CallbackField} (h : m.whichMsg ≠ Message.boardTag) :
    m.toMessage.fields boardFields = m.tree.fields := by
  have hdomain (tag : ℕ) (htag : m.whichMsg = tag) (hmem : tag ∈ domainDescriptors.map Prod.fst) :
      m.tree.fields = .submessage ⟨tag,.len⟩ (m.memberFields tag m.whichDomainMsg) .nil := by
    rw [tree, htag, if_pos hmem, Wire.fields, domainMessage, memberFields, kind, htag]
    cases Kind.select tag m.whichDomainMsg <;> rfl
  rw [Message.fields]
  split
  · rename_i htag
    rw [hdomain 1 htag (by decide), m.generic_fields]
    rfl
  · rename_i htag
    rw [hdomain 2 htag (by decide), m.discovery_fields]
    rfl
  · rename_i htag
    rw [hdomain 3 htag (by decide)]
    rfl
  · rename_i htag
    rw [hdomain 4 htag (by decide)]
    rfl
  · rename_i htag
    rw [hdomain 5 htag (by decide)]
    rfl
  · rename_i htag
    rw [hdomain 6 htag (by decide)]
    rfl
  · rename_i htag
    rw [hdomain 7 htag (by decide), m.phy_fields]
    rfl
  · rename_i htag
    exact absurd htag h
  · rename_i h1 h2 h3 h4 h5 h6 h7 h8
    have hnot : m.whichMsg ∉ domainDescriptors.map Prod.fst := by
      intro hmem
      have htags : m.whichMsg ∈ [1,2,3,4,5,6,7] := hmem
      simp only [List.mem_cons, List.not_mem_nil, or_false] at htags
      rcases htags with h | h | h | h | h | h | h
      exacts [h1 h,h2 h,h3 h,h4 h,h5 h,h6 h,h7 h]
    rw [tree, if_neg hnot]
    rfl

theorem toMessage_encoding {boardFields : BoardMessage → Fields CallbackField} (h : m.whichMsg ≠ Message.boardTag)
    (hown : m.tree.OwnCallbacks) (heap : Heap) :
    m.toMessage.encoding boardFields heap = (m.tree.records heap).map recordBytes := by
  rw [Message.encoding, m.toMessage_fields h, Wire.fields_encoding hown]

/-- The records of a message are read back from their bytes. -/
theorem readMessageBytes_records {heap : Heap} {rs : List Record} (hrs : m.tree.records heap = some rs)
    (hlen : (recordBytes rs).length < 2^64) : readMessageBytes (recordBytes rs) = some m.tree.received := by
  rw [readMessageBytes, readRecords_bytes (m.describes.records_fit messageDescriptor_wellFormed hrs hlen),
    Option.bind_some]
  exact m.describes.read_records messageDescriptor_wellFormed hrs hlen

end FullMessage

/-- The protocol loses nothing: every message that can be encoded is read back, under the descriptors of the
protocol, as the tags of its domain and its member and all fields that its structure shows. -/
theorem readMessageBytes_encoding (boardFields : BoardMessage → Fields CallbackField) (heap : Heap) (m : FullMessage)
    (h : m.whichMsg ≠ Message.boardTag) (hown : m.tree.OwnCallbacks) {bytes : List UInt8}
    (hbytes : m.toMessage.encoding boardFields heap = some bytes) (hlen : bytes.length < 2^64) :
    readMessageBytes bytes = some m.tree.received := by
  rw [m.toMessage_encoding h hown] at hbytes
  obtain ⟨rs,hrs,rfl⟩ := Option.map_eq_some_iff.mp hbytes
  exact m.readMessageBytes_records hrs hlen

/-- A command to sniff advertisements on channel 37. -/
theorem readMessageBytes_encoding_sniffAdv :
    let m := (default : FullMessage).put (.ble .sniffAdv) ⟨true,37,Vector.replicate 6 0xFF⟩
    readMessageBytes [0x1A,14,0x12,12,8,1,0x10,37,0x1A,6,255,255,255,255,255,255] = some m.tree.received := by
  intro m
  exact readMessageBytes_encoding (fun _ => .nil) ⟨fun _ => ⟨[],false,0⟩,fun _ => []⟩ m (by decide)
    ⟨⟨trivial,trivial⟩,trivial⟩ (by decide +kernel) (by decide)

end WhadLib
