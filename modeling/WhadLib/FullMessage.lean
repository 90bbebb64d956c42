import Mathlib.Logic.Function.Basic
import WhadLib.Ble.Structs
import WhadLib.Device.Structs
import WhadLib.Dot15d4.Structs
import WhadLib.Phy.Structs
import WhadLib.Unifying.Structs

/-! A `Message` with the members of every domain but board in full, and what the builders are made of.
A union is what it reads as through each of its members. A write goes to one member and leaves the
others alone here, where in memory it goes over them too: no result is about what the others hold
afterwards. Where the library writes one member and means another, the builder says so. -/
namespace WhadLib
open Library

/-- The messages, by domain and member of the union of the domain. -/
inductive Kind
  | generic (k : GenericKind)
  | discovery (k : DiscoveryKind)
  | ble (k : Ble.BleKind)
  | dot15d4 (k : Dot15d4.Dot15d4Kind)
  | esb (k : Esb.EsbKind)
  | unifying (k : Unifying.UnifyingKind)
  | phy (k : Phy.PhyKind)
  deriving DecidableEq, Repr

namespace Kind

abbrev Struct : Kind → Type
  | .generic k => k.Struct
  | .discovery k => k.Struct
  | .ble k => k.Struct
  | .dot15d4 k => k.Struct
  | .esb k => k.Struct
  | .unifying k => k.Struct
  | .phy k => k.Struct

instance (k : Kind) : Inhabited k.Struct := by
  cases k <;> exact inferInstance

/-- The tag of the domain in `Message`. -/
def domainTag : Kind → ℕ
  | .generic _ => Message.genericTag
  | .discovery _ => Message.discoveryTag
  | .ble _ => Message.bleTag
  | .dot15d4 _ => Message.dot15d4Tag
  | .esb _ => Message.esbTag
  | .unifying _ => Message.unifyingTag
  | .phy _ => Message.phyTag

/-- The tag of the member in the message of its domain. -/
def tag : Kind → ℕ
  | .generic k => k.tag
  | .discovery k => k.tag
  | .ble k => k.tag
  | .dot15d4 k => k.tag
  | .esb k => k.tag
  | .unifying k => k.tag
  | .phy k => k.tag

/-- The fields of a structure. -/
def wire : (k : Kind) → k.Struct → Wire
  | .generic k, p => k.wire p
  | .discovery k, p => k.wire p
  | .ble k, p => k.wire p
  | .dot15d4 k, p => k.wire p
  | .esb k, p => k.wire p
  | .unifying k, p => k.wire p
  | .phy k, p => k.wire p

def all : List Kind :=
  GenericKind.all.map .generic ++ DiscoveryKind.all.map .discovery ++ Ble.BleKind.all.map .ble ++
    Dot15d4.Dot15d4Kind.all.map .dot15d4 ++ Esb.EsbKind.all.map .esb ++
    Unifying.UnifyingKind.all.map .unifying ++ Phy.PhyKind.all.map .phy

/-- The two tags select the member the encoder looks at; unknown ones select none. -/
def select (domainTag tag : ℕ) : Option Kind :=
  all.find? fun k => k.domainTag == domainTag && k.tag == tag

theorem select_tag (k : Kind) : select k.domainTag k.tag = some k := by
  cases k with
  | generic k => cases k <;> rfl
  | discovery k => cases k <;> rfl
  | ble k => cases k <;> rfl
  | dot15d4 k => cases k <;> rfl
  | esb k => cases k <;> rfl
  | unifying k => cases k <;> rfl
  | phy k => cases k <;> rfl

end Kind

/-- `Message`. The tag of the member, `which_msg` of the message of the domain, is the first member
of that message in every domain here, so that it reads alike through all of them. -/
structure FullMessage where
  whichMsg : ℕ
  whichDomainMsg : ℕ
  msg : (k : Kind) → k.Struct
  deriving Inhabited

namespace FullMessage

/-- The member the encoder looks at. -/
def kind (m : FullMessage) : Option Kind := Kind.select m.whichMsg m.whichDomainMsg

/-- The visible fields of that member. -/
def wire (m : FullMessage) : Wire :=
  match m.kind with
  | some k => k.wire (m.msg k)
  | none => .nil

/-- Both tags are those of a kind. -/
structure Holds (m : FullMessage) (k : Kind) : Prop where
  domain : m.whichMsg = k.domainTag
  tag : m.whichDomainMsg = k.tag

instance (m : FullMessage) (k : Kind) : Decidable (m.Holds k) :=
  decidable_of_iff (m.whichMsg = k.domainTag ∧ m.whichDomainMsg = k.tag)
    ⟨fun h => ⟨h.1,h.2⟩,fun h => ⟨h.domain,h.tag⟩⟩

/-- Two messages mean the same on the wire: the same tags and the same visible fields. -/
structure SameWire (m m' : FullMessage) : Prop where
  domain : m.whichMsg = m'.whichMsg
  tag : m.whichDomainMsg = m'.whichDomainMsg
  fields : m.wire = m'.wire

/-- Both tags are set, and the member is overwritten. -/
def put (m : FullMessage) (k : Kind) (p : k.Struct) : FullMessage where
  whichMsg := k.domainTag
  whichDomainMsg := k.tag
  msg := Function.update m.msg k p

end FullMessage

/-- What a call of a builder leaves behind: its result and the message. There is nothing when it
copies outside of an array or reads through a `NULL` pointer. -/
abbrev Outcome := Option (WhadResult × Option FullMessage)

/-! The body of a builder comes with its result and what it makes of its member. -/

def done {α : Type} (p : α) : Option (WhadResult × α) := some (.success, p)

def failed {α : Type} (p : α) : Option (WhadResult × α) := some (.error, p)

/-- The call is refused before anything is written. -/
def refuse (message : Option FullMessage) : Outcome := some (.error, message)

namespace FullMessage

/-- Set both tags and run a body on the member. -/
def build (m : FullMessage) (k : Kind) (body : k.Struct → Option (WhadResult × k.Struct)) : Outcome :=
  (body (m.msg k)).map fun written => (written.1, some (m.put k written.2))

/-- A body that only assigns. -/
def assign (m : FullMessage) (k : Kind) (update : k.Struct → k.Struct) : Outcome :=
  m.build k fun p => done (update p)

end FullMessage

/-- The check that most builders start with. -/
abbrev checked (message : Option FullMessage) (body : FullMessage → Outcome) : Outcome :=
  match message with
  | some m => body m
  | none => refuse message

namespace FullMessage
variable {m m' : FullMessage} {k : Kind}

theorem Holds.kind (h : m.Holds k) : m.kind = some k := by
  rw [FullMessage.kind, h.domain, h.tag, Kind.select_tag]

theorem Holds.wire (h : m.Holds k) : m.wire = k.wire (m.msg k) := by
  rw [FullMessage.wire, h.kind]

theorem put_holds (m : FullMessage) (k : Kind) (p : k.Struct) : (m.put k p).Holds k := ⟨rfl,rfl⟩

@[simp] theorem put_msg_self (m : FullMessage) (k : Kind) (p : k.Struct) : (m.put k p).msg k = p :=
  Function.update_self _ _ _

@[simp] theorem put_wire (m : FullMessage) (k : Kind) (p : k.Struct) : (m.put k p).wire = k.wire p := by
  rw [(m.put_holds k p).wire, put_msg_self]

/-- Two messages with the same member overwritten mean the same when the members do. -/
theorem sameWire_put_iff {p q : k.Struct} : SameWire (m.put k p) (m'.put k q) ↔ k.wire p = k.wire q := by
  constructor
  · intro h
    simpa using h.fields
  · intro h
    exact ⟨rfl,rfl,by simpa using h⟩

/-- A member overwritten by what it holds leaves a message of that kind alone. -/
theorem put_eq_self_iff {p : k.Struct} : m.put k p = m ↔ m.Holds k ∧ p = m.msg k := by
  constructor
  · intro h
    refine ⟨⟨(congrArg whichMsg h).symm,(congrArg whichDomainMsg h).symm⟩,?_⟩
    have hmsg := congrFun (congrArg msg h) k
    exact (put_msg_self m k p).symm.trans hmsg
  · rintro ⟨h,rfl⟩
    obtain ⟨whichMsg,whichDomainMsg,msg⟩ := m
    simp only [put, mk.injEq, Function.update_eq_self, and_true]
    exact ⟨h.domain.symm,h.tag.symm⟩

end FullMessage
end WhadLib
