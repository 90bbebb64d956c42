import WhadLib.Message
import WhadLib.Library.StepSystem
import Mathlib.Logic.Function.Basic

/-! The wrapper objects of the C++ interface and who releases a message. A wrapper holds a pointer to
a message and a flag that says whether its destructor releases it; the implicit copy constructor
copies both. By-value parameters are such copies and are destroyed when the call ends.

The content of messages is a parameter: only what `pack` does to it matters here. -/
namespace WhadLib.Cpp
open Library

/-- A `Message *`: a message of the application, or the n-th one allocated by a wrapper. Numbers are
not reused, so that a pointer to a released message stays distinct from later ones. -/
inductive Pointer
  | application (n : ℕ)
  | allocated (n : ℕ)
  deriving DecidableEq

/-- `NanoPbMsg` and the classes derived from it: the two members, and what the virtual `pack()` of the
object's class writes, given the parameters of the object. `none` is `NULL`. -/
structure NanoPbMsg (M : Type*) where
  message : Option Pointer
  ownsMessage : Bool
  pack : M → M

namespace NanoPbMsg
variable {M : Type*}

/-- Copying into the base class keeps the members and loses the class: `NanoPbMsg::pack` is empty. -/
def sliced (o : NanoPbMsg M) : NanoPbMsg M := { o with pack := id }

/-- The destructor of this object releases a message. -/
def Owns (o : NanoPbMsg M) : Prop := o.ownsMessage = true ∧ ∃ n, o.message = some (.allocated n)

end NanoPbMsg

/-- The objects of a program, the contents of the messages, and what happened to each message
allocated by a wrapper. `early` says that one was released while a live object referred to it;
`sent` pairs what was transmitted with what `getRaw()` of the object given to `send` packs. -/
structure World (M : Type*) where
  objects : List (Option (NanoPbMsg M))
  contents : Pointer → M
  allocated : ℕ
  released : ℕ → ℕ
  disowned : ℕ → Bool
  early : Bool
  sent : List (M × M)

/-- What a program does with its objects; objects are numbered in the order of their construction.
The argument `pack` describes the class and the parameters of a new object. -/
inductive WrapperOp (M : Type*)
  /-- The default constructor, with or without memory left; a derived class may fill the message. -/
  | construct (memory : Bool) (fill pack : M → M)
  /-- `NanoPbMsg(Message *)`. -/
  | borrow (message : Option Pointer) (pack : M → M)
  /-- The implicit copy constructor: of the same class, into the base, or of the base part of a
  derived wrapper. -/
  | copy (w : ℕ) (pack : M → M)
  /-- `BleMsg(NanoPbMsg)` and its siblings with a by-value parameter. -/
  | convert (w : ℕ) (pack : M → M)
  /-- `EsbMsg(NanoPbMsg &)` and its siblings with a reference parameter. -/
  | convertRef (w : ℕ) (pack : M → M)
  | disown (w : ℕ)
  | destroy (w : ℕ)
  /-- `whad::send(NanoPbMsg)`. -/
  | send (w : ℕ)

namespace World
variable {M : Type*} (s : World M)

/-- The object with a number, when it is alive. -/
def get (w : ℕ) : Option (NanoPbMsg M) := s.objects[w]?.join

def live : List (NanoPbMsg M) := s.objects.filterMap id

def add (o : NanoPbMsg M) : World M := { s with objects := s.objects ++ [some o] }

def put (w : ℕ) (o : Option (NanoPbMsg M)) : World M := { s with objects := s.objects.set w o }

/-- `~NanoPbMsg`, of an object that is not counted among the live ones. -/
def dispose (o : NanoPbMsg M) : World M :=
  match o.ownsMessage, o.message with
  | true, some (.allocated n) =>
    { s with
      released := Function.update s.released n (s.released n + 1)
      early := s.early || s.live.any fun o' => o'.message == some (.allocated n) }
  | _, _ => s

/-- `getRaw`: the object packs its message. -/
def getRaw (o : NanoPbMsg M) : World M :=
  match o.message with
  | some p => { s with contents := Function.update s.contents p (o.pack (s.contents p)) }
  | none => s

/-- What `send` hands to `whad_send_message`: the copy packs. Beside it, what the object packs. -/
def transmitted (o : NanoPbMsg M) : List (M × M) :=
  match o.message with
  | some p => [((s.getRaw o.sliced).contents p,(s.getRaw o).contents p)]
  | none => []

/-- Only pointers to something are passed around. -/
def Known : Option Pointer → Prop
  | some (.allocated n) => n < s.allocated
  | _ => True

instance (p : Option Pointer) : Decidable (s.Known p) :=
  match p with
  | some (.allocated n) => inferInstanceAs (Decidable (n < s.allocated))
  | some (.application _) => isTrue trivial
  | none => isTrue trivial

/-- One operation; operations on objects that are not alive are not carried out. -/
def step [Inhabited M] (s : World M) : WrapperOp M → World M
  | .construct memory fill pack =>
    if memory then
      ({ s with
        allocated := s.allocated + 1
        contents := Function.update s.contents (.allocated s.allocated) (fill default) }).add
          ⟨some (.allocated s.allocated),true,pack⟩
    else s.add ⟨none,true,pack⟩
  | .borrow message pack => if s.Known message then s.add ⟨message,false,pack⟩ else s
  | .copy w pack =>
    match s.get w with
    | some o => s.add { o with pack := pack }
    | none => s
  | .convert w pack =>
    match s.get w with
    | some o => ((s.getRaw o.sliced).add ⟨o.message,false,pack⟩).dispose o.sliced
    | none => s
  | .convertRef w pack =>
    match s.get w with
    | some o => (s.getRaw o).add ⟨o.message,false,pack⟩
    | none => s
  | .disown w =>
    match s.get w with
    | some o =>
      { s.put w (some { o with ownsMessage := false }) with
        disowned := fun n => s.disowned n || (o.ownsMessage && o.message == some (.allocated n)) }
    | none => s
  | .destroy w =>
    match s.get w with
    | some o => (s.put w none).dispose o
    | none => s
  | .send w =>
    match s.get w with
    | some o => ({ s.getRaw o.sliced with sent := s.sent ++ s.transmitted o }).dispose o.sliced
    | none => s

/-- A program before its first object. -/
def start (contents : Pointer → M) : World M := ⟨[],contents,0,fun _ => 0,fun _ => false,false,[]⟩

/-- Ownership as intended: every allocated message is released at most once, once when it was not
disowned and no object is left that refers to it, and never while one does; and what was sent
is what the object packs. -/
structure Sound (s : World M) : Prop where
  once : ∀ n, s.released n ≤ 1
  exactly : ∀ n < s.allocated, s.disowned n = false →
    (∀ o ∈ s.live, o.message ≠ some (.allocated n)) → s.released n = 1
  notEarly : s.early = false
  sent : ∀ x ∈ s.sent, x.1 = x.2

/-- The operation destroys no owner while another object refers to its message: an owner is
destroyed as the last one, and none is passed by value, because the parameter is a second
owner that dies first. What is sent has been packed. -/
def Ok (s : World M) : WrapperOp M → Prop
  | .convert w _ => ∀ o ∈ s.get w, ¬o.Owns
  | .destroy w => ∀ o ∈ s.get w, o.Owns → ∀ o' ∈ (s.put w none).live, o'.message ≠ o.message
  | .send w => ∀ o ∈ s.get w, ¬o.Owns ∧ ∀ p ∈ o.message, o.pack (s.contents p) = s.contents p
  | _ => True

/-! Objects that come and go. -/

theorem mem_live (o : NanoPbMsg M) : o ∈ s.live ↔ ∃ w, s.get w = some o := by
  simp only [live, get, List.mem_filterMap, id_eq, exists_eq_right, Option.join_eq_some_iff]
  exact List.mem_iff_getElem?

@[simp] theorem mem_live_add (o o' : NanoPbMsg M) : o' ∈ (s.add o).live ↔ o' ∈ s.live ∨ o' = o := by
  simp [live, add]

theorem lt_of_get {w : ℕ} {o : NanoPbMsg M} (h : s.get w = some o) : w < s.objects.length := by
  by_contra hlen
  rw [get, List.getElem?_eq_none (by omega)] at h
  contradiction

theorem get_put (w j : ℕ) (x : Option (NanoPbMsg M)) (hw : w < s.objects.length) :
    (s.put w x).get j = if j = w then x else s.get j := by
  by_cases hj : j = w
  · subst hj
    simp [get, put, hw]
  · rw [if_neg hj]
    simp [get, put, List.getElem?_set_ne (fun h => hj h.symm)]

/-- Without the object `w`, those under the other numbers are left. -/
theorem mem_live_put_none {w : ℕ} {o o' : NanoPbMsg M} (hw : s.get w = some o) :
    o' ∈ (s.put w none).live ↔ ∃ j, j ≠ w ∧ s.get j = some o' := by
  rw [mem_live]
  constructor
  · rintro ⟨j,hj⟩
    rw [get_put s w j none (s.lt_of_get hw)] at hj
    by_cases hjw : j = w
    · simp [hjw] at hj
    · exact ⟨j,hjw,by simpa [hjw] using hj⟩
  · rintro ⟨j,hjw,hj⟩
    exact ⟨j,by rw [get_put s w j none (s.lt_of_get hw), if_neg hjw, hj]⟩

theorem mem_live_put_some {w : ℕ} {o o' x : NanoPbMsg M} (hw : s.get w = some o) :
    o' ∈ (s.put w (some x)).live ↔ o' = x ∨ ∃ j, j ≠ w ∧ s.get j = some o' := by
  rw [mem_live]
  constructor
  · rintro ⟨j,hj⟩
    rw [get_put s w j _ (s.lt_of_get hw)] at hj
    by_cases hjw : j = w
    · exact .inl (by simpa [hjw] using hj.symm)
    · exact .inr ⟨j,hjw,by simpa [hjw] using hj⟩
  · rintro (rfl | ⟨j,hjw,hj⟩)
    · exact ⟨w,by rw [get_put s w w _ (s.lt_of_get hw), if_pos rfl]⟩
    · exact ⟨j,by rw [get_put s w j _ (s.lt_of_get hw), if_neg hjw, hj]⟩

/-! What the destructor does. -/

theorem dispose_of_not_owns {o : NanoPbMsg M} (h : ¬o.Owns) : s.dispose o = s := by
  obtain ⟨message,owns,pack⟩ := o
  rcases message with _ | ⟨n⟩ | ⟨n⟩ <;> cases owns <;> simp_all [dispose, NanoPbMsg.Owns]

theorem dispose_of_owns {o : NanoPbMsg M} {n : ℕ} (howns : o.ownsMessage = true)
    (hmessage : o.message = some (.allocated n)) :
    s.dispose o = { s with
      released := Function.update s.released n (s.released n + 1)
      early := s.early || s.live.any fun o' => o'.message == some (.allocated n) } := by
  simp [dispose, howns, hmessage]

/-- The destructor of an owner comes too early exactly when somebody else refers to its message. -/
theorem dispose_early {o : NanoPbMsg M} (h : o.Owns) :
    (s.dispose o).early = false ↔ s.early = false ∧ ∀ o' ∈ s.live, o'.message ≠ o.message := by
  obtain ⟨howns,n,hmessage⟩ := h
  rw [s.dispose_of_owns howns hmessage, hmessage]
  simp

theorem getRaw_eq (o : NanoPbMsg M) : ∃ contents, s.getRaw o = { s with contents := contents } := by
  unfold getRaw
  split
  · exact ⟨_,rfl⟩
  · exact ⟨s.contents,rfl⟩

/-- The slice sends what the object packs exactly when the object's message is already packed. -/
theorem transmitted_eq_iff (o : NanoPbMsg M) :
    (∀ x ∈ s.transmitted o, x.1 = x.2) ↔ ∀ p ∈ o.message, o.pack (s.contents p) = s.contents p := by
  cases hmessage : o.message with
  | none => simp [transmitted, hmessage]
  | some p =>
    have hsliced : (s.getRaw o.sliced).contents p = s.contents p := by
      simp [getRaw, NanoPbMsg.sliced, hmessage]
    have hpacked : (s.getRaw o).contents p = o.pack (s.contents p) := by simp [getRaw, hmessage]
    simp [transmitted, hmessage, hsliced, hpacked, eq_comm]

/-- The invariant of runs: the owners of a message that is not released are alive, and a message
without owner was released or disowned. -/
structure Inv (s : World M) : Prop where
  owner : ∀ o ∈ s.live, ∀ n, o.ownsMessage = true → o.message = some (.allocated n) → s.released n = 0
  known : ∀ o ∈ s.live, ∀ n, o.message = some (.allocated n) → n < s.allocated
  fresh : ∀ n, s.allocated ≤ n → s.released n = 0 ∧ s.disowned n = false
  once : ∀ n, s.released n ≤ 1
  kept : ∀ n < s.allocated, s.disowned n = false → s.released n = 0 →
    ∃ o ∈ s.live, o.ownsMessage = true ∧ o.message = some (.allocated n)
  notEarly : s.early = false
  sent : ∀ x ∈ s.sent, x.1 = x.2

namespace Inv
variable {s : World M}

theorem sound (h : s.Inv) : s.Sound where
  once := h.once
  exactly := by
    intro n hn hdisowned hnobody
    have hone := h.once n
    by_contra hne
    obtain ⟨o,ho,_,hmessage⟩ := h.kept n hn hdisowned (by omega)
    exact hnobody o ho hmessage
  notEarly := h.notEarly
  sent := h.sent

theorem start (contents : Pointer → M) : (World.start contents).Inv := by
  constructor <;> simp [World.start, World.live]

theorem contents (h : s.Inv) (contents : Pointer → M) : Inv { s with contents := contents } :=
  ⟨h.owner,h.known,h.fresh,h.once,h.kept,h.notEarly,h.sent⟩

/-- One more object that refers to a known message, and owns it only if it is not released. -/
theorem add (h : s.Inv) {o : NanoPbMsg M}
    (howner : ∀ n, o.ownsMessage = true → o.message = some (.allocated n) → s.released n = 0)
    (hknown : ∀ n, o.message = some (.allocated n) → n < s.allocated) : (s.add o).Inv where
  owner := by
    intro o' ho' n howns hmessage
    rcases (s.mem_live_add o o').mp ho' with hold | rfl
    · exact h.owner o' hold n howns hmessage
    · exact howner n howns hmessage
  known := by
    intro o' ho' n hmessage
    rcases (s.mem_live_add o o').mp ho' with hold | rfl
    · exact h.known o' hold n hmessage
    · exact hknown n hmessage
  fresh := h.fresh
  once := h.once
  kept := by
    intro n hn hdisowned hreleased
    obtain ⟨o',ho',hrest⟩ := h.kept n hn hdisowned hreleased
    exact ⟨o',(s.mem_live_add o o').mpr (.inl ho'),hrest⟩
  notEarly := h.notEarly
  sent := h.sent

theorem construct (h : s.Inv) (content : M) (pack : M → M) :
    Inv (World.add { s with
      allocated := s.allocated + 1
      contents := Function.update s.contents (.allocated s.allocated) content }
        ⟨some (.allocated s.allocated),true,pack⟩) where
  owner := by
    intro o ho n howns hmessage
    rcases (mem_live_add _ _ o).mp ho with hold | rfl
    · exact h.owner o hold n howns hmessage
    · obtain rfl : s.allocated = n := by simpa using hmessage
      exact (h.fresh _ le_rfl).1
  known := by
    intro o ho n hmessage
    rcases (mem_live_add _ _ o).mp ho with hold | rfl
    · exact Nat.lt_succ_of_lt (h.known o hold n hmessage)
    · obtain rfl : s.allocated = n := by simpa using hmessage
      exact Nat.lt_succ_self _
  fresh := fun n hn => h.fresh n (Nat.le_of_succ_le hn)
  once := h.once
  kept := by
    intro n hn hdisowned hreleased
    rcases Nat.lt_succ_iff_lt_or_eq.mp hn with hlt | rfl
    · obtain ⟨o,ho,hrest⟩ := h.kept n hlt hdisowned hreleased
      exact ⟨o,(mem_live_add _ _ o).mpr (.inl ho),hrest⟩
    · exact ⟨_,(mem_live_add _ _ _).mpr (.inr rfl),rfl,rfl⟩
  notEarly := h.notEarly
  sent := h.sent

/-- The destructor of the last object that refers to its message. -/
theorem destroy (h : s.Inv) {w : ℕ} {o : NanoPbMsg M} (hw : s.get w = some o)
    (hlast : o.Owns → ∀ o' ∈ (s.put w none).live, o'.message ≠ o.message) :
    ((s.put w none).dispose o).Inv := by
  have hlive (o' : NanoPbMsg M) (ho' : o' ∈ (s.put w none).live) : o' ∈ s.live := by
    obtain ⟨j,_,hj⟩ := (s.mem_live_put_none hw).mp ho'
    exact (s.mem_live o').mpr ⟨j,hj⟩
  have ho : o ∈ s.live := (s.mem_live o).mpr ⟨w,hw⟩
  by_cases howns : o.Owns
  · obtain ⟨hflag,n,hmessage⟩ := id howns
    have hzero := h.owner o ho n hflag hmessage
    have hearly := ((s.put w none).dispose_early howns).mpr ⟨h.notEarly,hlast howns⟩
    rw [(s.put w none).dispose_of_owns hflag hmessage] at hearly ⊢
    refine ⟨?_,fun o' ho' => h.known o' (hlive o' ho'),?_,?_,?_,hearly,h.sent⟩
    · intro o' ho' k hflag' hmessage'
      have hne : k ≠ n := by
        rintro rfl
        exact hlast howns o' ho' (hmessage'.trans hmessage.symm)
      simp only [Function.update_of_ne hne]
      exact h.owner o' (hlive o' ho') k hflag' hmessage'
    · intro k hk
      have hne : k ≠ n := by
        rintro rfl
        exact absurd (h.known o ho k hmessage) (Nat.not_lt_of_le hk)
      simp only [Function.update_of_ne hne]
      exact h.fresh k hk
    · intro k
      by_cases hk : k = n
      · subst hk
        simp [World.put, hzero]
      · simp only [Function.update_of_ne hk]
        exact h.once k
    · intro k hk hdisowned hreleased
      by_cases hkn : k = n
      · subst hkn
        simp at hreleased
      · simp only [Function.update_of_ne hkn] at hreleased
        obtain ⟨o',ho',hflag',hmessage'⟩ := h.kept k hk hdisowned hreleased
        obtain ⟨j,hj⟩ := (s.mem_live o').mp ho'
        have hjw : j ≠ w := by
          rintro rfl
          rw [hw, Option.some.injEq] at hj
          subst hj
          rw [hmessage] at hmessage'
          exact hkn (by simpa using hmessage'.symm)
        exact ⟨o',(s.mem_live_put_none hw).mpr ⟨j,hjw,hj⟩,hflag',hmessage'⟩
  · rw [(s.put w none).dispose_of_not_owns howns]
    refine ⟨fun o' ho' => h.owner o' (hlive o' ho'),fun o' ho' => h.known o' (hlive o' ho'),h.fresh,h.once,?_,
      h.notEarly,h.sent⟩
    intro k hk hdisowned hreleased
    obtain ⟨o',ho',hflag',hmessage'⟩ := h.kept k hk hdisowned hreleased
    obtain ⟨j,hj⟩ := (s.mem_live o').mp ho'
    have hjw : j ≠ w := by
      rintro rfl
      rw [hw, Option.some.injEq] at hj
      subst hj
      exact howns ⟨hflag',k,hmessage'⟩
    exact ⟨o',(s.mem_live_put_none hw).mpr ⟨j,hjw,hj⟩,hflag',hmessage'⟩

theorem disown (h : s.Inv) {w : ℕ} {o : NanoPbMsg M} (hw : s.get w = some o) :
    Inv { s.put w (some { o with ownsMessage := false }) with
      disowned := fun n => s.disowned n || (o.ownsMessage && o.message == some (.allocated n)) } := by
  have ho : o ∈ s.live := (s.mem_live o).mpr ⟨w,hw⟩
  have hlive (o' : NanoPbMsg M) (ho' : o' ∈ (s.put w (some { o with ownsMessage := false })).live) :
      o' = { o with ownsMessage := false } ∨ o' ∈ s.live := by
    rcases (s.mem_live_put_some hw).mp ho' with rfl | ⟨j,_,hj⟩
    · exact .inl rfl
    · exact .inr ((s.mem_live o').mpr ⟨j,hj⟩)
  refine ⟨?_,?_,?_,h.once,?_,h.notEarly,h.sent⟩
  · intro o' ho' n hflag hmessage
    rcases hlive o' ho' with rfl | hold
    · contradiction
    · exact h.owner o' hold n hflag hmessage
  · intro o' ho' n hmessage
    rcases hlive o' ho' with rfl | hold
    · exact h.known o ho n hmessage
    · exact h.known o' hold n hmessage
  · intro n hn
    refine ⟨(h.fresh n hn).1,?_⟩
    have hne : o.message ≠ some (.allocated n) := fun hmessage =>
      absurd (h.known o ho n hmessage) (Nat.not_lt_of_le hn)
    simp [(h.fresh n hn).2, hne]
  · intro n hn hdisowned hreleased
    simp only [Bool.or_eq_false_iff] at hdisowned
    obtain ⟨o',ho',hflag',hmessage'⟩ := h.kept n hn hdisowned.1 hreleased
    obtain ⟨j,hj⟩ := (s.mem_live o').mp ho'
    have hjw : j ≠ w := by
      rintro rfl
      rw [hw, Option.some.injEq] at hj
      subst hj
      simp [hflag', hmessage'] at hdisowned
    exact ⟨o',(s.mem_live_put_some hw).mpr (.inr ⟨j,hjw,hj⟩),hflag',hmessage'⟩

/-- A copy that does not own, or a reference, refers to what its source refers to. -/
theorem addBorrowing (h : s.Inv) {o : NanoPbMsg M} (ho : o ∈ s.live) (pack : M → M) :
    (s.add ⟨o.message,false,pack⟩).Inv :=
  h.add (fun _ hflag _ => by contradiction) fun n hmessage => h.known o ho n hmessage

variable [Inhabited M]

theorem step (s : World M) (op : WrapperOp M) (h : s.Inv) (hok : s.Ok op) : (World.step s op).Inv := by
  cases op with
  | construct memory fill pack =>
    cases memory with
    | true => exact h.construct _ pack
    | false => exact h.add (fun _ _ hmessage => by contradiction) fun _ hmessage => by contradiction
  | borrow message pack =>
    simp only [World.step]
    split
    · rename_i hknown
      refine h.add (fun _ hflag _ => by contradiction) fun n hmessage => ?_
      simp only at hmessage
      rwa [hmessage] at hknown
    · exact h
  | copy w pack =>
    cases hw : s.get w with
    | none => simpa only [World.step, hw] using h
    | some o =>
      have ho : o ∈ s.live := (s.mem_live o).mpr ⟨w,hw⟩
      simp only [World.step, hw]
      exact h.add (fun n hflag hmessage => h.owner o ho n hflag hmessage) fun n hmessage => h.known o ho n hmessage
  | convert w pack =>
    cases hw : s.get w with
    | none => simpa only [World.step, hw] using h
    | some o =>
      have hnot : ¬o.sliced.Owns := hok o hw
      obtain ⟨contents,hraw⟩ := s.getRaw_eq o.sliced
      simp only [World.step, hw, hraw, dispose_of_not_owns _ hnot]
      exact (h.contents contents).addBorrowing ((s.mem_live o).mpr ⟨w,hw⟩) pack
  | convertRef w pack =>
    cases hw : s.get w with
    | none => simpa only [World.step, hw] using h
    | some o =>
      obtain ⟨contents,hraw⟩ := s.getRaw_eq o
      simp only [World.step, hw, hraw]
      exact (h.contents contents).addBorrowing ((s.mem_live o).mpr ⟨w,hw⟩) pack
  | disown w =>
    cases hw : s.get w with
    | none => simpa only [World.step, hw] using h
    | some o =>
      simp only [World.step, hw]
      exact h.disown hw
  | destroy w =>
    cases hw : s.get w with
    | none => simpa only [World.step, hw] using h
    | some o =>
      simp only [World.step, hw]
      exact h.destroy hw (hok o hw)
  | send w =>
    cases hw : s.get w with
    | none => simpa only [World.step, hw] using h
    | some o =>
      obtain ⟨hnot,hpacked⟩ := hok o hw
      have hsliced : ¬o.sliced.Owns := hnot
      obtain ⟨contents,hraw⟩ := s.getRaw_eq o.sliced
      simp only [World.step, hw, dispose_of_not_owns _ hsliced, hraw]
      refine ⟨h.owner,h.known,h.fresh,h.once,h.kept,h.notEarly,fun x hx => ?_⟩
      rcases List.mem_append.mp hx with hold | hnew
      · exact h.sent x hold
      · exact (s.transmitted_eq_iff o).mpr hpacked x hnew

end Inv

/-! The converse: what is not allowed leaves a trace. -/

/-- A message was released too early, or something else was sent than packed. -/
def Spoiled (s : World M) : Prop := s.early = true ∨ ∃ x ∈ s.sent, x.1 ≠ x.2

theorem Sound.not_spoiled {s : World M} (h : s.Sound) : ¬s.Spoiled := by
  rintro (hearly | ⟨x,hx,hne⟩)
  · rw [h.notEarly] at hearly
    contradiction
  · exact hne (h.sent x hx)

/-- Only the two records count. -/
theorem Spoiled.of_eq {s s' : World M} (h : s.Spoiled) (hearly : s'.early = s.early) (hsent : s'.sent = s.sent) :
    s'.Spoiled := by
  rw [Spoiled, hearly, hsent]
  exact h

theorem dispose_sent (o : NanoPbMsg M) : (s.dispose o).sent = s.sent := by
  unfold dispose
  split <;> rfl

theorem Spoiled.dispose {s : World M} (h : s.Spoiled) (o : NanoPbMsg M) : (s.dispose o).Spoiled := by
  rcases h with hearly | hsent
  · left
    unfold World.dispose
    split <;> simp [hearly]
  · right
    rwa [dispose_sent]

/-- A release that comes too early is recorded. -/
theorem spoiled_dispose {s : World M} {o o' : NanoPbMsg M} (h : o.Owns) (ho' : o' ∈ s.live)
    (hsame : o'.message = o.message) : (s.dispose o).Spoiled := by
  left
  by_contra hearly
  exact ((s.dispose_early h).mp (by simpa using hearly)).2 o' ho' hsame

variable [Inhabited M]

/-- What was done wrong stays done. -/
theorem Spoiled.step {s : World M} (h : s.Spoiled) (op : WrapperOp M) : (World.step s op).Spoiled := by
  cases op with
  | construct memory fill pack => cases memory <;> exact h.of_eq rfl rfl
  | borrow message pack =>
    simp only [World.step]
    split
    · exact h.of_eq rfl rfl
    · exact h
  | copy w pack =>
    cases hw : s.get w with
    | none => simpa only [World.step, hw] using h
    | some o =>
      simp only [World.step, hw]
      exact h.of_eq rfl rfl
  | convert w pack =>
    cases hw : s.get w with
    | none => simpa only [World.step, hw] using h
    | some o =>
      obtain ⟨contents,hraw⟩ := s.getRaw_eq o.sliced
      simp only [World.step, hw, hraw]
      refine Spoiled.dispose ?_ o.sliced
      exact h.of_eq rfl rfl
  | convertRef w pack =>
    cases hw : s.get w with
    | none => simpa only [World.step, hw] using h
    | some o =>
      obtain ⟨contents,hraw⟩ := s.getRaw_eq o
      simp only [World.step, hw, hraw]
      exact h.of_eq rfl rfl
  | disown w =>
    cases hw : s.get w with
    | none => simpa only [World.step, hw] using h
    | some o =>
      simp only [World.step, hw]
      exact h.of_eq rfl rfl
  | destroy w =>
    cases hw : s.get w with
    | none => simpa only [World.step, hw] using h
    | some o =>
      simp only [World.step, hw]
      refine Spoiled.dispose ?_ o
      exact h.of_eq rfl rfl
  | send w =>
    cases hw : s.get w with
    | none => simpa only [World.step, hw] using h
    | some o =>
      obtain ⟨contents,hraw⟩ := s.getRaw_eq o.sliced
      simp only [World.step, hw, hraw]
      refine Spoiled.dispose ?_ o.sliced
      rcases h with hearly | ⟨x,hx,hne⟩
      · exact .inl hearly
      · exact .inr ⟨x,List.mem_append_left _ hx,hne⟩

theorem spoiled_of_not_ok {s : World M} {op : WrapperOp M} (h : ¬s.Ok op) : (World.step s op).Spoiled := by
  cases op with
  | construct memory fill pack => exact absurd trivial h
  | borrow message pack => exact absurd trivial h
  | copy w pack => exact absurd trivial h
  | convertRef w pack => exact absurd trivial h
  | disown w => exact absurd trivial h
  | convert w pack =>
    simp only [Ok, not_forall, not_not] at h
    obtain ⟨o,hw,howns⟩ := h
    have hw : s.get w = some o := hw
    obtain ⟨contents,hraw⟩ := s.getRaw_eq o.sliced
    simp only [World.step, hw, hraw]
    have hlive : (⟨o.message,false,pack⟩ : NanoPbMsg M) ∈ (s.add ⟨o.message,false,pack⟩).live :=
      (mem_live_add _ _ _).mpr (.inr rfl)
    exact spoiled_dispose howns hlive rfl
  | destroy w =>
    simp only [Ok, not_forall, not_not] at h
    obtain ⟨o,hw,howns,o',ho',hsame⟩ := h
    have hw : s.get w = some o := hw
    simp only [World.step, hw]
    exact spoiled_dispose howns ho' hsame
  | send w =>
    simp only [Ok, not_forall, not_and_or, not_not] at h
    obtain ⟨o,hw,hbad⟩ := h
    have hw : s.get w = some o := hw
    obtain ⟨contents,hraw⟩ := s.getRaw_eq o.sliced
    simp only [World.step, hw, hraw]
    rcases hbad with howns | hpacked
    · exact spoiled_dispose (o := o.sliced) howns ((s.mem_live o).mpr ⟨w,hw⟩) rfl
    · right
      rw [dispose_sent]
      have hdiffers : ¬∀ x ∈ s.transmitted o, x.1 = x.2 := by
        rw [s.transmitted_eq_iff o]
        simpa using hpacked
      simp only [not_forall] at hdiffers
      obtain ⟨x,hx,hne⟩ := hdiffers
      exact ⟨x,List.mem_append_right _ hx,hne⟩

theorem Spoiled.run {s : World M} (h : s.Spoiled) (ops : List (WrapperOp M)) :
    (Library.run World.step s ops).Spoiled := by
  have hstep (t : World M) (op : WrapperOp M) (ht : t.Spoiled) : (World.step t op).Spoiled := ht.step op
  exact run_invariant hstep ops h

theorem spoiled_of_not_guarded {s : World M} {ops : List (WrapperOp M)} (h : ¬Guarded World.step Ok s ops) :
    (Library.run World.step s ops).Spoiled := by
  induction ops generalizing s with
  | nil => exact absurd trivial h
  | cons op ops ih =>
    by_cases hok : s.Ok op
    · exact ih fun hrest => h ⟨hok,hrest⟩
    · exact (spoiled_of_not_ok hok).run ops

/-- Ownership of the wrapped messages, over every sequence of operations: everything is as intended
exactly when no operation destroys an owner while another object refers to its message, passes
an owner by value, or sends a message that is not packed. -/
theorem ownership_sound_iff (contents : Pointer → M) (ops : List (WrapperOp M)) :
    (Library.run World.step (start contents) ops).Sound ↔ Guarded World.step Ok (start contents) ops := by
  constructor
  · intro hsound
    by_contra hnot
    exact hsound.not_spoiled (spoiled_of_not_guarded hnot)
  · intro hguarded
    exact (hguarded.invariant Inv.step (Inv.start contents)).sound

/-- `CommandResult::pack`, for one result code. -/
def packCmdResult (m : Message) : Message :=
  { m with
    whichMsg := Message.genericTag
    generic := { m.generic with whichMsg := 2, cmdResult := 1 } }

/-- A command result is built, sent and destroyed: the parameter of `send` transmits the message as
allocated and releases it while the object refers to it, and the object's destructor releases
it again. -/
theorem sent_twice_released :
    let ops : List (WrapperOp Message) := [.construct true id packCmdResult,.send 0,.destroy 0]
    let s := Library.run World.step (start fun _ => default) ops
    s.released 0 = 2 ∧ s.early = true ∧ ¬s.Sound := by
  intro ops s
  have htwice : s.released 0 = 2 := by decide
  refine ⟨htwice,by decide,fun hsound => ?_⟩
  have honce := hsound.once 0
  omega

end World
end WhadLib.Cpp
