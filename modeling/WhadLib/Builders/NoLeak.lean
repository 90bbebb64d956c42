import WhadLib.Builders

/-! What a builder leaves of the message it is given. Two calls with the same arguments, on messages with
whatever content, must leave messages that mean the same on the wire. The builders that assign every
field of their member do; the others leave visible what they do not assign. -/
namespace WhadLib
open Library

/-- Nothing of the prior content of the message is visible after a successful call. -/
def NoLeak (run : Option FullMessage → Outcome) : Prop :=
  ∀ m m' r r', run (some m) = some (.success, some r) → run (some m') = some (.success, some r') →
    r.SameWire r'

/-- A field is not visible, or is no bytes. -/
def Wire.Hides (tag : ℕ) : Wire → Prop
  | .nil => True
  | .refused => True
  | .field t v rest => (t = tag → v = .absent ∨ v = .bytes (some [])) ∧ rest.Hides tag
  | .message t _ rest => t ≠ tag ∧ rest.Hides tag

/-- The tag of a field whose argument is not given. -/
def missing (given : Bool) (tag : ℕ) : List ℕ := if given then [] else [tag]

/-- A successful call shows nothing of the prior content, and no field whose argument is absent. -/
structure Clean (run : Option FullMessage → Outcome) (absent : List ℕ) : Prop where
  noLeak : NoLeak run
  omits : ∀ m r, run (some m) = some (.success, some r) → ∀ tag ∈ absent, r.wire.Hides tag

section
variable {run : Option FullMessage → Outcome} {k : Kind}

theorem noLeak_of_refuse (h : ∀ m, run (some m) = refuse (some m)) : NoLeak run := by
  intro m m' r r' hr
  simp [h, refuse] at hr

/-- A builder leaks what its body leaves visible. -/
theorem noLeak_build_iff {body : k.Struct → Option (WhadResult × k.Struct)} (h : ∀ m, run (some m) = m.build k body) :
    NoLeak run ↔ ∀ p q p' q', body p = some (.success, p') → body q = some (.success, q') →
      k.wire p' = k.wire q' := by
  constructor
  · intro hleak p q p' q' hp hq
    have hrun (s s' : k.Struct) (hs : body s = some (.success, s')) :
        run (some ((default : FullMessage).put k s)) =
          some (.success, some (((default : FullMessage).put k s).put k s')) := by
      rw [h, FullMessage.build_eq_some_iff]
      exact ⟨s',by rw [FullMessage.put_msg_self]; exact hs,rfl⟩
    exact FullMessage.sameWire_put_iff.mp (hleak _ _ _ _ (hrun p p' hp) (hrun q q' hq))
  · intro hbody m m' r r' hr hr'
    rw [h, FullMessage.build_eq_some_iff] at hr hr'
    obtain ⟨p,hp,hmsg⟩ := hr
    obtain ⟨q,hq,hmsg'⟩ := hr'
    obtain rfl := Option.some.inj hmsg
    obtain rfl := Option.some.inj hmsg'
    exact FullMessage.sameWire_put_iff.mpr (hbody _ _ _ _ hp hq)

theorem noLeak_assign_iff {update : k.Struct → k.Struct} (h : ∀ m, run (some m) = m.assign k update) :
    NoLeak run ↔ ∀ p q, k.wire (update p) = k.wire (update q) := by
  rw [noLeak_build_iff h]
  constructor
  · intro hall p q
    exact hall p q _ _ rfl rfl
  · intro hall p q p' q' hp hq
    simp only [done, Option.some.injEq, Prod.mk.injEq, true_and] at hp hq
    obtain rfl := hp
    obtain rfl := hq
    exact hall p q

/-- Every visible field is assigned. -/
theorem noLeak_of_assign {update : k.Struct → k.Struct} (h : ∀ m, run (some m) = m.assign k update)
    (hall : ∀ p q, k.wire (update p) = k.wire (update q)) : NoLeak run :=
  (noLeak_assign_iff h).mpr hall

/-- A body that never succeeds leaves nothing behind to look at. -/
theorem noLeak_of_never {body : k.Struct → Option (WhadResult × k.Struct)} (h : ∀ m, run (some m) = m.build k body)
    (hnever : ∀ p p', body p ≠ some (.success, p')) : NoLeak run := by
  rw [noLeak_build_iff h]
  intro p q p' q' hp
  exact absurd hp (hnever p p')

/-- One counted array is copied, and the rest is assigned. -/
theorem noLeak_fill_iff {n : ℕ} {src : Buffer} {length : ℤ} {array : k.Struct → BytesArray n}
    {store : k.Struct → BytesArray n → k.Struct}
    (h : ∀ m, run (some m) = m.build k fun p => do
      let stored ← (array p).fill src length
      done (store p stored)) :
    NoLeak run ↔ ∀ p q x y, (array p).fill src length = some x → (array q).fill src length = some y →
      k.wire (store p x) = k.wire (store q y) := by
  rw [noLeak_build_iff h]
  constructor
  · intro hall p q x y hx hy
    exact hall p q _ _ (by rw [hx]; rfl) (by rw [hy]; rfl)
  · intro hall p q p' q' hp hq
    simp only [bind, done, Option.bind_eq_some_iff, Option.some.injEq, Prod.mk.injEq, true_and] at hp hq
    obtain ⟨x,hx,rfl⟩ := hp
    obtain ⟨y,hy,rfl⟩ := hq
    exact hall p q x y hx hy

/-- Nothing is visible but the copy and what is assigned. -/
theorem noLeak_of_fill {n : ℕ} {src : Buffer} {length : ℤ} {array : k.Struct → BytesArray n}
    {store : k.Struct → BytesArray n → k.Struct} (hn : n < 65536)
    (h : ∀ m, run (some m) = m.build k fun p => do
      let stored ← (array p).fill src length
      done (store p stored))
    (hall : ∀ p q x y, value x = value y → k.wire (store p x) = k.wire (store q y)) : NoLeak run := by
  rw [noLeak_fill_iff h]
  intro p q x y hx hy
  exact hall p q x y (by rw [value_fill hx hn, value_fill hy hn])

/-- A value that is kept unless it is given is visible unless it is given. -/
theorem value_kept_iff {α : Type} [FieldValue α] {c : Prop} [Decidable c] {x : OptionalField α} {v v' : α} :
    value (if c then x else (⟨false,v⟩ : OptionalField α)) = value (if c then x else (⟨true,v'⟩ : OptionalField α)) ↔
      c := by
  split <;> simp_all

theorem mem_missing {given : Bool} {tag t : ℕ} : t ∈ missing given tag ↔ given = false ∧ t = tag := by
  cases given <;> simp [missing]

theorem NoLeak.clean (h : NoLeak run) : Clean run [] := ⟨h,by simp⟩

theorem clean_of_refuse {absent : List ℕ} (h : ∀ m, run (some m) = refuse (some m)) : Clean run absent := by
  refine ⟨noLeak_of_refuse h,fun m r hr => ?_⟩
  rw [h] at hr
  simp [refuse] at hr

/-- What a body leaves out of its member. -/
theorem NoLeak.clean_build {body : k.Struct → Option (WhadResult × k.Struct)} {absent : List ℕ} (h : NoLeak run)
    (hrun : ∀ m, run (some m) = m.build k body)
    (homits : ∀ p p', body p = some (.success, p') → ∀ tag ∈ absent, (k.wire p').Hides tag) :
    Clean run absent := by
  refine ⟨h,fun m r hr tag htag => ?_⟩
  rw [hrun, FullMessage.build_eq_some_iff] at hr
  obtain ⟨p,hp,hr⟩ := hr
  obtain rfl := Option.some.inj hr
  rw [FullMessage.put_wire]
  exact homits _ p hp tag htag

end

end WhadLib
