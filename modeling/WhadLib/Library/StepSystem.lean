import Mathlib.Data.List.Basic
import Mathlib.Data.List.Induction

/-! Deterministic step systems: a run performs a list of events, a guarded run performs only
events that meet a condition in the state they are performed in. An invariant is proved once
for a step and carried over a run; a map between two systems that commutes with every step
commutes with every run. -/
namespace WhadLib.Library
variable {σ τ ε : Type*}

/-- The state after the events have been performed in order. -/
def run (step : σ → ε → σ) (s : σ) (es : List ε) : σ := es.foldl step s

/-- What the last event says of those that say something. -/
def latest {α : Type*} (f : ε → Option α) (es : List ε) : Option α := (es.filterMap f).getLast?

/-- Every event meets `Ok` in the state it is performed in. -/
def Guarded (step : σ → ε → σ) (Ok : σ → ε → Prop) : σ → List ε → Prop
  | _, [] => True
  | s, e :: es => Ok s e ∧ Guarded step Ok (step s e) es

section
variable (step : σ → ε → σ) (Ok : σ → ε → Prop)

@[simp] theorem run_nil (s : σ) : run step s [] = s := rfl

@[simp] theorem run_cons (s : σ) (e : ε) (es : List ε) :
    run step s (e :: es) = run step (step s e) es := rfl

theorem run_append (s : σ) (es fs : List ε) :
    run step s (es ++ fs) = run step (run step s es) fs := List.foldl_append

@[simp] theorem guarded_nil (s : σ) : Guarded step Ok s [] := trivial

@[simp] theorem guarded_cons (s : σ) (e : ε) (es : List ε) :
    Guarded step Ok s (e :: es) ↔ Ok s e ∧ Guarded step Ok (step s e) es := Iff.rfl

theorem guarded_append (s : σ) (es fs : List ε) :
    Guarded step Ok s (es ++ fs) ↔ Guarded step Ok s es ∧ Guarded step Ok (run step s es) fs := by
  induction es generalizing s with
  | nil => simp
  | cons e es ih => simp [ih, and_assoc]

instance decidableGuarded [∀ s e, Decidable (Ok s e)] :
    (s : σ) → (es : List ε) → Decidable (Guarded step Ok s es)
  | _, [] => isTrue trivial
  | s, e :: es => @instDecidableAnd _ _ _ (decidableGuarded (step s e) es)
end

variable {step : σ → ε → σ} {Ok : σ → ε → Prop} {Inv : σ → Prop}

/-- What every guarded step preserves holds after every guarded run. -/
theorem Guarded.invariant (hstep : ∀ s e, Inv s → Ok s e → Inv (step s e)) {s : σ} {es : List ε}
    (hrun : Guarded step Ok s es) (h : Inv s) : Inv (run step s es) := by
  induction es generalizing s with
  | nil => exact h
  | cons e es ih => exact ih hrun.2 (hstep s e h hrun.1)

/-- What every step preserves holds after every run. -/
theorem run_invariant (hstep : ∀ s e, Inv s → Inv (step s e)) {s : σ} (es : List ε) (h : Inv s) :
    Inv (run step s es) := by
  induction es generalizing s with
  | nil => exact h
  | cons e es ih => exact ih (hstep s e h)

/-- A simulation of single steps is a simulation of runs. -/
theorem run_map {step' : τ → ε → τ} (f : σ → τ) (hstep : ∀ s e, f (step s e) = step' (f s) e)
    (s : σ) (es : List ε) : f (run step s es) = run step' (f s) es := by
  induction es generalizing s with
  | nil => rfl
  | cons e es ih => rw [run_cons, run_cons, ih, hstep]

@[simp] theorem latest_nil {α : Type*} (f : ε → Option α) : latest f [] = none := rfl

theorem latest_concat {α : Type*} (f : ε → Option α) (es : List ε) (e : ε) :
    latest f (es ++ [e]) = (f e).or (latest f es) := by
  cases h : f e <;> simp [latest, List.filterMap_append, h]

theorem latest_eq_none_iff {α : Type*} {f : ε → Option α} {es : List ε} :
    latest f es = none ↔ ∀ e ∈ es, f e = none := by
  rw [latest, List.getLast?_eq_none_iff, List.filterMap_eq_nil_iff]

theorem exists_of_latest {α : Type*} {f : ε → Option α} {es : List ε} {a : α} (h : latest f es = some a) :
    ∃ e ∈ es, f e = some a :=
  List.mem_filterMap.mp (List.mem_of_getLast? h)

/-- What the last event says is also the last that is said of what passes a test, if it does. -/
theorem latest_filter {α : Type*} {f : ε → Option α} {p : α → Bool} {es : List ε} {a : α}
    (h : latest f es = some a) (ha : p a = true) : latest (fun e => (f e).filter p) es = some a := by
  induction es using List.reverseRecOn with
  | nil => contradiction
  | append_singleton es e ih =>
    rw [latest_concat] at h ⊢
    cases hsaid : f e with
    | none =>
      rw [hsaid, Option.none_or] at h
      rw [Option.filter_none, Option.none_or, ih h]
    | some b =>
      rw [hsaid, Option.some_or] at h
      obtain rfl := Option.some.inj h
      rw [Option.filter_some_pos ha, Option.some_or]

/-- A part of the state that every event either sets or leaves alone is what the last one of those that set
it made of it. -/
theorem run_latest {α β : Type*} {f : ε → Option α} (part : σ → β) {written : α → β}
    (hstep : ∀ s e, part (step s e) = (f e).elim (part s) written) (s : σ) (es : List ε) :
    part (run step s es) = (latest f es).elim (part s) written := by
  induction es using List.reverseRecOn with
  | nil => rfl
  | append_singleton es e ih =>
    rw [run_append, run_cons, run_nil, hstep, ih, latest_concat]
    cases f e <;> rfl

end WhadLib.Library
