import Mathlib.Data.List.Basic
import Mathlib.Tactic.Linarith

/-! Writers into a sink of limited size. A writer reports whether it succeeded. It completes
when it writes its symbols wherever there is room for them; it is honest when it also reports
the failure wherever there is not. Honest writers compose; a writer that merely completes
becomes honest when its output is measured first and announced by its length. -/
namespace WhadLib.Library
variable {α : Type*}

/-- What was written, and how many symbols may still be written; `none` is no limit. -/
structure Sink (α : Type*) where
  written : List α
  room : Option ℕ

namespace Sink

def write (s : Sink α) (xs : List α) : Sink α :=
  ⟨s.written ++ xs,s.room.map fun n => n - xs.length⟩

/-- There is room for the symbols. -/
def Fits (s : Sink α) (xs : List α) : Prop := ∀ n ∈ s.room, xs.length ≤ n

instance (s : Sink α) (xs : List α) : Decidable (s.Fits xs) :=
  match h : s.room with
  | none => isTrue fun n hn => by rw [h] at hn; contradiction
  | some n => decidable_of_iff (xs.length ≤ n) (by simp [Fits, h])

@[simp] theorem write_nil (s : Sink α) : s.write [] = s := by simp [write]

@[simp] theorem write_write (s : Sink α) (xs ys : List α) : (s.write xs).write ys = s.write (xs ++ ys) := by
  simp [write, Function.comp_def, Nat.sub_sub]

theorem fits_nil (s : Sink α) : s.Fits [] := fun _ _ => Nat.zero_le _

theorem fits_append (s : Sink α) (xs ys : List α) :
    s.Fits (xs ++ ys) ↔ s.Fits xs ∧ (s.write xs).Fits ys := by
  cases hroom : s.room with
  | none => simp [Fits, write, hroom]
  | some n =>
    simp only [Fits, write, hroom, List.length_append, Option.map_some, Option.mem_some_iff, forall_eq']
    omega

end Sink

/-- Success, and the sink afterwards. -/
def Writer (α : Type*) := Sink α → Bool × Sink α

namespace Writer

/-- The second writer runs when the first one reports success. -/
def andThen (v w : Writer α) : Writer α := fun s =>
  match v s with
  | (true, s') => w s'
  | (false, s') => (false, s')

def done : Writer α := fun s => (true, s)

/-- Wherever the symbols fit, they are written. -/
def Completes (w : Writer α) (xs : List α) : Prop := ∀ s : Sink α, s.Fits xs → w s = (true, s.write xs)

/-- Where they do not fit, failure is reported and only a proper front was written. -/
structure Emits (w : Writer α) (xs : List α) : Prop where
  completes : w.Completes xs
  full : ∀ s : Sink α, ¬s.Fits xs →
    (w s).1 = false ∧ ∃ ys, ys <+: xs ∧ ys.length < xs.length ∧ (w s).2 = s.write ys

theorem emits_done : Emits (done : Writer α) [] where
  completes := fun s _ => by simp [done]
  full := fun s hs => absurd s.fits_nil hs

theorem Completes.andThen {v w : Writer α} {xs ys : List α} (hv : v.Completes xs) (hw : w.Completes ys) :
    (v.andThen w).Completes (xs ++ ys) := by
  intro s hs
  obtain ⟨hxs,hys⟩ := (s.fits_append xs ys).mp hs
  rw [Writer.andThen, hv s hxs]
  simp only
  rw [hw _ hys, Sink.write_write]

theorem Emits.andThen {v w : Writer α} {xs ys : List α} (hv : v.Emits xs) (hw : w.Emits ys) :
    (v.andThen w).Emits (xs ++ ys) := by
  refine ⟨hv.completes.andThen hw.completes,fun s hs => ?_⟩
  by_cases hxs : s.Fits xs
  · have hys : ¬(s.write xs).Fits ys := fun h => hs ((s.fits_append xs ys).mpr ⟨hxs,h⟩)
    obtain ⟨hfail,zs,hzs,hlt,hsink⟩ := hw.full _ hys
    rw [Writer.andThen, hv.completes s hxs]
    simp only
    refine ⟨hfail,xs ++ zs,(List.prefix_append_right_inj xs).mpr hzs,?_,?_⟩
    · rw [List.length_append, List.length_append]
      omega
    · rw [hsink, Sink.write_write]
  · obtain ⟨hfail,zs,hzs,hlt,hsink⟩ := hv.full s hxs
    cases hvs : v s with
    | mk ok s' =>
      rw [hvs] at hfail hsink
      simp only at hfail hsink
      subst hfail hsink
      simp only [Writer.andThen, hvs, true_and]
      refine ⟨zs,hzs.trans (List.prefix_append _ _),?_,rfl⟩
      rw [List.length_append]
      omega

/-- A loop that writes an entry and goes on while a test holds writes the entries up to the first one that
fails it. -/
theorem emits_takeWhile {β : Type*} (p : β → Prop) [DecidablePred p] (entry : β → Writer α → Writer α)
    {loop : List β → Writer α} {out : β → List α} (hnil : loop [] = done)
    (hcons : ∀ b bs, loop (b :: bs) = if p b then entry b (loop bs) else done)
    (hentry : ∀ b rest ys, rest.Emits ys → (entry b rest).Emits (out b ++ ys)) (entries : List β) :
    (loop entries).Emits ((entries.takeWhile fun b => p b).flatMap out) := by
  induction entries with
  | nil =>
    rw [hnil]
    exact emits_done
  | cons b bs ih =>
    rw [hcons]
    by_cases hb : p b
    · rw [if_pos hb, List.takeWhile_cons_of_pos (by simpa using hb), List.flatMap_cons]
      exact hentry b _ _ ih
    · rw [if_neg hb, List.takeWhile_cons_of_neg (by simpa using hb)]
      exact emits_done

/-- Length-prefixed output of a writer whose output is not known beforehand: a first pass into a
sink without limit measures it, then the length is written by `header`, and a second pass into
a sink of just that size writes it. A second pass that writes another number of symbols is a
failure. A sink without limit is itself used for measuring and gets the first pass. -/
def measured (header : ℕ → Writer α) (w : Writer α) : Writer α := fun s =>
  match w ⟨[],none⟩ with
  | (false, _) => (false, s)
  | (true, first) =>
    match header first.written.length s with
    | (false, s') => (false, s')
    | (true, s') =>
      match s'.room with
      | none => (true, s'.write first.written)
      | some n =>
        if n < first.written.length then (false, s')
        else
          let second := w ⟨[],some first.written.length⟩
          (second.1 && second.2.written.length == first.written.length, s'.write second.2.written)

/-- Measuring makes a writer honest. -/
theorem emits_measured {header : ℕ → Writer α} {w : Writer α} {xs front : List α} (hw : w.Completes xs)
    (hh : (header xs.length).Emits front) : (measured header w).Emits (front ++ xs) := by
  have hfirst : w ⟨[],none⟩ = (true, ⟨xs,none⟩) := by
    rw [hw _ (by simp [Sink.Fits])]
    rfl
  have hsecond : w ⟨[],some xs.length⟩ = (true, ⟨xs,some 0⟩) := by
    rw [hw _ (by simp [Sink.Fits])]
    simp [Sink.write]
  constructor
  · intro s hs
    obtain ⟨hhead,hbody⟩ := (s.fits_append _ _).mp hs
    simp only [measured, hfirst]
    rw [hh.completes s hhead]
    simp only
    cases hroom : (s.write front).room with
    | none => simp
    | some n =>
      have hle : ¬n < xs.length := by
        have := hbody n hroom
        omega
      simp [hle, hsecond]
  · intro s hs
    simp only [measured, hfirst]
    by_cases hhead : s.Fits front
    · have hbody : ¬(s.write front).Fits xs := fun h => hs ((s.fits_append _ xs).mpr ⟨hhead,h⟩)
      rw [hh.completes s hhead]
      simp only
      cases hroom : (s.write front).room with
      | none =>
        refine absurd (fun n hn => ?_) hbody
        rw [hroom] at hn
        contradiction
      | some n =>
        have hlt : n < xs.length := by
          by_contra hle
          refine hbody fun m hm => ?_
          rw [hroom] at hm
          obtain rfl := Option.some.inj hm
          omega
        simp only [hlt, if_true, true_and]
        refine ⟨_,List.prefix_append _ _,?_,rfl⟩
        rw [List.length_append]
        omega
    · obtain ⟨hfail,zs,hzs,hlt,hsink⟩ := hh.full s hhead
      cases hres : header xs.length s with
      | mk ok s' =>
        rw [hres] at hfail hsink
        simp only at hfail hsink
        subst hfail hsink
        simp only [true_and]
        refine ⟨zs,hzs.trans (List.prefix_append _ _),?_,rfl⟩
        rw [List.length_append]
        omega

/-- All at once or not at all. -/
def chunk (xs : List α) : Writer α := fun s => if s.Fits xs then (true, s.write xs) else (false, s)

theorem emits_chunk (xs : List α) : (chunk xs).Emits xs where
  completes := fun s hs => by simp [chunk, hs]
  full := by
    intro s hs
    have hne : xs ≠ [] := by
      rintro rfl
      exact hs s.fits_nil
    simp only [chunk, hs, if_false, true_and]
    exact ⟨[],List.nil_prefix,List.length_pos_iff.mpr hne,by simp⟩

end Writer
end WhadLib.Library
