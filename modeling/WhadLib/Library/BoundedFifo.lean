import Mathlib.Data.List.Basic
import WhadLib.Library.StepSystem

/-! A first-in first-out queue of limited length, and what it means for an implementation to
behave like it: the same requests are granted, with the same symbols handed out, in every run. -/
namespace WhadLib.Library
variable {α σ : Type*} {cap : ℕ}

/-- At most `cap` elements, oldest first. -/
structure BoundedFifo (α : Type*) (cap : ℕ) where
  items : List α
  bounded : items.length ≤ cap

/-- The requests to a queue: append an element, remove the first one, read or remove the first
`size` ones. -/
inductive FifoOp (α : Type*)
  | push (x : α)
  | pull
  | copy (size : ℕ)
  | skip (size : ℕ)

namespace BoundedFifo

def empty : BoundedFifo α cap := ⟨[],Nat.zero_le cap⟩

/-- The first `size` elements are gone. -/
def drop (q : BoundedFifo α cap) (size : ℕ) : BoundedFifo α cap where
  items := q.items.drop size
  bounded := by
    rw [List.length_drop]
    exact Nat.le_trans (Nat.sub_le _ _) q.bounded

/-- What a request hands out and the queue afterwards; `none` when it is refused. -/
def perform (q : BoundedFifo α cap) : FifoOp α → Option (List α × BoundedFifo α cap)
  | .push x =>
    if h : q.items.length < cap then
      some ([],⟨q.items ++ [x],by rw [List.length_append]; exact h⟩)
    else none
  | .pull => if 0 < q.items.length then some (q.items.take 1,q.drop 1) else none
  | .copy size => if size ≤ q.items.length then some (q.items.take size,q) else none
  | .skip size => if size ≤ q.items.length then some ([],q.drop size) else none

/-- A refused request changes nothing. -/
def next (q : BoundedFifo α cap) (op : FifoOp α) : BoundedFifo α cap := ((q.perform op).map Prod.snd).getD q

/-- An answer to a request, `granted` or not, with what was handed out and the state afterwards,
agrees with the queue's. -/
def Agrees (content : σ → List α) (s : σ) (q : BoundedFifo α cap) (op : FifoOp α) (granted : Prop)
    (out : List α) (s' : σ) : Prop :=
  match q.perform op with
  | some (xs,q') => granted ∧ out = xs ∧ content s' = q'.items
  | none => ¬granted ∧ out = [] ∧ s' = s

/-- Agreement on one request keeps the content. -/
theorem Agrees.content_next {content : σ → List α} {s s' : σ} {q : BoundedFifo α cap} {op : FifoOp α}
    {granted : Prop} {out : List α} (hs : content s = q.items)
    (h : Agrees content s q op granted out s') : content s' = (q.next op).items := by
  unfold Agrees at h
  unfold next
  cases hq : q.perform op with
  | none =>
    rw [hq] at h
    rw [h.2.2, hs]
    rfl
  | some r =>
    rw [hq] at h
    exact h.2.2

/-- An implementation that agrees on every request has the content of the queue in every run. -/
theorem content_run {step : σ → FifoOp α → σ} {granted : σ → FifoOp α → Prop}
    {out : σ → FifoOp α → List α} {content : σ → List α}
    (hstep : ∀ s (q : BoundedFifo α cap) op, content s = q.items →
      Agrees content s q op (granted s op) (out s op) (step s op))
    (ops : List (FifoOp α)) (s : σ) (q : BoundedFifo α cap) (h : content s = q.items) :
    content (run step s ops) = (run next q ops).items := by
  induction ops generalizing s q with
  | nil => exact h
  | cons op ops ih => exact ih (step s op) (q.next op) ((hstep s q op h).content_next h)

end BoundedFifo
end WhadLib.Library
