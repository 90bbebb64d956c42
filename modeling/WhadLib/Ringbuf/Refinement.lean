import WhadLib.Ringbuf
import WhadLib.Library.BoundedFifo

/-! The ring buffer is a bounded queue of 1023 elements, over every run of its operations and
wherever head and tail stand. -/
namespace WhadLib
open Library

namespace Ringbuf
variable {α : Type*}

/-- One call: its result, the elements written to the caller's memory, the buffer afterwards. -/
def perform (r : Ringbuf α) : FifoOp α → WhadResult × List α × Ringbuf α
  | .push x => ((r.push x).1,[],(r.push x).2)
  | .pull => (r.pull.1,r.pull.2.1.toList,r.pull.2.2)
  | .copy size => ((r.copy size).1,(r.copy size).2,r)
  | .skip size => ((r.skip size).1,[],(r.skip size).2)

def step (r : Ringbuf α) (op : FifoOp α) : Ringbuf α := (r.perform op).2.2

/-- The content of a buffer, as a queue. -/
def queue (r : Ringbuf α) : BoundedFifo α ringbufCapacity := ⟨r.toList,r.toList_length_le⟩

theorem pull_of_nil (r : Ringbuf α) (h : r.toList = []) : r.pull = (.ringbufEmpty, none, r) := by
  have hsize : r.getSize = 0 := by rw [← toList_length, h, List.length_nil]
  rw [pull, if_neg (by omega)]

/-- Every call agrees with the queue of the same content. -/
theorem perform_agrees (r : Ringbuf α) (q : BoundedFifo α ringbufCapacity) (op : FifoOp α)
    (h : r.toList = q.items) :
    BoundedFifo.Agrees toList r q op ((r.perform op).1 = .success) (r.perform op).2.1 (r.step op) := by
  have hlen : r.toList.length = q.items.length := by rw [h]
  cases op with
  | push x =>
    by_cases hroom : q.items.length < ringbufCapacity
    · obtain ⟨hres,hlist⟩ := r.push_of_lt x (by omega)
      simp only [BoundedFifo.Agrees, BoundedFifo.perform, hroom, dite_true]
      exact ⟨hres,rfl,by rw [← h]; exact hlist⟩
    · have hfull := r.push_of_full x (by have := q.bounded; omega)
      simp only [BoundedFifo.Agrees, BoundedFifo.perform, hroom, dite_false]
      simp [step, perform, hfull]
  | pull =>
    cases hitems : r.toList with
    | nil =>
      rw [hitems] at h
      simp [BoundedFifo.Agrees, BoundedFifo.perform, ← h, step, perform, r.pull_of_nil hitems]
    | cons x xs =>
      obtain ⟨hres,hx,hxs⟩ := r.pull_of_cons x xs hitems
      rw [hitems] at h
      have hpos : 0 < q.items.length := by rw [← h, List.length_cons]; omega
      simp only [BoundedFifo.Agrees, BoundedFifo.perform, hpos, if_true, BoundedFifo.drop]
      rw [← h]
      refine ⟨hres,?_,hxs⟩
      simp [perform, hx]
  | copy size =>
    by_cases hle : size ≤ q.items.length
    · have hcopy := r.copy_of_le size (by omega)
      simp only [BoundedFifo.Agrees, BoundedFifo.perform, hle, if_true, perform, step, hcopy]
      exact ⟨trivial,by rw [h],h⟩
    · have hcopy := r.copy_of_lt size (by omega)
      simp [BoundedFifo.Agrees, BoundedFifo.perform, hle, perform, step, hcopy]
  | skip size =>
    by_cases hle : size ≤ q.items.length
    · obtain ⟨hres,hlist⟩ := r.skip_of_le size (by omega)
      simp only [BoundedFifo.Agrees, BoundedFifo.perform, hle, if_true, BoundedFifo.drop]
      exact ⟨hres,rfl,by rw [← h]; exact hlist⟩
    · have hskip := r.skip_of_lt size (by omega)
      simp [BoundedFifo.Agrees, BoundedFifo.perform, hle, perform, step, hskip]

/-- What a caller can observe of a buffer that holds the queue `q`. -/
structure Shows (r : Ringbuf α) (q : BoundedFifo α ringbufCapacity) : Prop where
  head : (r.head : ℕ) ≤ 1023
  tail : (r.tail : ℕ) ≤ 1023
  size : r.getSize = q.items.length
  freeSize : r.getFreeSize = 1023 - q.items.length
  push : ∀ x, (r.push x).1 = .success ∧ (r.push x).2.toList = q.items ++ [x] ∧ q.items.length < 1023 ∨
    r.push x = (.ringbufFull, r) ∧ q.items.length = 1023
  pull : (∃ x xs, q.items = x :: xs ∧ r.pull.1 = .success ∧ r.pull.2.1 = some x ∧ r.pull.2.2.toList = xs) ∨
    q.items = [] ∧ r.pull = (.ringbufEmpty, none, r)
  copy : ∀ size, r.copy size = if size ≤ q.items.length then (.success, q.items.take size) else (.error, [])
  skip : ∀ size, (r.skip size).1 = .success ∧ (r.skip size).2.toList = q.items.drop size ∧
      size ≤ q.items.length ∨
    r.skip size = (.error, r) ∧ q.items.length < size

theorem shows_of_toList {r : Ringbuf α} {q : BoundedFifo α ringbufCapacity} (h : r.toList = q.items) :
    r.Shows q where
  head := Nat.le_of_lt_succ r.head.isLt
  tail := Nat.le_of_lt_succ r.tail.isLt
  size := by rw [← toList_length, h]
  freeSize := by rw [getFreeSize_eq, h]; rfl
  push := by
    intro x
    rw [← h]
    rcases r.push_result x with ⟨hres,hlt⟩ | ⟨_,hfull⟩
    · exact .inl ⟨hres,(r.push_of_lt x hlt).2,hlt⟩
    · exact .inr ⟨r.push_of_full x hfull,hfull⟩
  pull := by
    rw [← h]
    cases hitems : r.toList with
    | nil => exact .inr ⟨rfl,r.pull_of_nil hitems⟩
    | cons x xs => exact .inl ⟨x,xs,rfl,r.pull_of_cons x xs hitems⟩
  copy := by
    intro size
    rw [← h]
    split
    · rename_i hle
      exact r.copy_of_le size hle
    · rename_i hlt
      exact r.copy_of_lt size (by omega)
  skip := by
    intro size
    rw [← h]
    rcases Nat.lt_or_ge r.toList.length size with hlt | hle
    · exact .inr ⟨r.skip_of_lt size hlt,hlt⟩
    · exact .inl ⟨(r.skip_of_le size hle).1,(r.skip_of_le size hle).2,hle⟩

/-- Refinement of the bounded queue: after every run of calls from an initialised buffer, with
whatever the memory held before, the buffer holds what the queue holds after the same requests,
its indices and sizes show that, and the next call does what the queue does. -/
theorem ringbuf_refines_fifo (r : Ringbuf α) (ops : List (FifoOp α)) :
    let s := run step r.init ops
    let q : BoundedFifo α ringbufCapacity := run BoundedFifo.next BoundedFifo.empty ops
    s.toList = q.items ∧ s.Shows q ∧
      ∀ op, BoundedFifo.Agrees toList s q op ((s.perform op).1 = .success) (s.perform op).2.1 (s.step op) := by
  intro s q
  have hcontent : s.toList = q.items :=
    BoundedFifo.content_run perform_agrees ops r.init BoundedFifo.empty r.toList_init
  exact ⟨hcontent,shows_of_toList hcontent,fun op => s.perform_agrees q op hcontent⟩

end Ringbuf
end WhadLib
