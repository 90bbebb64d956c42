import WhadLib.Transport
import WhadLib.Library.StepSystem
import Mathlib.Data.List.Count
import Mathlib.Data.List.Induction

/-! The push loop of `whad_transport_send_message` while interrupts or co-routines use the same
queue. The comment of the source asks that a call that fails leaves the queue as it was; its
rollback is `whad_ringbuf_skip`, which removes bytes at the other end of the queue.

The machine below is generic in the cells of the ring. With plain bytes it is the code; with
bytes that remember who pushed them it says whose bytes the rollback removes. -/
namespace WhadLib
open Library

/-- Who pushed a byte: the call under study or another context. -/
inductive Origin
  | call
  | other
  deriving DecidableEq, Repr

/-- A step between two pushes of the call belongs to another context: it transmits `size` of the
queued bytes, or it queues a whole frame. -/
inductive SendStep
  | push
  | drain (size : ℕ)
  | queue (payload : List UInt8)

/-- A call of `whad_transport_send_message` past `whad_transport_wait_tx_space`: the bytes still
to push, the counter `pushed`, and the result once the call has returned. -/
structure SendCall (α : Type*) where
  tx : Ringbuf α
  todo : List α
  pushed : ℕ
  result : Option WhadResult

namespace SendCall
variable {α β : Type*}

/-- `mk` makes the cell for a byte of a given origin. -/
def start (mk : Origin → UInt8 → α) (tx : Ringbuf α) (payload : List UInt8) : SendCall α :=
  ⟨tx,(frame payload).map (mk .call),0,none⟩

/-- The next push of the call, with the rollback when the ring is full. -/
def push (s : SendCall α) : SendCall α :=
  match s.result, s.todo with
  | none, b :: bs =>
    match s.tx.push b with
    | (.success, tx) => ⟨tx,bs,s.pushed+1,if bs = [] then some .success else none⟩
    | (_, tx) => { s with tx := (tx.skip s.pushed).2, result := some .ringbufFull }
  | _, _ => s

def step (mk : Origin → UInt8 → α) (s : SendCall α) : SendStep → SendCall α
  | .push => s.push
  | .drain size => { s with tx := (s.tx.skip size).2 }
  | .queue payload => { s with tx := (pushLoop s.tx 0 ((frame payload).map (mk .other))).2.2 }

/-- The call has not returned; others drain bytes that are there and queue frames that fit. -/
def Ok (s : SendCall α) : SendStep → Prop
  | .push => s.result = none
  | .drain size => s.result = none ∧ size ≤ s.tx.getSize
  | .queue payload => s.result = none ∧ payload.length ≤ maxEncodedMessageSize ∧
      frameHeaderSize + payload.length ≤ s.tx.getFreeSize

instance (s : SendCall α) (e : SendStep) : Decidable (s.Ok e) := by
  cases e <;> unfold Ok <;> infer_instance

/-- Forget the difference between cells. -/
def map (f : α → β) (s : SendCall α) : SendCall β :=
  ⟨s.tx.map f,s.todo.map f,s.pushed,s.result⟩

end SendCall

theorem pushLoop_map {α β : Type*} (f : α → β) (bytes : List α) (tx : Ringbuf α) (pushed : ℕ) :
    pushLoop (tx.map f) pushed (bytes.map f) =
      ((pushLoop tx pushed bytes).1, (pushLoop tx pushed bytes).2.1,
        (pushLoop tx pushed bytes).2.2.map f) := by
  induction bytes generalizing tx pushed with
  | nil => rfl
  | cons b bs ih =>
    simp only [List.map_cons, pushLoop, Ringbuf.push_map]
    cases hpush : tx.push b with
    | mk res tx' => cases res <;> simp [ih, Ringbuf.skip_map]

/-- Pushing two runs of bytes one after the other, as the two loops of the source do. -/
theorem pushLoop_append {α : Type*} (xs ys : List α) (tx : Ringbuf α) (pushed : ℕ) :
    pushLoop tx pushed (xs ++ ys) =
      match pushLoop tx pushed xs with
      | (.success, pushed', tx') => pushLoop tx' pushed' ys
      | failed => failed := by
  induction xs generalizing tx pushed with
  | nil => rfl
  | cons x xs ih =>
    simp only [List.cons_append, pushLoop]
    cases hpush : tx.push x with
    | mk res tx' => cases res <;> simp [ih]

namespace SendCall
variable {α β : Type*}

theorem push_map (f : α → β) (s : SendCall α) : (s.map f).push = s.push.map f := by
  obtain ⟨tx,todo,pushed,result⟩ := s
  cases result with
  | some r => rfl
  | none =>
    cases todo with
    | nil => rfl
    | cons b bs =>
      simp only [push, map, List.map_cons, Ringbuf.push_map]
      cases hpush : tx.push b with
      | mk res tx' => cases res <;> simp [Ringbuf.skip_map, apply_ite]

/-- The machine does not look at the cells. -/
theorem step_map {mk : Origin → UInt8 → α} {mk' : Origin → UInt8 → β} {f : α → β}
    (hmk : ∀ o b, f (mk o b) = mk' o b) (s : SendCall α) (e : SendStep) :
    (step mk s e).map f = step mk' (s.map f) e := by
  cases e with
  | push => exact (s.push_map f).symm
  | drain size => simp [step, map, Ringbuf.skip_map]
  | queue payload =>
    have hcells : (frame payload).map (mk' .other) = ((frame payload).map (mk .other)).map f := by
      simp [hmk]
    simp only [step, map, hcells, pushLoop_map]

theorem ok_map (f : α → β) (s : SendCall α) (e : SendStep) : (s.map f).Ok e ↔ s.Ok e := by
  cases e <;> rfl

/-- Once the call has returned, a push step changes nothing. -/
theorem run_push_of_result (mk : Origin → UInt8 → α) (n : ℕ) {s : SendCall α} {r : WhadResult}
    (h : s.result = some r) : run (step mk) s (List.replicate n .push) = s := by
  induction n with
  | zero => rfl
  | succ n ih =>
    rw [List.replicate_succ, run_cons]
    have hstay : step mk s .push = s := by simp [step, push, h]
    rw [hstay, ih]

/-- Left alone, the call is the push loop of the sequential model. -/
theorem run_push_eq_pushLoop (mk : Origin → UInt8 → α) (todo : List α) (tx : Ringbuf α) (pushed : ℕ)
    (hne : todo ≠ []) :
    let s := run (step mk) ⟨tx,todo,pushed,none⟩ (List.replicate todo.length .push)
    (s.result, s.pushed, s.tx) =
      (some (pushLoop tx pushed todo).1, (pushLoop tx pushed todo).2.1, (pushLoop tx pushed todo).2.2) := by
  induction todo generalizing tx pushed with
  | nil => contradiction
  | cons b bs ih =>
    rw [List.length_cons, List.replicate_succ]
    simp only [run_cons, step, push, pushLoop]
    obtain ⟨hres,_⟩ | ⟨hres,_⟩ := tx.push_result b
    · cases hpush : tx.push b with
      | mk res tx' =>
        rw [hpush] at hres
        subst hres
        simp only
        by_cases hbs : bs = []
        · subst hbs
          rfl
        · rw [if_neg hbs]
          exact ih tx' (pushed+1) hbs
    · cases hpush : tx.push b with
      | mk res tx' =>
        rw [hpush] at hres
        subst hres
        simp only
        rw [run_push_of_result mk bs.length rfl]

/-- The machine with plain bytes is the code: without other contexts it computes what
`whad_transport_send_message` computes after waiting for space. -/
theorem sendMessage_eq_run (t t' : Transport) {message : Option (ℕ → UInt8)} {size : ℤ}
    (hsize : Transport.Sendable message size)
    (hwait : t.waitTxSpace (size.toNat + frameHeaderSize) = (.success, t')) :
    let payload := payloadOf message size
    let s := run (step fun _ b => b) (start (fun _ b => b) t'.txBuf payload)
      (List.replicate (frame payload).length .push)
    (some (t.sendMessage message size).1, (t.sendMessage message size).2) =
      (s.result, { t' with txBuf := s.tx }) := by
  intro payload s
  have hlen : payload.length = size.toNat := bytesAt_length _ _
  have hnull : ¬(message.isNone ∧ 0 < size) := by
    rintro ⟨hnone,hpos⟩
    have := hsize.2.2 (Option.isNone_iff_eq_none.mp hnone)
    omega
  have hrange : ¬(size < 0 ∨ (maxEncodedMessageSize : ℤ) < size) := by
    obtain ⟨hlow,hhigh,_⟩ := hsize
    omega
  have hrun := run_push_eq_pushLoop (fun (_ : Origin) (b : UInt8) => b) (frame payload) t'.txBuf 0
    (by simp [frame, frameHeader])
  have hstart : start (fun _ b => b) t'.txBuf payload = ⟨t'.txBuf,frame payload,0,none⟩ := by
    simp [start]
  simp only [Prod.mk.injEq] at hrun
  simp only [s, hstart]
  rw [hrun.1, hrun.2.2, Transport.sendMessage, if_neg hnull, if_neg hrange, hwait]
  simp only [frame, hlen, pushLoop_append]
  cases hhead : pushLoop t'.txBuf 0 (frameHeader size.toNat) with
  | mk res rest => cases res <;> rfl

end SendCall

/-! What a schedule does to the queue, seen from outside: the origins of the bytes it appends
and the number of bytes it drains. -/

def SendStep.origins : SendStep → List Origin
  | .push => [.call]
  | .drain _ => []
  | .queue payload => List.replicate (frameHeaderSize + payload.length) .other

def SendStep.drained : SendStep → ℕ
  | .drain size => size
  | _ => 0

/-- The origins of all bytes appended to the queue, in order. -/
def pushOrder (es : List SendStep) : List Origin := (es.map SendStep.origins).flatten

def drained (es : List SendStep) : ℕ := (es.map SendStep.drained).sum

/-- The schedules after which removing bytes at the front is a rollback: the call has pushed
nothing yet, or the other contexts pushed nothing between its bytes and drained exactly what
was in the queue before its first byte, `queued` of them from before the call. -/
def RollbackExact (queued : ℕ) (es : List SendStep) : Prop :=
  (pushOrder es).count .call = 0 ∨ ∃ before after,
    pushOrder es = List.replicate before .other ++
      (List.replicate ((pushOrder es).count .call) .call ++ List.replicate after .other) ∧
    drained es = queued + before

/-- Removing `k` elements at the front leaves exactly the elements that satisfy `p` when these
are the ones behind the first `k`. -/
theorem drop_eq_filter_iff {α : Type*} (p : α → Bool) (l : List α) (k : ℕ) :
    l.drop k = l.filter p ↔ (∀ x ∈ l.take k, ¬p x) ∧ ∀ x ∈ l.drop k, p x := by
  have hsplit : l.filter p = (l.take k).filter p ++ (l.drop k).filter p := by
    rw [← List.filter_append, List.take_append_drop]
  constructor
  · intro h
    have hback : ∀ x ∈ l.drop k, p x := by
      intro x hx
      rw [h] at hx
      exact (List.mem_filter.mp hx).2
    refine ⟨?_,hback⟩
    rw [List.filter_eq_self.mpr hback, h] at hsplit
    have hfront : (l.take k).filter p = [] := by
      have hlen := congrArg List.length hsplit
      rw [List.length_append] at hlen
      exact List.eq_nil_of_length_eq_zero (by omega)
    exact List.filter_eq_nil_iff.mp hfront
  · rintro ⟨hfront,hback⟩
    rw [hsplit, List.filter_eq_nil_iff.mpr hfront, List.filter_eq_self.mpr hback, List.nil_append]

theorem origin_ne_other (o : Origin) : ¬o = .other ↔ o = .call := by
  cases o <;> simp

theorem other_of_not_mem_call {l : List Origin} (h : l.count .call = 0) : ∀ o ∈ l, o = .other := by
  intro o ho
  cases o with
  | other => rfl
  | call => exact absurd ho (List.count_eq_zero.mp h)

/-- For a queue that started with `queued` bytes of others, got the bytes of `order` and lost `d`
at the front: its first bytes, as many as the call pushed, are the call's and the others are
not exactly when nothing mixed with the call's bytes and everything before them is gone. -/
theorem front_is_call_iff (queued d : ℕ) (order : List Origin) (hd : d ≤ queued + order.length)
    (hk : order.count .call ≤ ((List.replicate queued Origin.other ++ order).drop d).length) :
    let rest := (List.replicate queued Origin.other ++ order).drop d
    (∀ o ∈ rest.take (order.count .call), o = .call) ∧ (∀ o ∈ rest.drop (order.count .call), o = .other) ↔
      order.count .call = 0 ∨ ∃ before after,
        order = List.replicate before .other ++
          (List.replicate (order.count .call) .call ++ List.replicate after .other) ∧
        d = queued + before := by
  intro rest
  generalize hcount : order.count .call = k at hk ⊢
  constructor
  · rintro ⟨hfront,hback⟩
    by_cases hzero : k = 0
    · exact .inl hzero
    right
    have hrest : rest = List.replicate k .call ++ List.replicate (rest.length - k) .other := by
      rw [← List.eq_replicate_iff.mpr ⟨by rw [List.length_take_of_le hk],hfront⟩,
        ← List.eq_replicate_iff.mpr ⟨List.length_drop,hback⟩, List.take_append_drop]
    -- all bytes of the call are still there, so those that were drained are others'
    have hdrained : (List.replicate queued Origin.other ++ order).take d = List.replicate d .other := by
      have hall : (List.replicate queued Origin.other ++ order).count .call = k := by
        simp [List.count_replicate, hcount]
      have hkept : rest.count .call = k := by
        rw [hrest]
        simp [List.count_replicate]
      rw [← List.take_append_drop d (List.replicate queued Origin.other ++ order), List.count_append] at hall
      have hnone := other_of_not_mem_call (l := (List.replicate queued Origin.other ++ order).take d)
        (by change _ + rest.count .call = k at hall; omega)
      exact List.eq_replicate_iff.mpr ⟨by simp; omega,hnone⟩
    have hqueued : queued ≤ d := by
      by_contra hlt
      have hfirst : rest = List.replicate (queued - d) .other ++ order := by
        simp only [rest]
        rw [List.drop_append_of_le_length (by simp; omega), List.drop_replicate]
      obtain ⟨k,rfl⟩ := Nat.exists_eq_succ_of_ne_zero hzero
      obtain ⟨m,hm⟩ := Nat.exists_eq_succ_of_ne_zero (show queued - d ≠ 0 by omega)
      rw [hfirst, hm, List.replicate_succ] at hrest
      simp [List.replicate_succ] at hrest
    refine ⟨d - queued,rest.length - k,?_,by omega⟩
    have horder : order = (List.replicate queued Origin.other ++ order).drop queued := by
      rw [List.drop_left' List.length_replicate]
    rw [horder, ← List.take_append_drop d (List.replicate queued Origin.other ++ order), hdrained,
      List.drop_append_of_le_length (by simp; exact hqueued), List.drop_replicate]
    congr 1
  · rintro (rfl | ⟨before,after,horder,hdrain⟩)
    · refine ⟨by simp,fun o ho => ?_⟩
      have hmem := List.mem_of_mem_drop (List.mem_of_mem_drop ho)
      obtain hold | hnew := List.mem_append.mp hmem
      · exact List.eq_of_mem_replicate hold
      · exact other_of_not_mem_call hcount o hnew
    · have hrest : rest = List.replicate k .call ++ List.replicate after .other := by
        simp only [rest]
        rw [horder, hdrain, ← List.append_assoc, List.replicate_append_replicate,
          List.drop_left' List.length_replicate]
      rw [hrest, List.take_left' List.length_replicate, List.drop_left' List.length_replicate]
      exact ⟨fun o ho => List.eq_of_mem_replicate ho,fun o ho => List.eq_of_mem_replicate ho⟩

/-- The tagged machine: the bytes in the queue when the call starts belong to others. -/
def SendCall.startTagged (tx : Ringbuf UInt8) (payload : List UInt8) : SendCall (Origin × UInt8) :=
  start Prod.mk (tx.map (Prod.mk Origin.other)) payload

/-- The code: the machine with plain bytes. -/
def SendCall.startPlain (tx : Ringbuf UInt8) (payload : List UInt8) : SendCall UInt8 :=
  start (fun _ b => b) tx payload

namespace SendCall

/-- What holds between two steps, as long as no push has failed: the queue is a FIFO, the
counter counts the call's bytes and the bytes still to push are the call's. -/
structure CallInv (queued : ℕ) (es : List SendStep) (s : SendCall (Origin × UInt8)) : Prop where
  queue : s.tx.toList.map Prod.fst = (List.replicate queued Origin.other ++ pushOrder es).drop (drained es)
  drained : drained es ≤ queued + (pushOrder es).length
  pushed : s.pushed = (pushOrder es).count .call
  todo : ∀ c ∈ s.todo, c.1 = .call
  unfinished : s.result = none → s.todo ≠ []
  size : s.pushed + s.todo.length ≤ ringbufCapacity

theorem callInv_start (tx : Ringbuf UInt8) {payload : List UInt8}
    (h : payload.length ≤ maxEncodedMessageSize) :
    CallInv tx.toList.length [] (startTagged tx payload) where
  queue := by
    simp only [startTagged, start, Ringbuf.toList_map, pushOrder, WhadLib.drained, List.map_map,
      List.map_nil, List.flatten_nil, List.append_nil, List.sum_nil, List.drop_zero]
    exact List.map_const'
  drained := Nat.zero_le _
  pushed := rfl
  todo := by simp [startTagged, start]
  unfinished := by simp [startTagged, start, frame, frameHeader]
  size := by
    have hsum := maxEncodedMessageSize_add
    simp only [startTagged, start, List.length_map, frame_length]
    omega

/-- The queue of a tagged run after one more step that appends `os` and drains `k`. -/
theorem queue_concat {queued d k : ℕ} {order os : List Origin} (hd : d ≤ queued + order.length)
    (hk : k ≤ ((List.replicate queued Origin.other ++ order).drop d).length) :
    (List.replicate queued Origin.other ++ (order ++ os)).drop (d + k) =
      ((List.replicate queued Origin.other ++ order).drop d).drop k ++ os := by
  rw [List.length_drop, List.length_append, List.length_replicate] at hk
  have hle : d + k ≤ (List.replicate queued Origin.other ++ order).length := by
    rw [List.length_append, List.length_replicate]
    omega
  rw [← List.append_assoc, List.drop_append_of_le_length hle, List.drop_drop]

theorem pushOrder_concat (es : List SendStep) (e : SendStep) :
    pushOrder (es ++ [e]) = pushOrder es ++ e.origins := by simp [pushOrder]

theorem drained_concat (es : List SendStep) (e : SendStep) :
    WhadLib.drained (es ++ [e]) = WhadLib.drained es + e.drained := by simp [WhadLib.drained]

/-- A push of a call that has not returned appends one byte, or finds the ring full and skips
as many bytes as it has pushed. -/
theorem push_cases {α : Type*} {s : SendCall α} (h : s.result = none) :
    s.todo = [] ∧ s.push = s ∨
      ∃ b bs, s.todo = b :: bs ∧
        ((∃ tx, tx.toList = s.tx.toList ++ [b] ∧
            s.push = ⟨tx,bs,s.pushed+1,if bs = [] then some .success else none⟩) ∨
          s.tx.toList.length = ringbufCapacity ∧
            s.push = { s with tx := (s.tx.skip s.pushed).2, result := some .ringbufFull }) := by
  obtain ⟨tx,todo,pushed,result⟩ := s
  simp only at h
  subst h
  cases todo with
  | nil => exact .inl ⟨rfl,rfl⟩
  | cons b bs =>
    right
    refine ⟨b,bs,rfl,?_⟩
    obtain ⟨hres,hlt⟩ | ⟨_,hfull⟩ := tx.push_result b
    · left
      refine ⟨(tx.push b).2,(tx.push_of_lt b hlt).2,?_⟩
      cases hpush : tx.push b with
      | mk res tx' =>
        rw [hpush] at hres
        simp only at hres
        subst hres
        simp only [push, hpush]
    · right
      refine ⟨hfull,?_⟩
      simp only [push, tx.push_of_full b hfull]

theorem CallInv.step {queued : ℕ} {es : List SendStep} {s : SendCall (Origin × UInt8)}
    (h : CallInv queued es s) (e : SendStep) (hok : s.Ok e)
    (hres : (s.step Prod.mk e).result ≠ some .ringbufFull) :
    CallInv queued (es ++ [e]) (s.step Prod.mk e) := by
  have hlen : s.tx.toList.length = ((List.replicate queued Origin.other ++ pushOrder es).drop
      (WhadLib.drained es)).length := by
    rw [← h.queue, List.length_map]
  cases e with
  | push =>
    obtain ⟨hnil,_⟩ | ⟨b,bs,hbs,⟨tx,htx,hpush⟩ | ⟨_,hpush⟩⟩ := push_cases (show s.result = none from hok)
    · exact absurd hnil (h.unfinished hok)
    · have hcall : b.1 = .call := h.todo b (by simp [hbs])
      have hsize := h.size
      rw [hbs, List.length_cons] at hsize
      simp only [SendCall.step, hpush]
      constructor
      · rw [pushOrder_concat, drained_concat]
        simp only [SendStep.origins, SendStep.drained]
        rw [queue_concat h.drained (Nat.zero_le _), List.drop_zero, ← h.queue, htx]
        simp [hcall]
      · rw [pushOrder_concat, drained_concat, List.length_append]
        have hdrained := h.drained
        simp only [SendStep.drained]
        omega
      · rw [pushOrder_concat, List.count_append, ← h.pushed]
        rfl
      · exact fun c hc => h.todo c (by simp [hbs, hc])
      · rintro hnone rfl
        contradiction
      · simp only
        omega
    · simp [SendCall.step, hpush] at hres
  | drain size =>
    have hle : size ≤ s.tx.toList.length := by
      rw [Ringbuf.toList_length]
      exact hok.2
    constructor
    · rw [pushOrder_concat, drained_concat]
      simp only [SendStep.origins, SendStep.drained, SendCall.step]
      rw [queue_concat h.drained (by rw [← hlen]; exact hle), ← h.queue, (s.tx.skip_of_le size hle).2]
      simp
    · rw [pushOrder_concat, drained_concat, List.length_append]
      rw [hlen, List.length_drop] at hle
      have hdrained := h.drained
      simp only [List.length_append, List.length_replicate, SendStep.drained] at hle ⊢
      omega
    · rw [pushOrder_concat, List.count_append]
      exact h.pushed
    · exact h.todo
    · exact h.unfinished
    · exact h.size
  | queue payload =>
    obtain ⟨_,hpayload,hspace⟩ := hok
    have hroom := s.tx.toList_length_add_getFreeSize
    have hpush := (pushLoop_of_le ((frame payload).map (Prod.mk Origin.other)) s.tx 0
      (by rw [List.length_map, frame_length]; omega)).2.2
    constructor
    · rw [pushOrder_concat, drained_concat]
      simp only [SendStep.origins, SendStep.drained, SendCall.step]
      rw [queue_concat h.drained (Nat.zero_le _), List.drop_zero, ← h.queue, hpush, List.map_append,
        List.map_map, ← frame_length]
      congr 1
      exact List.map_const'
    · rw [pushOrder_concat, drained_concat, List.length_append]
      have hdrained := h.drained
      simp only [SendStep.drained]
      omega
    · rw [pushOrder_concat, List.count_append, ← h.pushed]
      simp [SendStep.origins, SendCall.step, List.count_replicate]
    · exact h.todo
    · exact h.unfinished
    · exact h.size

theorem callInv_run (tx : Ringbuf UInt8) {payload : List UInt8}
    (hpayload : payload.length ≤ maxEncodedMessageSize) (es : List SendStep)
    (h : Guarded (step Prod.mk) Ok (startTagged tx payload) es)
    (hres : (run (step Prod.mk) (startTagged tx payload) es).result ≠ some .ringbufFull) :
    CallInv tx.toList.length es (run (step Prod.mk) (startTagged tx payload) es) := by
  induction es using List.reverseRecOn with
  | nil => exact callInv_start tx hpayload
  | append_singleton es e ih =>
    rw [guarded_append, guarded_cons] at h
    rw [run_append, run_cons, run_nil] at hres ⊢
    obtain ⟨hes,hok,_⟩ := h
    have hnone : (run (step Prod.mk) (startTagged tx payload) es).result = none := by
      cases e with
      | push => exact hok
      | drain size => exact hok.1
      | queue payload => exact hok.1
    exact (ih hes (by simp [hnone])).step e hok hres

/-- Forgetting the origins turns the tagged machine into the code. -/
theorem run_startTagged (tx : Ringbuf UInt8) (payload : List UInt8) (es : List SendStep) :
    (run (step Prod.mk) (startTagged tx payload) es).map Prod.snd =
      run (step fun _ b => b) (startPlain tx payload) es := by
  have hstart : (startTagged tx payload).map Prod.snd = startPlain tx payload := by
    have hring : (tx.map (Prod.mk Origin.other)).map Prod.snd = tx := by
      rw [Ringbuf.map_map]
      exact tx.map_id
    simp [startTagged, startPlain, start, map, hring]
  have hstep (s : SendCall (Origin × UInt8)) (e : SendStep) :
      (step Prod.mk s e).map Prod.snd = step (fun _ b => b) (s.map Prod.snd) e :=
    step_map (fun _ _ => rfl) s e
  rw [run_map (map Prod.snd) hstep, hstart]

/-- Whether a schedule can happen, and what the call returns, does not depend on the tags. -/
theorem guarded_startTagged (tx : Ringbuf UInt8) (payload : List UInt8) (es : List SendStep) :
    Guarded (step Prod.mk) Ok (startTagged tx payload) es ↔
      Guarded (step fun _ b => b) Ok (startPlain tx payload) es := by
  induction es using List.reverseRecOn with
  | nil => exact Iff.rfl
  | append_singleton es e ih =>
    rw [guarded_append, guarded_append, guarded_cons, guarded_cons, ih, ← run_startTagged, ok_map]
    rfl

/-- The queue after a message of 1010 zero bytes was accepted: nine cells are free. -/
def oneFrameQueued : Ringbuf UInt8 where
  head := 1014
  tail := 0
  data := ((((Vector.replicate ringbufMaxSize 0).set 0 0xAC).set 1 0xBE).set 2 0xF2).set 3 0x03

/-- The rollback, for every content of the queue, every payload and every schedule of other
contexts between the pushes of the call. The tagged machine is the code with origins. When a
push fails, what is left in the queue is exactly what the other contexts left there, and no
byte of the failed frame, if and only if the call had pushed nothing, or nothing of the other
contexts stands before or between its bytes. -/
theorem rollback_iff (tx : Ringbuf UInt8) (payload : List UInt8)
    (hpayload : payload.length ≤ maxEncodedMessageSize) (es : List SendStep)
    (h : Guarded (step fun _ b => b) Ok (startPlain tx payload) (es ++ [.push]))
    (hfull : (run (step fun _ b => b) (startPlain tx payload) (es ++ [.push])).result = some .ringbufFull) :
    let before := run (step Prod.mk) (startTagged tx payload) es
    let after := run (step Prod.mk) (startTagged tx payload) (es ++ [.push])
    after.map Prod.snd = run (step fun _ b => b) (startPlain tx payload) (es ++ [.push]) ∧
      (after.tx.toList = before.tx.toList.filter (fun c => c.1 = .other) ↔
        RollbackExact tx.toList.length es) := by
  intro before after
  refine ⟨run_startTagged tx payload _,?_⟩
  rw [← run_startTagged] at hfull
  obtain ⟨hes,hok,_⟩ := (guarded_append _ _ _ _ _).mp ((guarded_startTagged tx payload _).mpr h)
  have hnone : before.result = none := hok
  have hinv : CallInv tx.toList.length es before := callInv_run tx hpayload es hes (by
    change before.result ≠ _
    simp [hnone])
  have hafter : after = before.push := by
    simp only [after, before]
    rw [run_append]
    rfl
  obtain ⟨hnil,_⟩ | ⟨b,bs,hbs,⟨tx',_,hpush⟩ | ⟨hring,hpush⟩⟩ := push_cases hnone
  · exact absurd hnil (hinv.unfinished hnone)
  · -- a push that succeeds does not return `ringbufFull`
    change after.result = _ at hfull
    rw [hafter, hpush] at hfull
    simp only at hfull
    split at hfull <;> simp at hfull
  · have hsize := hinv.size
    rw [hbs, List.length_cons, hinv.pushed] at hsize
    have hskip := (before.tx.skip_of_le before.pushed (by rw [hring, hinv.pushed]; omega)).2
    have hlen : ((List.replicate tx.toList.length Origin.other ++ pushOrder es).drop
        (WhadLib.drained es)).length = ringbufCapacity := by
      rw [← hinv.queue, List.length_map, hring]
    have hfront := front_is_call_iff tx.toList.length (WhadLib.drained es) (pushOrder es) hinv.drained
      (by rw [hlen]; omega)
    simp only [← hinv.queue, ← List.map_take, ← List.map_drop] at hfront
    rw [hafter, hpush]
    simp only
    rw [hskip, drop_eq_filter_iff, hinv.pushed]
    refine Iff.trans ?_ hfront
    simp only [List.forall_mem_map, decide_eq_true_eq, origin_ne_other]

theorem rollback_iff_one_frame_queued :
    let es : List SendStep := [.push,.queue [0,0,0,0]]
    let before := run (step Prod.mk) (startTagged oneFrameQueued [0]) es
    let after := run (step Prod.mk) (startTagged oneFrameQueued [0]) (es ++ [.push])
    after.tx.toList = before.tx.toList.filter (fun c => c.1 = .other) ↔
      RollbackExact oneFrameQueued.toList.length es :=
  (rollback_iff oneFrameQueued [0] (by decide) [.push,.queue [0,0,0,0]] (by decide +kernel)
    (by decide +kernel)).2

/-- With one frame queued, the call pushes its first byte, another context queues a frame that
fills the ring, and the next push fails. The rollback removes the first byte of the
earlier frame. -/
theorem rollback_loses_earlier_byte :
    let es : List SendStep := [.push,.queue [0,0,0,0]]
    let before := run (step Prod.mk) (startTagged oneFrameQueued [0]) es
    let after := run (step Prod.mk) (startTagged oneFrameQueued [0]) (es ++ [.push])
    frameHeaderSize + [(0 : UInt8)].length ≤ oneFrameQueued.getFreeSize ∧
      Guarded (step fun _ b => b) Ok (startPlain oneFrameQueued [0]) (es ++ [.push]) ∧
      after.result = some .ringbufFull ∧
      oneFrameQueued.toList.head? = some 0xAC ∧ after.tx.toList.head? = some (.other,0xBE) ∧
      after.tx.toList ≠ before.tx.toList.filter fun c => c.1 = .other := by
  intro es before after
  have hbefore : (before.tx.toList.filter fun c => c.1 = .other).head? = some (.other,0xAC) := by
    decide +kernel
  have hafter : after.tx.toList.head? = some (.other,0xBE) := by decide +kernel
  refine ⟨by decide +kernel,by decide +kernel,by decide +kernel,by decide +kernel,hafter,fun h => ?_⟩
  rw [h, hbefore] at hafter
  simp at hafter

end SendCall
end WhadLib
