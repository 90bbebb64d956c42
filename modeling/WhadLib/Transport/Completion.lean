import WhadLib.Transport
import WhadLib.Library.StepSystem

/-! Sending with asynchronous completion. The send callback, an interrupt or a co-routine may
call the library while a call of `whad_transport_send_pending` is under way, so the call is
split into its steps. Every call in progress is a context with its own program counter; the
contexts take their steps in any order. A frame is queued in one step: what happens when the
push loop itself is interrupted is the subject of `WhadLib.Transport.Rollback`. -/
namespace WhadLib
open Library

/-- Where a context stands. A step of `whad_transport_send_pending` carries the payload of the
`whad_transport_send_message` that waits for space, if there is one, and, once it is computed,
`buf_size`. -/
inductive Phase
  | out
  | enter (payload : List UInt8)
  | test (waiting : Option (List UInt8))
  | measure (waiting : Option (List UInt8))
  | copy (waiting : Option (List UInt8)) (bufSize : ℕ)
  | setSending (waiting : Option (List UInt8)) (bufSize : ℕ)
  | invoke (waiting : Option (List UInt8)) (bufSize : ℕ)
  | skip (waiting : Option (List UInt8)) (bufSize : ℕ)
  | retry (payload : List UInt8)
  deriving DecidableEq

namespace Phase

/-- `whad_transport_send_pending` returns to its caller. -/
def back : Option (List UInt8) → Phase
  | none => .out
  | some payload => .retry payload

/-- The context has copied bytes of the queue that it has not removed yet. -/
def holds : Phase → Bool
  | .setSending _ _ => true
  | .invoke _ _ => true
  | .skip _ _ => true
  | _ => false

@[simp] theorem holds_back (waiting : Option (List UInt8)) : (back waiting).holds = false := by
  cases waiting <;> rfl

end Phase

/-- The transport with the static buffer of `whad_transport_send_pending`, the buffers handed to
the callback, the payloads queued, and the contexts. -/
structure TxShared where
  state : TransportState
  txBuf : Ringbuf UInt8
  scratch : List UInt8
  handed : List (List UInt8)
  queued : List (List UInt8)
  phase : ℕ → Phase

inductive TxEvent
  | sendPending (context : ℕ)
  | sendMessage (context : ℕ) (payload : List UInt8)
  | advance (context : ℕ)
  | dataSent

/-- The context that takes the step; a completion notice belongs to none. -/
def TxEvent.context : TxEvent → Option ℕ
  | .sendPending context => some context
  | .sendMessage context _ => some context
  | .advance context => some context
  | .dataSent => none

namespace TxShared
variable (cfg : TransportCfg) (s : TxShared)

def goto (context : ℕ) (p : Phase) : TxShared := { s with phase := Function.update s.phase context p }

/-- The second half of `whad_transport_send_message`: with room the frame is queued, without
it the call fails. -/
def queueFrame (context : ℕ) (payload : List UInt8) : TxShared :=
  if payload.length + frameHeaderSize ≤ s.txBuf.getFreeSize then
    { s.goto context .out with
      txBuf := (pushLoop s.txBuf 0 (frame payload)).2.2
      queued := s.queued ++ [payload] }
  else s.goto context .out

/-- The next step of a context. -/
def advance (context : ℕ) : TxShared :=
  match s.phase context with
  | .out => s
  | .enter payload =>
    if payload.length + frameHeaderSize ≤ s.txBuf.getFreeSize then s.queueFrame context payload
    else if s.state = .idle then s.goto context (.test (some payload))
    else s.goto context (.retry payload)
  | .test waiting =>
    if s.state ≠ .idle then s.goto context (.back waiting)
    else if cfg.pfnDataSendBuffer then s.goto context (.measure waiting)
    else s.goto context (.back waiting)
  | .measure waiting =>
    if 0 < s.txBuf.getSize then
      s.goto context (.copy waiting
        (if cfg.maxTxbufSize < s.txBuf.getSize then cfg.maxTxbufSize else s.txBuf.getSize))
    else s.goto context (.back waiting)
  | .copy waiting bufSize =>
    match s.txBuf.copy bufSize with
    | (.success, buffer) =>
      -- what the copy does not cover of the static buffer stays
      { s.goto context (.setSending waiting bufSize) with scratch := buffer ++ s.scratch.drop buffer.length }
    | _ => s.goto context (.back waiting)
  | .setSending waiting bufSize => { s.goto context (.invoke waiting bufSize) with state := .sending }
  | .invoke waiting bufSize =>
    { s.goto context (.skip waiting bufSize) with handed := s.handed ++ [s.scratch.take bufSize] }
  | .skip waiting bufSize => { s.goto context (.back waiting) with txBuf := (s.txBuf.skip bufSize).2 }
  | .retry payload => s.queueFrame context payload

/-- A context starts a call when it has none in progress. -/
def call (context : ℕ) (p : Phase) : TxShared :=
  if s.phase context = .out then s.goto context p else s

def step : TxEvent → TxShared
  | .sendPending context => s.call context (.test none)
  | .sendMessage context payload => s.call context (.enter payload)
  | .advance context => s.advance cfg context
  | .dataSent => if s.state = .sending then { s with state := .idle } else s

/-- No `whad_transport_send_pending` copies bytes out of the queue while another one has still
to remove the bytes it copied. -/
def Ok : TxEvent → Prop
  | .advance context => ∀ waiting bufSize, s.phase context = .copy waiting bufSize →
      (s.txBuf.copy bufSize).1 = .success → ∀ other, (s.phase other).holds = false
  | _ => True

/-- The bytes of all frames queued. -/
def frames : List UInt8 := (s.queued.map frame).flatten

/-- Nothing sent twice and nothing lost, seen in the middle of the calls: no context holds
bytes; or one holds a copy it has not handed over; or one has handed over bytes that are still
in the queue. -/
inductive Conserved : Prop
  | quiet (hnone : ∀ i, (s.phase i).holds = false)
      (hstream : s.handed.flatten ++ s.txBuf.toList = s.frames)
  | copied (i : ℕ) (waiting : Option (List UInt8)) (n : ℕ)
      (hphase : s.phase i = .setSending waiting n ∨ s.phase i = .invoke waiting n)
      (hothers : ∀ j ≠ i, (s.phase j).holds = false) (hle : n ≤ s.txBuf.toList.length)
      (hscratch : s.scratch.take n = s.txBuf.toList.take n)
      (hstream : s.handed.flatten ++ s.txBuf.toList = s.frames)
  | owed (i : ℕ) (waiting : Option (List UInt8)) (n : ℕ) (hphase : s.phase i = .skip waiting n)
      (hothers : ∀ j ≠ i, (s.phase j).holds = false) (hle : n ≤ s.txBuf.toList.length)
      (hstream : s.handed.flatten ++ s.txBuf.toList.drop n = s.frames)

variable {s}

/-- A step of a context that holds no bytes keeps the conservation as long as it only appends
whole frames to the queue. -/
theorem Conserved.of_append {s' : TxShared} {context : ℕ} {p : Phase} (payloads : List (List UInt8))
    (h : s.Conserved) (hbefore : (s.phase context).holds = false) (hafter : p.holds = false)
    (hphase : s'.phase = Function.update s.phase context p) (hscratch : s'.scratch = s.scratch)
    (hhanded : s'.handed = s.handed) (hqueued : s'.queued = s.queued ++ payloads)
    (htx : s'.txBuf.toList = s.txBuf.toList ++ (payloads.map frame).flatten) : s'.Conserved := by
  have hframes : s'.frames = s.frames ++ (payloads.map frame).flatten := by
    simp [frames, hqueued]
  have hkeep (i : ℕ) (hi : (s.phase i).holds = true) : s'.phase i = s.phase i := by
    rw [hphase, Function.update_of_ne]
    rintro rfl
    rw [hbefore] at hi
    contradiction
  have hfree (i : ℕ) (hi : (s.phase i).holds = false) : (s'.phase i).holds = false := by
    rw [hphase]
    by_cases hc : i = context
    · subst hc
      rw [Function.update_self, hafter]
    · rw [Function.update_of_ne hc, hi]
  cases h with
  | quiet hnone hstream =>
    refine .quiet (fun i => hfree i (hnone i)) ?_
    rw [hhanded, htx, hframes, ← List.append_assoc, hstream]
  | copied i waiting n hi hothers hle hcopy hstream =>
    have hsame := hkeep i (by cases hi with | inl h => rw [h]; rfl | inr h => rw [h]; rfl)
    refine .copied i waiting n (by rw [hsame]; exact hi) (fun j hj => hfree j (hothers j hj)) ?_ ?_ ?_
    · rw [htx, List.length_append]
      omega
    · rw [hscratch, hcopy, htx, List.take_append_of_le_length hle]
    · rw [hhanded, htx, hframes, ← List.append_assoc, hstream]
  | owed i waiting n hi hothers hle hstream =>
    have hsame := hkeep i (by rw [hi]; rfl)
    refine .owed i waiting n (by rw [hsame, hi]) (fun j hj => hfree j (hothers j hj)) ?_ ?_
    · rw [htx, List.length_append]
      omega
    · rw [hhanded, htx, hframes, List.drop_append_of_le_length hle, ← List.append_assoc, hstream]

theorem Conserved.goto {context : ℕ} {p : Phase} (h : s.Conserved)
    (hbefore : (s.phase context).holds = false) (hafter : p.holds = false) :
    (s.goto context p).Conserved :=
  h.of_append [] hbefore hafter rfl rfl rfl (by simp [TxShared.goto]) (by simp [TxShared.goto])

theorem Conserved.queueFrame {context : ℕ} (h : s.Conserved)
    (hbefore : (s.phase context).holds = false) (payload : List UInt8) :
    (s.queueFrame context payload).Conserved := by
  unfold TxShared.queueFrame
  split
  · rename_i hroom
    have hcap := s.txBuf.toList_length_add_getFreeSize
    have hpush := (pushLoop_of_le (frame payload) s.txBuf 0 (by rw [frame_length]; omega)).2.2
    exact h.of_append [payload] hbefore rfl rfl rfl rfl rfl (by simp [hpush])
  · exact h.goto hbefore rfl

/-- The completion notice touches the state only. -/
theorem Conserved.dataSent (h : s.Conserved) (st : TransportState) :
    Conserved { s with state := st } := by
  cases h with
  | quiet hnone hstream => exact .quiet hnone hstream
  | copied i waiting n hphase hothers hle hscratch hstream =>
    exact .copied i waiting n hphase hothers hle hscratch hstream
  | owed i waiting n hphase hothers hle hstream => exact .owed i waiting n hphase hothers hle hstream

/-- A context that holds bytes is the one the conservation speaks about. -/
theorem eq_of_holds {i j : ℕ} (hi : (s.phase i).holds = true)
    (hothers : ∀ k ≠ j, (s.phase k).holds = false) : i = j := by
  by_contra hne
  rw [hothers i hne] at hi
  contradiction

theorem update_holds {i j : ℕ} (p : Phase) (hj : j ≠ i) (h : (s.phase j).holds = false) :
    (Function.update s.phase i p j).holds = false := by
  rw [Function.update_of_ne hj, h]

/-- When no context holds bytes, all of them are handed over or queued. -/
theorem Conserved.stream_of_none (h : s.Conserved) (hnone : ∀ i, (s.phase i).holds = false) :
    s.handed.flatten ++ s.txBuf.toList = s.frames := by
  cases h with
  | quiet _ hstream => exact hstream
  | copied _ _ _ _ _ _ _ hstream => exact hstream
  | owed i waiting n hi _ _ _ =>
    have hholds := hnone i
    rw [hi] at hholds
    contradiction

/-- Before the callback is invoked, the static buffer is the front of the queue. -/
theorem Conserved.of_copied {context : ℕ} {waiting : Option (List UInt8)} {n : ℕ} (h : s.Conserved)
    (hphase : s.phase context = .setSending waiting n ∨ s.phase context = .invoke waiting n) :
    (∀ j ≠ context, (s.phase j).holds = false) ∧ n ≤ s.txBuf.toList.length ∧
      s.scratch.take n = s.txBuf.toList.take n ∧ s.handed.flatten ++ s.txBuf.toList = s.frames := by
  have hholds : (s.phase context).holds = true := by
    obtain hphase | hphase := hphase <;> rw [hphase] <;> rfl
  cases h with
  | quiet hnone _ =>
    rw [hnone context] at hholds
    contradiction
  | owed i _ _ hi hothers _ _ =>
    rw [eq_of_holds hholds hothers, hi] at hphase
    simp at hphase
  | copied i waiting' n' hi hothers hle hscratch hstream =>
    obtain rfl := eq_of_holds hholds hothers
    obtain rfl : n = n' := by
      obtain hphase | hphase := hphase <;> rw [hphase] at hi <;> simp at hi <;> exact hi.2
    exact ⟨hothers,hle,hscratch,hstream⟩

/-- After it, the bytes handed over are still in the queue. -/
theorem Conserved.of_owed {context : ℕ} {waiting : Option (List UInt8)} {n : ℕ} (h : s.Conserved)
    (hphase : s.phase context = .skip waiting n) :
    (∀ j ≠ context, (s.phase j).holds = false) ∧ n ≤ s.txBuf.toList.length ∧
      s.handed.flatten ++ s.txBuf.toList.drop n = s.frames := by
  have hholds : (s.phase context).holds = true := by rw [hphase]; rfl
  cases h with
  | quiet hnone _ =>
    rw [hnone context] at hholds
    contradiction
  | copied i _ _ hi hothers _ _ _ =>
    obtain rfl := eq_of_holds hholds hothers
    rw [hphase] at hi
    simp at hi
  | owed i waiting' n' hi hothers hle hstream =>
    obtain rfl := eq_of_holds hholds hothers
    rw [hphase] at hi
    obtain ⟨_,rfl⟩ : waiting = waiting' ∧ n = n' := by simpa using hi
    exact ⟨hothers,hle,hstream⟩

theorem Conserved.advance {context : ℕ} (h : s.Conserved) (hok : s.Ok (.advance context)) :
    (s.advance cfg context).Conserved := by
  cases hphase : s.phase context with
  | out =>
    simp only [TxShared.advance, hphase]
    exact h
  | enter payload =>
    simp only [TxShared.advance, hphase]
    split
    · exact h.queueFrame (by rw [hphase]; rfl) payload
    · split <;> exact h.goto (by rw [hphase]; rfl) rfl
  | test waiting =>
    simp only [TxShared.advance, hphase]
    split
    · exact h.goto (by rw [hphase]; rfl) (Phase.holds_back waiting)
    · split
      · exact h.goto (by rw [hphase]; rfl) rfl
      · exact h.goto (by rw [hphase]; rfl) (Phase.holds_back waiting)
  | measure waiting =>
    simp only [TxShared.advance, hphase]
    split
    · exact h.goto (by rw [hphase]; rfl) rfl
    · exact h.goto (by rw [hphase]; rfl) (Phase.holds_back waiting)
  | retry payload =>
    simp only [TxShared.advance, hphase]
    exact h.queueFrame (by rw [hphase]; rfl) payload
  | copy waiting n =>
    simp only [TxShared.advance, hphase]
    by_cases hle : n ≤ s.txBuf.toList.length
    · -- nobody holds bytes, so the copy is the first one of what is queued
      have hcopy := s.txBuf.copy_of_le n hle
      have hnone := hok waiting n hphase (by rw [hcopy])
      have hstream := h.stream_of_none hnone
      have hlen : (s.txBuf.toList.take n).length = n := by rw [List.length_take, Nat.min_eq_left hle]
      rw [hcopy]
      refine .copied context waiting n (.inl (Function.update_self _ _ _)) ?_ hle ?_ hstream
      · exact fun j hj => update_holds _ hj (hnone j)
      · exact List.take_left' hlen
    · rw [s.txBuf.copy_of_lt n (by omega)]
      exact h.goto (by rw [hphase]; rfl) (Phase.holds_back waiting)
  | setSending waiting n =>
    obtain ⟨hothers,hle,hscratch,hstream⟩ := h.of_copied (.inl hphase)
    simp only [TxShared.advance, hphase]
    refine .copied context waiting n (.inr (Function.update_self _ _ _)) ?_ hle hscratch hstream
    exact fun j hj => update_holds _ hj (hothers j hj)
  | invoke waiting n =>
    obtain ⟨hothers,hle,hscratch,hstream⟩ := h.of_copied (.inr hphase)
    simp only [TxShared.advance, hphase]
    refine .owed context waiting n (Function.update_self _ _ _) ?_ hle ?_
    · exact fun j hj => update_holds _ hj (hothers j hj)
    · -- the bytes handed over and the bytes still owed are the front of the queue
      have hsplit := List.take_append_drop n s.txBuf.toList
      rw [← hscratch] at hsplit
      change (s.handed ++ [s.scratch.take n]).flatten ++ s.txBuf.toList.drop n = s.frames
      rw [List.flatten_append, List.flatten_singleton, List.append_assoc, hsplit, hstream]
  | skip waiting n =>
    obtain ⟨hothers,hle,hstream⟩ := h.of_owed hphase
    simp only [TxShared.advance, hphase]
    refine .quiet (fun j => ?_) ?_
    · change (Function.update s.phase context (.back waiting) j).holds = false
      by_cases hj : j = context
      · rw [hj, Function.update_self, Phase.holds_back]
      · exact update_holds _ hj (hothers j hj)
    · change s.handed.flatten ++ (s.txBuf.skip n).2.toList = s.frames
      rw [(s.txBuf.skip_of_le n hle).2, hstream]

theorem Conserved.call {context : ℕ} {p : Phase} (h : s.Conserved) (hp : p.holds = false) :
    (s.call context p).Conserved := by
  unfold TxShared.call
  split
  · rename_i hout
    exact h.goto (by rw [hout]; rfl) hp
  · exact h

theorem Conserved.step (s : TxShared) (e : TxEvent) (h : s.Conserved) (hok : s.Ok e) :
    (s.step cfg e).Conserved := by
  cases e with
  | sendPending context => exact h.call rfl
  | sendMessage context payload => exact h.call rfl
  | advance context => exact h.advance cfg hok
  | dataSent =>
    simp only [TxShared.step]
    split
    · exact h.dataSent .idle
    · exact h

/-- After `whad_transport_init`: nothing queued, no call in progress. -/
def start (t : Transport) (cfg : TransportCfg) : TxShared where
  state := .idle
  txBuf := (t.init cfg).txBuf
  scratch := List.replicate ringbufMaxSize 0
  handed := []
  queued := []
  phase := fun _ => .out

theorem conserved_start (t : Transport) (cfg : TransportCfg) : (start t cfg).Conserved :=
  .quiet (fun _ => rfl) (by simp [start, frames, Transport.init])

/-- The transport of the sequential model, without the contexts. -/
def toTransport (s : TxShared) (cfg : TransportCfg) (rxBuf : Ringbuf UInt8) : Transport :=
  ⟨s.state,rxBuf,s.txBuf,cfg,s.handed⟩

/-- A call of `whad_transport_send_pending` that nothing interrupts is the call of the
sequential model. -/
theorem run_sendPending (s : TxShared) (rxBuf : Ringbuf UInt8) {context : ℕ}
    (hout : s.phase context = .out) :
    let s' := run (step cfg) s (.sendPending context :: List.replicate 6 (.advance context))
    s'.phase = s.phase ∧ s'.toTransport cfg rxBuf = (s.toTransport cfg rxBuf).sendPending.2 := by
  have hback : Function.update s.phase context .out = s.phase := by
    rw [← hout, Function.update_eq_self]
  by_cases hstate : s.state = .idle
  · by_cases hcb : cfg.pfnDataSendBuffer = true
    · by_cases hsize : 0 < s.txBuf.getSize
      · have hle : (if cfg.maxTxbufSize < s.txBuf.getSize then cfg.maxTxbufSize else s.txBuf.getSize) ≤
            s.txBuf.toList.length := by
          rw [Ringbuf.toList_length]
          split <;> omega
        have hcopy := s.txBuf.copy_of_le _ hle
        simp [step, call, hout, advance, goto, hstate, hcb, hsize, hcopy, toTransport,
          Transport.sendPending, Phase.back, hback]
        exact List.take_left' (by rw [List.length_take, Nat.min_eq_left hle])
      · simp [step, call, hout, advance, goto, hstate, hcb, hsize, toTransport,
          Transport.sendPending, Phase.back, hback]
    · simp [step, call, hout, advance, goto, hstate, hcb, toTransport, Transport.sendPending,
        Phase.back, hback]
  · simp [step, call, hout, advance, goto, hstate, toTransport, Transport.sendPending, Phase.back,
      hback]

theorem queueFrame_phase_of_ne (s : TxShared) {context j : ℕ} (hj : j ≠ context) (payload : List UInt8) :
    (s.queueFrame context payload).phase j = s.phase j := by
  unfold queueFrame
  split <;> simp [goto, hj]

/-- A step moves the program counter of its own context only. -/
theorem step_phase_of_ne (s : TxShared) {e : TxEvent} {j : ℕ} (hj : e.context ≠ some j) :
    (s.step cfg e).phase j = s.phase j := by
  cases e with
  | dataSent =>
    simp only [step]
    split <;> rfl
  | sendPending context =>
    have hne : j ≠ context := fun h => hj (by rw [h]; rfl)
    simp only [step, call]
    split <;> simp [goto, hne]
  | sendMessage context payload =>
    have hne : j ≠ context := fun h => hj (by rw [h]; rfl)
    simp only [step, call]
    split <;> simp [goto, hne]
  | advance context =>
    have hne : j ≠ context := fun h => hj (by rw [h]; rfl)
    simp only [step, advance]
    split
    · rfl
    · split
      · exact s.queueFrame_phase_of_ne hne _
      · split <;> simp [goto, hne]
    · split
      · simp [goto, hne]
      · split <;> simp [goto, hne]
    · split <;> simp [goto, hne]
    · split <;> simp [goto, hne]
    · simp [goto, hne]
    · simp [goto, hne]
    · simp [goto, hne]
    · exact s.queueFrame_phase_of_ne hne _

theorem run_phase_of_ne (s : TxShared) {es : List TxEvent} {j : ℕ} (hj : ∀ e ∈ es, e.context ≠ some j) :
    (run (step cfg) s es).phase j = s.phase j := by
  induction es generalizing s with
  | nil => rfl
  | cons e es ih =>
    rw [run_cons, ih _ fun e' he' => hj e' (by simp [he']), s.step_phase_of_ne cfg (hj e (by simp))]

/-- Calls that are made one after the other meet the condition, wherever the completion
notices come. -/
theorem guarded_of_one_context (context : ℕ) {s : TxShared} {es : List TxEvent}
    (hs : ∀ j ≠ context, s.phase j = .out)
    (hes : ∀ e ∈ es, e.context = none ∨ e.context = some context) : Guarded (step cfg) Ok s es := by
  induction es generalizing s with
  | nil => trivial
  | cons e es ih =>
    have he := hes e (by simp)
    refine ⟨?_,ih (fun j hj => ?_) fun e' he' => hes e' (by simp [he'])⟩
    · cases e with
      | advance i =>
        obtain rfl : i = context := by simpa [TxEvent.context] using he
        intro waiting n hcopy _ other
        by_cases ho : other = i
        · rw [ho, hcopy]
          rfl
        · rw [hs other ho]
          rfl
      | sendPending i => trivial
      | sendMessage i payload => trivial
      | dataSent => trivial
    · rw [s.step_phase_of_ne cfg, hs j hj]
      intro hcontext
      rw [hcontext] at he
      simp only [Option.some.injEq, reduceCtorEq, false_or] at he
      exact hj he

/-- Exactly once under asynchronous completion, for every order of steps of any number of
calls, as long as no call copies bytes out of the queue while another call has still to remove
the bytes it copied: when all calls have returned, the bytes handed over and the bytes queued
are the frames queued so far. -/
theorem completion_conserves (t : Transport) (cfg : TransportCfg) (es : List TxEvent)
    (h : Guarded (step cfg) Ok (start t cfg) es) :
    let s := run (step cfg) (start t cfg) es
    s.Conserved ∧ ((∀ i, s.phase i = .out) → s.handed.flatten ++ s.txBuf.toList = s.frames) := by
  intro s
  have hconserved : s.Conserved := h.invariant (Conserved.step cfg) (conserved_start t cfg)
  refine ⟨hconserved,fun hout => ?_⟩
  cases hconserved with
  | quiet _ hstream => exact hstream
  | copied i _ _ hi _ _ _ _ => simp [hout i] at hi
  | owed i _ _ hi _ _ _ => simp [hout i] at hi

/-- Two chunks; the callback of the first reports completion at once, as the documentation
shows, and the second call starts after the first has returned. -/
theorem completion_conserves_two_chunks :
    let es : List TxEvent := [.sendMessage 0 [1,2,3,4],.advance 0,.sendPending 0,.advance 0,.advance 0,
      .advance 0,.advance 0,.advance 0,.dataSent,.advance 0,.sendPending 0,.advance 0,.advance 0,.advance 0,
      .advance 0,.advance 0,.advance 0]
    (run (step ⟨4,true⟩) (start gwTransport ⟨4,true⟩) es).Conserved := by
  intro es
  exact (completion_conserves gwTransport ⟨4,true⟩ es
    (guarded_of_one_context _ 0 (fun _ _ => rfl) (by decide))).1

/-- The same frame, but the second call runs between the first one's callback and its skip,
after the callback reported completion. The header goes out twice and the payload is lost. -/
theorem nested_send_repeats_header :
    let es : List TxEvent := [.sendMessage 0 [1,2,3,4],.advance 0,.sendPending 0,.advance 0,.advance 0,
      .advance 0,.advance 0,.advance 0,.dataSent,.sendPending 1,.advance 1,.advance 1,.advance 1,
      .advance 1,.advance 1,.advance 1,.advance 0]
    let s := run (step ⟨4,true⟩) (start gwTransport ⟨4,true⟩) es
    (∀ i, s.phase i = .out) ∧ s.handed = [[0xAC,0xBE,4,0],[0xAC,0xBE,4,0]] ∧ s.txBuf.toList = [] ∧
      s.frames = [0xAC,0xBE,4,0,1,2,3,4] ∧ s.handed.flatten ++ s.txBuf.toList ≠ s.frames := by
  intro es s
  have hout (i : ℕ) : s.phase i = .out := by
    by_cases h0 : i = 0
    · subst h0
      decide +kernel
    by_cases h1 : i = 1
    · subst h1
      decide +kernel
    · refine run_phase_of_ne _ _ fun e he hcontext => ?_
      have hused : ∀ e ∈ es, e.context = none ∨ e.context = some 0 ∨ e.context = some 1 := by decide
      have hi := hused e he
      rw [hcontext] at hi
      simp [h0, h1] at hi
  exact ⟨hout,by decide +kernel,by decide +kernel,by decide +kernel,by decide +kernel⟩

end TxShared
end WhadLib
