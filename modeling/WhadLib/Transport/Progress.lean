import WhadLib.Transport.Conservation

/-! Progress on the sending side: when exactly a message is accepted, and how many completed
chunks it takes until the queue is empty and every message is accepted again. -/
namespace WhadLib
open Library

namespace Transport
variable (t : Transport)

/-- From `idle`, with a callback and bytes queued, one chunk goes out. -/
theorem sendPending_of_pos (hstate : t.state = .idle) (hcb : t.config.pfnDataSendBuffer = true)
    (hpos : 0 < t.txBuf.toList.length) :
    t.sendPending.1 = .success ∧ t.sendPending.2.txBuf.toList = t.txBuf.toList.drop t.chunkSize ∧
      t.sendPending.2.state = .sending := by
  rcases t.sendPending_cases with ⟨hno,_⟩ | ⟨hok,_,_,_,hnew⟩
  · exfalso
    have hsize : 0 < t.txBuf.getSize := by rwa [← Ringbuf.toList_length]
    have hchunk : (if t.config.maxTxbufSize < t.txBuf.getSize then t.config.maxTxbufSize
        else t.txBuf.getSize) ≤ t.txBuf.toList.length := by
      rw [Ringbuf.toList_length]
      split <;> omega
    have hcopy := t.txBuf.copy_of_le _ hchunk
    simp [sendPending, hstate, hcb, hsize, hcopy] at hno
  · rw [hnew]
    exact ⟨hok,(t.txBuf.skip_of_le _ (Nat.min_le_left _ _)).2,rfl⟩

/-- From `idle` with an empty queue there is nothing to send. -/
theorem sendPending_of_empty (hstate : t.state = .idle) (hcb : t.config.pfnDataSendBuffer = true)
    (hnil : t.txBuf.toList = []) : t.sendPending = (.ringbufEmpty, t) := by
  have hsize : ¬0 < t.txBuf.getSize := by rw [← Ringbuf.toList_length, hnil]; simp
  simp [sendPending, hstate, hcb, hsize]

/-- What is left in the queue when waiting for space has tried to send. -/
theorem sendPending_length (hstate : t.state = .idle) (hcb : t.config.pfnDataSendBuffer = true) :
    t.sendPending.2.txBuf.toList.length + min t.txBuf.toList.length t.config.maxTxbufSize =
      t.txBuf.toList.length := by
  rcases Nat.eq_zero_or_pos t.txBuf.toList.length with hzero | hpos
  · simp [t.sendPending_of_empty hstate hcb (List.length_eq_zero_iff.mp hzero), hzero]
  · rw [(t.sendPending_of_pos hstate hcb hpos).2.1, List.length_drop, chunkSize]
    omega

/-- There is room for `size` bytes, at once or after one chunk has gone out. -/
def HasRoom (size : ℕ) : Prop :=
  size ≤ t.txBuf.getFreeSize ∨
    t.state = .idle ∧ size ≤ t.txBuf.getFreeSize + min t.txBuf.toList.length t.config.maxTxbufSize

instance (size : ℕ) : Decidable (t.HasRoom size) := inferInstanceAs (Decidable (_ ∨ _))

/-- Waiting for space succeeds exactly when there is room. -/
theorem waitTxSpace_iff (hcb : t.config.pfnDataSendBuffer = true) (size : ℕ) :
    (t.waitTxSpace size).1 = if t.HasRoom size then .success else .ringbufFull := by
  unfold waitTxSpace HasRoom
  by_cases hfree : size ≤ t.txBuf.getFreeSize
  · simp [hfree]
  · rw [if_neg hfree]
    by_cases hstate : t.state = .idle
    · have hsent := t.sendPending_length hstate hcb
      have hold := t.txBuf.toList_length_add_getFreeSize
      have hnew := t.sendPending.2.txBuf.toList_length_add_getFreeSize
      have hroom : size ≤ t.sendPending.2.txBuf.getFreeSize ↔
          size ≤ t.txBuf.getFreeSize + min t.txBuf.toList.length t.config.maxTxbufSize := by omega
      simp only [hstate, if_true, hfree, false_or, true_and, hroom]
      split <;> rfl
    · simp [hstate, hfree]

/-- Once there is space the frame is queued: for a legal message waiting for space decides. -/
theorem sendMessage_result_eq_wait {message : Option (ℕ → UInt8)} {size : ℤ} (h : Sendable message size) :
    (t.sendMessage message size).1 = (t.waitTxSpace (size.toNat + frameHeaderSize)).1 := by
  obtain ⟨hlow,hhigh,hnull⟩ := h
  have hpointer : ¬(message.isNone = true ∧ 0 < size) := by
    rintro ⟨hnone,hpos⟩
    have hzero := hnull (Option.isNone_iff_eq_none.mp hnone)
    omega
  have hrange : ¬(size < 0 ∨ (maxEncodedMessageSize : ℤ) < size) := by omega
  obtain ⟨_,hspace⟩ := t.waitTxSpace_cases (size.toNat + frameHeaderSize)
  rw [sendMessage, if_neg hpointer, if_neg hrange]
  cases hres : t.waitTxSpace (size.toNat + frameHeaderSize) with
  | mk res t' =>
    rw [hres] at hspace
    simp only at hspace
    rcases hspace with ⟨rfl,hfree⟩ | rfl
    · have hroom := t'.txBuf.toList_length_add_getFreeSize
      obtain ⟨hhead,_,hlist⟩ := pushLoop_of_le (frameHeader size.toNat) t'.txBuf 0
        (by rw [frameHeader_length]; omega)
      cases hloop : pushLoop t'.txBuf 0 (frameHeader size.toNat) with
      | mk r rest =>
        rw [hloop] at hhead hlist
        simp only at hhead hlist
        subst hhead
        simp only [hloop]
        refine (pushLoop_of_le _ _ _ ?_).1
        rw [hlist, List.length_append, frameHeader_length, payloadOf, bytesAt_length]
        omega
    · rfl

/-- A frame for which there is room is accepted, whatever the state and the callback. -/
theorem sendMessage_of_room {message : Option (ℕ → UInt8)} {size : ℤ} (h : Sendable message size)
    (hroom : size.toNat + frameHeaderSize ≤ t.txBuf.getFreeSize) : (t.sendMessage message size).1 = .success := by
  rw [t.sendMessage_result_eq_wait h, waitTxSpace, if_pos hroom]

/-- A legal message is accepted exactly when there is room for its frame, and otherwise refused
as `ringbufFull`. -/
theorem sendMessage_result (hcb : t.config.pfnDataSendBuffer = true) {message : Option (ℕ → UInt8)}
    {size : ℤ} (h : Sendable message size) :
    (t.sendMessage message size).1 =
      if t.HasRoom (size.toNat + frameHeaderSize) then .success else .ringbufFull := by
  rw [t.sendMessage_result_eq_wait h, t.waitTxSpace_iff hcb]

theorem dataSent_state : t.dataSent.state = .idle := by
  unfold dataSent
  cases hstate : t.state <;> simp [hstate]

@[simp] theorem dataSent_txBuf : t.dataSent.txBuf = t.txBuf := by
  unfold dataSent
  split <;> rfl

@[simp] theorem dataSent_config : t.dataSent.config = t.config := by
  unfold dataSent
  split <;> rfl

/-- One turn of the drain loop: the chunk on its way has been sent, the next one is started. -/
def drainStep : WhadResult × Transport := t.dataSent.sendPending

/-- The state after a number of turns. -/
def drain (turns : ℕ) : Transport := (fun t : Transport => t.drainStep.2)^[turns] t

@[simp] theorem drain_zero : t.drain 0 = t := rfl

theorem drain_succ (turns : ℕ) : t.drain (turns+1) = t.drainStep.2.drain turns := rfl

@[simp] theorem drainStep_config : t.drainStep.2.config = t.config := by
  rw [drainStep, sendPending_config, dataSent_config]

/-- A turn takes one chunk off a queue that is not empty. -/
theorem drainStep_of_pos (hcb : t.config.pfnDataSendBuffer = true) (hpos : 0 < t.txBuf.toList.length) :
    t.drainStep.1 = .success ∧
      t.drainStep.2.txBuf.toList.length = t.txBuf.toList.length - t.config.maxTxbufSize := by
  obtain ⟨hok,hlist,_⟩ := t.dataSent.sendPending_of_pos t.dataSent_state (by simpa using hcb) (by simpa using hpos)
  refine ⟨hok,?_⟩
  rw [drainStep, hlist, List.length_drop, chunkSize, dataSent_txBuf, dataSent_config]
  omega

/-- A turn on an empty queue says so and leaves the transport idle. -/
theorem drainStep_of_empty (hcb : t.config.pfnDataSendBuffer = true) (hnil : t.txBuf.toList = []) :
    t.drainStep = (.ringbufEmpty, t.dataSent) :=
  t.dataSent.sendPending_of_empty t.dataSent_state (by simpa using hcb) (by simpa using hnil)

/-- An empty queue and no other configuration. -/
def Drained (t' : Transport) : Prop := t'.txBuf.toList = [] ∧ t'.config = t.config

/-- The queue shrinks by a chunk each turn: `⌈n/m⌉` turns send, the next one finds it empty. -/
theorem drain_turns (hcb : t.config.pfnDataSendBuffer = true) {m : ℕ} (hm : t.config.maxTxbufSize = m)
    (hpos : 1 ≤ m) :
    ∃ k, k ≤ (t.txBuf.toList.length + m - 1) / m ∧ (∀ i < k, (t.drain i).drainStep.1 = .success) ∧
      (t.drain k).drainStep.1 = .ringbufEmpty ∧ t.Drained (t.drain (k+1)) := by
  induction hn : t.txBuf.toList.length using Nat.strong_induction_on generalizing t with
  | _ n ih =>
    rcases Nat.eq_zero_or_pos n with rfl | hlen
    · have hnil := List.length_eq_zero_iff.mp hn
      have hturn := t.drainStep_of_empty hcb hnil
      refine ⟨0,Nat.zero_le _,fun i hi => absurd hi (Nat.not_lt_zero i),?_,?_⟩
      · rw [drain_zero, hturn]
      · rw [drain_succ, drain_zero, hturn]
        exact ⟨by simpa using hnil,by simp⟩
    · obtain ⟨hok,hnext⟩ := t.drainStep_of_pos hcb (by rw [hn]; exact hlen)
      rw [hn, hm] at hnext
      obtain ⟨k,hk,hsent,hlast,hempty,hconfig⟩ := ih (n-m) (by omega) t.drainStep.2 (by simpa using hcb)
        (by simpa using hm) hnext
      refine ⟨k+1,?_,?_,hlast,hempty,hconfig.trans t.drainStep_config⟩
      · -- one turn accounts for one unit of the quotient
        have hquot : (n + m - 1) / m = (n - 1) / m + 1 := by
          rw [show n + m - 1 = n - 1 + m by omega, Nat.add_div_right _ (by omega)]
        rw [hquot]
        have hle : (n - m + m - 1) / m ≤ (n - 1) / m ∨ n - m = 0 := by
          by_cases hsmall : n ≤ m
          · exact .inr (by omega)
          · exact .inl (Nat.div_le_div_right (by omega))
        rcases hle with hle | hzero
        · omega
        · rw [hzero, Nat.zero_add, Nat.div_eq_of_lt (by omega)] at hk
          rw [Nat.le_zero.mp hk]
          exact Nat.le_add_left 1 _
      · intro i hi
        cases i with
        | zero => exact hok
        | succ i => exact hsent i (by omega)

end Transport

/-- Progress and exact acceptance, in every state of a sequential run with a callback: a message
with a valid pointer and a legal size is accepted exactly when its frame fits, at once or after
the chunk that `whad_transport_send_message` itself sends from `idle`, and is refused as
`ringbufFull` otherwise; and completing and starting chunks finds the queue empty after at most
`⌈n/m⌉+1` turns, after which every legal message is accepted. -/
theorem tx_progress (t : Transport) (cfg : TransportCfg) (hcb : cfg.pfnDataSendBuffer = true)
    (hmax : 1 ≤ cfg.maxTxbufSize) (ops : List TxOp) :
    let s := (run txStep (txStart t cfg) ops).transport
    let n := s.txBuf.getSize
    let m := cfg.maxTxbufSize
    (∀ message size, Transport.Sendable message size →
      ((s.sendMessage message size).1 = .success ↔
        size + 4 ≤ s.txBuf.getFreeSize ∨
          s.state = .idle ∧ size + 4 ≤ s.txBuf.getFreeSize + min n m) ∧
      ((s.sendMessage message size).1 ≠ .success → (s.sendMessage message size).1 = .ringbufFull)) ∧
    ∃ turns ≤ (n + m - 1) / m + 1, 0 < turns ∧
      (∀ i < turns - 1, (s.drain i).drainStep.1 = .success) ∧
      (s.drain (turns - 1)).drainStep.1 = .ringbufEmpty ∧
      ∀ message size, Transport.Sendable message size →
        ((s.drain turns).sendMessage message size).1 = .success := by
  intro s n m
  have hinv := txInv_run t cfg ops
  have hconfig : s.config = cfg := hinv.config
  have hcallback : s.config.pfnDataSendBuffer = true := by rw [hconfig, hcb]
  refine ⟨fun message size hlegal => ?_,?_⟩
  · have hres := s.sendMessage_result hcallback hlegal
    have hroom : s.HasRoom (size.toNat + frameHeaderSize) ↔ size + 4 ≤ s.txBuf.getFreeSize ∨
        s.state = .idle ∧ size + 4 ≤ s.txBuf.getFreeSize + min n m := by
      have hlow := hlegal.1
      rw [Transport.HasRoom, Ringbuf.toList_length, hconfig, frameHeaderSize]
      have hcast : ((min n m : ℕ) : ℤ) = min (n : ℤ) m := Nat.cast_min n m
      constructor
      · rintro (hnow | ⟨hidle,hlater⟩)
        · exact .inl (by omega)
        · exact .inr ⟨hidle,by omega⟩
      · rintro (hnow | ⟨hidle,hlater⟩)
        · exact .inl (by omega)
        · exact .inr ⟨hidle,by omega⟩
    rw [hres, ← hroom]
    by_cases h : s.HasRoom (size.toNat + frameHeaderSize) <;> simp [h]
  · have hm : s.config.maxTxbufSize = m := by rw [hconfig]
    obtain ⟨k,hk,hsent,hlast,hempty,hsame⟩ := s.drain_turns hcallback hm hmax
    rw [Ringbuf.toList_length] at hk
    refine ⟨k+1,Nat.succ_le_succ hk,Nat.succ_pos k,hsent,hlast,fun message size hlegal => ?_⟩
    have hfree := (s.drain (k+1)).txBuf.toList_length_add_getFreeSize
    have hsum := maxEncodedMessageSize_add
    have hsize := hlegal.2.1
    rw [hempty, List.length_nil] at hfree
    rw [Transport.sendMessage_result _ (by rw [hsame]; exact hcallback) hlegal, if_pos (.inl (by omega))]

/-- Three messages queued, the last of them refused, and chunks of seven bytes. -/
theorem tx_progress_full_queue :
    let s := (run txStep (txStart gwTransport ⟨7,true⟩)
      [.sendMessage (some fun _ => 7) 600,.sendMessage (some fun _ => 9) 300,.sendPending,
        .sendMessage (some fun _ => 1) 1019]).transport
    ∃ turns ≤ (s.txBuf.getSize + 7 - 1) / 7 + 1, 0 < turns ∧
      ((s.drain turns).sendMessage (some fun _ => 0) 1019).1 = .success := by
  intro s
  obtain ⟨turns,hle,hpos,_,_,hall⟩ := (tx_progress gwTransport ⟨7,true⟩ rfl (by decide)
    [.sendMessage (some fun _ => 7) 600,.sendMessage (some fun _ => 9) 300,.sendPending,
      .sendMessage (some fun _ => 1) 1019]).2
  exact ⟨turns,hle,hpos,hall (some fun _ => 0) 1019 ⟨by decide,by decide,nofun⟩⟩

end WhadLib
