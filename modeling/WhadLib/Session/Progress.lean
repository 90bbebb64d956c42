import WhadLib.Session

/-! Messages do not get stuck. In every state of a session in which something is still underway, one of four
calls that are always allowed brings it closer to the receiver. -/
namespace WhadLib
open Library

/-- The calls that take no new message. -/
def SessionOp.Carries : SessionOp → Prop
  | .send _ => False
  | _ => True

namespace Session
section
variable {Msg : Type}

/-- A bound on the calls that are still needed: a queued byte has to be handed over, to arrive and to be taken
from the buffer, and every chunk has to be reported as sent. -/
def remaining (s : Session Msg) : ℕ :=
  4*s.sender.txBuf.toList.length + 2*s.wire.length + s.receiver.rxBuf.toList.length +
    if s.sender.state = .sending then 1 else 0

/-- Nothing is underway any more. -/
structure AtRest (s : Session Msg) : Prop where
  queue : s.sender.txBuf.toList = []
  wire : s.wire = []
  quiet : RxQuiet s.receiver

end

section
variable {Msg : Type} {pb : Nanopb} {boardFields : BoardMessage → Fields CallbackField}
  {pbDecode : List UInt8 → Option Msg} {tree : Msg → Wire} {cfg : TransportCfg} {s : Session Msg} {l : Link}

/-- No more bytes arrived than were handed over. -/
theorem Runs.arrived_le (h : Runs pbDecode cfg s l) : s.arrived ≤ s.sender.handed.flatten.length := by
  rw [← h.arrived, ← h.sender]
  exact h.inv.received.length_le

/-- Handing over a chunk moves at least one byte to the wire. -/
theorem remaining_sendPending (hcb : s.sender.config.pfnDataSendBuffer = true) (hmax : 1 ≤ s.sender.config.maxTxbufSize)
    (harrived : s.arrived ≤ s.sender.handed.flatten.length) (hstate : s.sender.state = .idle)
    (hpos : 0 < s.sender.txBuf.toList.length) :
    (s.step pb boardFields pbDecode .sendPending).remaining < s.remaining := by
  obtain ⟨hok,hqueue,hsending⟩ := s.sender.sendPending_of_pos hstate hcb hpos
  have hhanded : s.sender.sendPending.2.handed = s.sender.handed ++ [s.sender.txBuf.toList.take s.sender.chunkSize] := by
    obtain ⟨hno | hno,-⟩ | ⟨-,-,-,-,hnew⟩ := s.sender.sendPending_cases
    · exact absurd hok hno
    · rw [hcb] at hno
      contradiction
    · rw [hnew]
  have hchunk : s.sender.chunkSize = min s.sender.txBuf.toList.length s.sender.config.maxTxbufSize := rfl
  simp only [step, remaining, Session.wire, hqueue, hsending, hhanded, hstate, List.flatten_append, List.flatten_singleton,
    List.drop_append_of_le_length harrived, List.length_append, List.length_drop, List.length_take, reduceCtorEq, if_true,
    if_false]
  omega

theorem remaining_dataSent (hstate : s.sender.state = .sending) :
    (s.step pb boardFields pbDecode .dataSent).remaining < s.remaining := by
  simp [step, remaining, Session.wire, Transport.dataSent, hstate]

/-- One byte arrives where there is room for it. -/
theorem remaining_arrive (hwire : s.wire ≠ []) (hfree : s.receiver.rxBuf.getFreeSize ≠ 0) :
    s.Ok (.arrive 1) ∧ (s.step pb boardFields pbDecode (.arrive 1)).remaining < s.remaining := by
  have hpos : 0 < s.wire.length := List.length_pos_iff.mpr hwire
  have hlen : (s.wire.take 1).length = 1 := List.length_take_of_le hpos
  obtain ⟨hresult,-⟩ := receiveLoop_takes (s.wire.take 1) s.receiver.rxBuf
  rw [if_pos (by omega)] at hresult
  have hok : s.Ok (.arrive 1) := hresult
  have hbuf := Transport.dataReceived_of_success s.receiver (s.wire.take 1) hok
  have hsender : (s.step pb boardFields pbDecode (.arrive 1)).sender = s.sender := rfl
  have hrest : (s.step pb boardFields pbDecode (.arrive 1)).wire = s.wire.drop 1 := by
    simp only [step, Session.wire] at hlen ⊢
    rw [hlen, List.drop_drop]
  have hreceived : (s.step pb boardFields pbDecode (.arrive 1)).receiver.rxBuf.toList.length =
      s.receiver.rxBuf.toList.length + 1 := by
    simp only [step]
    rw [hbuf, List.length_append, hlen]
  refine ⟨hok,?_⟩
  rw [remaining, remaining, hsender, hrest, hreceived, List.length_drop]
  omega

theorem remaining_getMessage (hquiet : ¬RxQuiet s.receiver) :
    (s.step pb boardFields pbDecode .getMessage).remaining < s.remaining := by
  have hlt := getMessage_shrinks hquiet
  simp only [step, remaining, (getMessage_eq s.receiver).1, Session.wire]
  omega

variable (pb boardFields) in
/-- In every state that is not at rest a call carries something on. -/
theorem Runs.exists_progress (hcb : cfg.pfnDataSendBuffer = true) (hmax : 1 ≤ cfg.maxTxbufSize)
    (h : Runs pbDecode cfg s l) : s.AtRest ∨ ∃ op : SessionOp, op.Carries ∧ s.Ok op ∧
      (s.step pb boardFields pbDecode op).remaining < s.remaining := by
  have hconfig : s.sender.config = cfg := by
    rw [← h.sender]
    exact h.inv.tx.config
  by_cases hquiet : RxQuiet s.receiver
  · by_cases hwire : s.wire = []
    · by_cases hqueue : s.sender.txBuf.toList = []
      · exact .inl ⟨hqueue,hwire,hquiet⟩
      · right
        cases hstate : s.sender.state with
        | idle =>
          exact ⟨.sendPending,trivial,trivial,remaining_sendPending (by rw [hconfig, hcb]) (by rw [hconfig]; exact hmax)
            h.arrived_le hstate (List.length_pos_iff.mpr hqueue)⟩
        | sending => exact ⟨.dataSent,trivial,trivial,remaining_dataSent hstate⟩
    · right
      have hfree : s.receiver.rxBuf.getFreeSize ≠ 0 := by
        intro hfull
        have hlt := getMessage_of_full hfull
        rw [hquiet] at hlt
        exact lt_irrefl _ hlt
      exact ⟨.arrive 1,trivial,remaining_arrive hwire hfree⟩
  · exact .inr ⟨.getMessage,trivial,trivial,remaining_getMessage hquiet⟩

/-- The calls that carry on leave the list of messages sent alone. -/
theorem sent_of_carries {op : SessionOp} (hop : op.Carries) : (s.step pb boardFields pbDecode op).sent = s.sent := by
  cases op with
  | send m => exact hop.elim
  | _ => rfl

variable (boardFields) in
/-- As many of these calls as remain bring a session to rest. -/
theorem Runs.exists_rest (hpb : pb.Documented) (hcb : cfg.pfnDataSendBuffer = true) (hmax : 1 ≤ cfg.maxTxbufSize)
    (h : Runs pbDecode cfg s l) : ∃ more : List SessionOp, more.length ≤ s.remaining ∧ (∀ op ∈ more, op.Carries) ∧
      Guarded (Session.step pb boardFields pbDecode) Ok s more ∧
      (run (Session.step pb boardFields pbDecode) s more).sent = s.sent ∧
      (run (Session.step pb boardFields pbDecode) s more).AtRest := by
  induction hn : s.remaining using Nat.strong_induction_on generalizing s l with
  | _ n ih =>
    rcases h.exists_progress pb boardFields hcb hmax with hrest | ⟨op,hop,hok,hlt⟩
    · exact ⟨[],Nat.zero_le _,by simp,trivial,rfl,hrest⟩
    · obtain ⟨l',hl'⟩ := h.step boardFields hpb op hok
      obtain ⟨more,hle,hall,hguarded,hsent,hrest⟩ := ih _ (by rw [← hn]; exact hlt) hl' rfl
      refine ⟨op :: more,?_,List.forall_mem_cons.mpr ⟨hop,hall⟩,⟨hok,hguarded⟩,hsent.trans (sent_of_carries hop),hrest⟩
      rw [List.length_cons]
      omega

variable (boardFields) in
/-- As many calls as remain bring over all messages that were sent. -/
theorem Runs.exists_all_received (hpb : pb.Documented) (hdecode : ∀ m ∈ s.sent, Decodes pbDecode tree m)
    (hcb : cfg.pfnDataSendBuffer = true) (hmax : 1 ≤ cfg.maxTxbufSize) (h : Runs pbDecode cfg s l) :
    ∃ more : List SessionOp, more.length ≤ s.remaining ∧ (∀ op ∈ more, op.Carries) ∧
      Guarded (Session.step pb boardFields pbDecode) Ok s more ∧
      (run (Session.step pb boardFields pbDecode) s more).got.map tree = s.sent.map fun m => m.tree.received := by
  obtain ⟨more,hle,hcarries,hguarded,hsent,hrest⟩ := h.exists_rest boardFields hpb hcb hmax
  refine ⟨more,hle,hcarries,hguarded,?_⟩
  obtain ⟨l',hl'⟩ : ∃ l', Runs pbDecode cfg (run (Session.step pb boardFields pbDecode) s more) l' :=
    exists_runs_from hpb ⟨l,h⟩ hguarded
  rw [← hsent] at hdecode
  rw [hl'.got_of_rest hdecode hrest.queue hrest.wire hrest.quiet, hsent]

end

/-- Nothing gets stuck: from every state that a session can reach, with a callback and chunks of at least one
byte, calls that take no new message bring all messages sent to the other side, and no more of them are
needed than the bytes underway account for. -/
theorem all_received_within {Msg : Type} {pb : Nanopb} (hpb : pb.Documented)
    (boardFields : BoardMessage → Fields CallbackField) (pbDecode : List UInt8 → Option Msg) (tree : Msg → Wire)
    (heap : Heap) (sender receiver : Transport) (txCfg rxCfg : TransportCfg)
    (hcb : txCfg.pfnDataSendBuffer = true) (hmax : 1 ≤ txCfg.maxTxbufSize) (ops : List SessionOp)
    (h : Guarded (step pb boardFields pbDecode) Ok (start heap sender receiver txCfg rxCfg) ops)
    (hdecode : ∀ m ∈ (run (step pb boardFields pbDecode) (start heap sender receiver txCfg rxCfg) ops).sent,
      Decodes pbDecode tree m) :
    let s := run (step pb boardFields pbDecode) (start heap sender receiver txCfg rxCfg) ops
    ∃ more : List SessionOp, more.length ≤ s.remaining ∧ (∀ op ∈ more, op.Carries) ∧
      Guarded (step pb boardFields pbDecode) Ok s more ∧
      (run (step pb boardFields pbDecode) s more).got.map tree = s.sent.map fun m => m.tree.received := by
  intro s
  obtain ⟨l,hl⟩ : ∃ l, Runs pbDecode txCfg s l := exists_runs hpb heap sender receiver txCfg rxCfg h
  exact hl.exists_all_received boardFields hpb hdecode hcb hmax

/-- A command that was queued and handed over, and of which nothing arrived yet. -/
theorem all_received_within_sniffAdv :
    let m := (default : FullMessage).put (.ble .sniffAdv) ⟨true,37,Vector.replicate 6 0xFF⟩
    let next := step Nanopb.plain (fun _ => .nil) readMessageBytes
    let s := run next (start Heap.empty gwTransport gwTransport ⟨64,true⟩ ⟨0,false⟩) [.send m,.sendPending]
    ∃ more : List SessionOp, more.length ≤ s.remaining ∧ (∀ op ∈ more, op.Carries) ∧ Guarded next Ok s more ∧
      (run next s more).got.map id = s.sent.map fun m => m.tree.received := by
  intro m next s
  exact all_received_within Nanopb.plain_documented (fun _ => .nil) readMessageBytes id Heap.empty gwTransport gwTransport
    ⟨64,true⟩ ⟨0,false⟩ rfl (by decide) [.send m,.sendPending]
    ⟨⟨by decide,⟨⟨trivial,trivial⟩,trivial⟩⟩,trivial,trivial⟩ fun _ _ _ w _ hread => ⟨w,hread,rfl⟩

end Session
end WhadLib
