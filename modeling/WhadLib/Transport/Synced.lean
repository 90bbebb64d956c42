import WhadLib.Transport.EndToEnd

/-! A receiver that is fed by nothing but the sender stays in step with its frames: what it holds always
starts where a frame starts, so that a poll takes a frame or waits for one, drops nothing and reports no error. -/
namespace WhadLib
open Library

theorem frameAt_frame {p : List UInt8} (hp : p.length ≤ maxEncodedMessageSize) (rest : List UInt8) :
    wireFormat.frameAt (frame p ++ rest) = some p := by
  obtain ⟨hlen,hpayload⟩ := wireFormat_frameHeader hp
  have hannounced : wireFormat.announced (frame p ++ rest) = some p.length := by
    rw [frame, List.append_assoc, FrameFormat.announced, ← hlen, List.take_left, hpayload]
    exact if_neg (by simp)
  rw [wireFormat.frameAt_of_announced hannounced (by rw [List.length_append, frame_length]; exact Nat.le_add_right _ _),
    ← hlen, frame, List.append_assoc, List.drop_left, List.take_left]

namespace Link

/-- The received bytes are the extracted frames, followed by what is still buffered. -/
def Synced (l : Link) : Prop :=
  l.rx.received = (l.rx.extracted.map frame).flatten ++ l.rx.transport.rxBuf.toList

theorem synced_start (sender receiver : Transport) (txCfg rxCfg : TransportCfg) :
    Synced (start sender receiver txCfg rxCfg) := by
  simp [Synced, start, rxStart, Transport.init]

/-- The bytes that are buffered by the receiver, on the wire and queued by the sender are the frames that
are still to be extracted. -/
theorem Synced.rest {cfg : TransportCfg} {l : Link} (h : Inv cfg l) (hs : l.Synced) :
    ∃ later, l.tx.accepted = l.rx.extracted ++ later ∧
      l.rx.transport.rxBuf.toList ++ (l.wire ++ l.tx.transport.txBuf.toList) = (later.map frame).flatten := by
  refine ⟨_,h.accepted_eq,?_⟩
  have hstream : l.rx.received ++ (l.wire ++ l.tx.transport.txBuf.toList) = (l.tx.accepted.map frame).flatten := by
    rw [← List.append_assoc, h.received_append_wire]
    exact h.tx.stream
  rw [hs, h.accepted_eq, List.map_append, List.flatten_append, List.append_assoc] at hstream
  exact List.append_cancel_left hstream

/-- What a poll of a receiver in step does: it takes the frame of an accepted payload, or leaves the bytes alone. -/
inductive PollSynced (accepted : List (List UInt8)) (rx : List UInt8) : Received → List UInt8 → Prop
  | extract {p rx'} (hp : p ∈ accepted) (hrx : rx = frame p ++ rx') :
    PollSynced accepted rx ⟨.success,p.length,some p⟩ rx'
  | wait : PollSynced accepted rx ⟨.success,0,none⟩ rx

theorem Synced.poll {cfg : TransportCfg} {l : Link} (h : Inv cfg l) (hs : l.Synced) :
    PollSynced l.tx.accepted l.rx.transport.rxBuf.toList (l.rx.transport.getMessage maxEncodedMessageSize).1
      (l.rx.transport.getMessage maxEncodedMessageSize).2.rxBuf.toList := by
  obtain ⟨later,haccepted,hrest⟩ := hs.rest h
  have heffect := getMessage_effect l.rx.transport le_rfl
  generalize l.rx.transport.rxBuf.toList = rx at heffect hrest ⊢
  generalize (l.rx.transport.getMessage maxEncodedMessageSize).1 = r at heffect ⊢
  generalize (l.rx.transport.getMessage maxEncodedMessageSize).2.rxBuf.toList = rx' at heffect ⊢
  have haccepted (p : List UInt8) (hp : p ∈ later) : p ∈ l.tx.accepted := by
    rw [haccepted]
    exact List.mem_append_right _ hp
  have hlengths (p : List UInt8) (hp : p ∈ later) : p.length ≤ maxEncodedMessageSize :=
    h.tx.lengths p (haccepted p hp)
  cases heffect with
  | wait => exact .wait
  | @extract p hframe =>
    obtain ⟨-,hfit,-⟩ := wireFormat.announced_of_frameAt hframe
    have hat := wireFormat.frameAt_append hframe (l.wire ++ l.tx.transport.txBuf.toList)
    cases later with
    | nil =>
      have hnil : rx = [] := (List.append_eq_nil_iff.mp hrest).1
      rw [hnil, List.length_nil, wireFormat_headerLen] at hfit
      omega
    | cons q later =>
      have hq : q.length ≤ maxEncodedMessageSize := hlengths q List.mem_cons_self
      rw [List.map_cons, List.flatten_cons] at hrest
      rw [hrest, frameAt_frame hq] at hat
      obtain rfl := Option.some.inj hat
      -- the frame lies within the buffered bytes
      have htake := congrArg (List.take (frame q).length) hrest
      rw [wireFormat_headerLen] at hfit
      rw [List.take_left, List.take_append_of_le_length (by rw [frame_length, frameHeaderSize]; exact hfit), frame_length]
        at htake
      refine .extract (haccepted q List.mem_cons_self) ?_
      rw [← htake, List.take_append_drop]
  | @drop k result hk hle hnone =>
    have hfirst := hnone 0 hk (l.wire ++ l.tx.transport.txBuf.toList)
    rw [List.drop_zero, hrest] at hfirst
    cases later with
    | nil =>
      have hnil : rx = [] := (List.append_eq_nil_iff.mp hrest).1
      rw [hnil, List.length_nil] at hle
      omega
    | cons q later =>
      have hat := frameAt_frame (hlengths q List.mem_cons_self) (later.map frame).flatten
      rw [List.map_cons, List.flatten_cons, (wireFormat.announced_of_frameAt hat).1] at hfirst
      contradiction

/-- A link stays in step. -/
theorem Synced.step {cfg : TransportCfg} {l : Link} (op : LinkOp) (h : Inv cfg l) (hs : l.Synced) (hok : l.Ok op) :
    (l.step op).Synced := by
  cases op with
  | sender op => exact hs
  | arrive size =>
    have hbuf := Transport.dataReceived_of_success l.rx.transport (l.wire.take size) hok
    simp only [Synced, Link.step, rxStep]
    rw [hbuf, hs, List.append_assoc]
  | getMessage =>
    have hpoll := hs.poll h
    simp only [Synced, Link.step, rxStep, rxPoll]
    generalize (l.rx.transport.getMessage maxEncodedMessageSize).1 = r at hpoll ⊢
    generalize (l.rx.transport.getMessage maxEncodedMessageSize).2.rxBuf.toList = rx' at hpoll ⊢
    rw [hs]
    generalize l.rx.transport.rxBuf.toList = rx at hpoll ⊢
    cases hpoll with
    | wait => simp
    | extract hp hrx =>
      rw [hrx]
      simp

end Link
end WhadLib
