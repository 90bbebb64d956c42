import WhadLib.Transport.Conservation
import WhadLib.Transport.Receiver

/-! A sender and a receiver joined by a serial link. The link delivers the bytes handed to the
send callback, in order and in any chunks, while both sides go on calling the library. -/
namespace WhadLib
open Library

/-- The frames of the source are frames of the wire format. -/
theorem wireFormat_frameHeader {n : ℕ} (hn : n ≤ maxEncodedMessageSize) :
    (frameHeader n).length = wireFormat.headerLen ∧ wireFormat.payloadLen (frameHeader n) = some n := by
  refine ⟨rfl,?_⟩
  have hmax : maxEncodedMessageSize = 1019 := rfl
  have hlow : n &&& 0xff = n % 256 := Nat.and_two_pow_sub_one_eq_mod n 8
  have hhigh : (n >>> 8) &&& 0xff = n / 256 % 256 := by
    rw [Nat.shiftRight_eq_div_pow]
    exact Nat.and_two_pow_sub_one_eq_mod _ 8
  have hsize : (UInt8.ofNat (n &&& 0xff)).toNat + 256 * (UInt8.ofNat ((n >>> 8) &&& 0xff)).toNat = n := by
    rw [hlow, hhigh, UInt8.toNat_ofNat', UInt8.toNat_ofNat']
    omega
  simp only [wireFormat, frameHeader, hsize, hn, and_self, if_true]

/-- The reference scanner decodes what the sender writes, whatever bytes the payloads hold. -/
theorem scan_frames (payloads : List (List UInt8))
    (h : ∀ p ∈ payloads, p.length ≤ maxEncodedMessageSize) :
    wireFormat.scan (payloads.map frame).flatten = payloads :=
  wireFormat.scan_encode frameHeader maxEncodedMessageSize (fun _ => wireFormat_frameHeader) payloads h

/-- What can happen on a link: a call on the sending side, the arrival of the next bytes of the
wire as one chunk, a poll on the receiving side. -/
inductive LinkOp
  | sender (op : TxOp)
  | arrive (size : ℕ)
  | getMessage

structure Link where
  tx : TxRun
  rx : RxRun

namespace Link

/-- The bytes handed to the callback of the sender that the receiver was not given yet. -/
def wire (l : Link) : List UInt8 := l.tx.transport.handed.flatten.drop l.rx.received.length

def start (sender receiver : Transport) (txCfg rxCfg : TransportCfg) : Link :=
  ⟨txStart sender txCfg,rxStart receiver rxCfg⟩

def step (l : Link) : LinkOp → Link
  | .sender op => { l with tx := txStep l.tx op }
  | .arrive size => { l with rx := rxStep l.rx (.dataReceived (l.wire.take size)) }
  | .getMessage => { l with rx := rxStep l.rx .getMessage }

/-- No chunk overruns the receiver. -/
def Ok (l : Link) : LinkOp → Prop
  | .arrive size => RxOk l.rx (.dataReceived (l.wire.take size))
  | _ => True

instance (l : Link) (op : LinkOp) : Decidable (l.Ok op) :=
  match op with
  | .sender _ => isTrue trivial
  | .arrive size => inferInstanceAs (Decidable (RxOk l.rx (.dataReceived (l.wire.take size))))
  | .getMessage => isTrue trivial

/-- The invariants of the two sides, and the link between them: what was received is the front
of what was handed over. -/
structure Inv (cfg : TransportCfg) (l : Link) : Prop where
  tx : TxInv cfg l.tx
  rx : RxInv l.rx
  received : l.rx.received <+: l.tx.transport.handed.flatten

theorem inv_start (sender receiver : Transport) (txCfg rxCfg : TransportCfg) :
    Inv txCfg (start sender receiver txCfg rxCfg) where
  tx := txInv_start sender txCfg
  rx := rxInv_start receiver rxCfg
  received := List.prefix_rfl

/-- Received bytes and bytes on the wire are the bytes handed over. -/
theorem Inv.received_append_wire {cfg : TransportCfg} {l : Link} (h : Inv cfg l) :
    l.rx.received ++ l.wire = l.tx.transport.handed.flatten := by
  obtain ⟨rest,hrest⟩ := h.received
  rw [wire, ← hrest, List.drop_left]

/-- Buffers are only ever handed over behind the earlier ones. -/
theorem handed_prefix (s : TxRun) (op : TxOp) :
    s.transport.handed <+: (txStep s op).transport.handed := by
  have hpending : s.transport.handed <+: s.transport.sendPending.2.handed := by
    obtain ⟨_,hsame⟩ | ⟨_,_,_,_,hnew⟩ := s.transport.sendPending_cases
    · simp [hsame]
    · rw [hnew]
      exact List.prefix_append _ _
  cases op with
  | sendPending => exact hpending
  | dataSent =>
    simp only [txStep, Transport.dataSent]
    split <;> exact List.prefix_rfl
  | sendMessage message size =>
    simp only [txStep]
    obtain ⟨_,hsame | ⟨_,hsent⟩⟩ | ⟨_,_,t',tx,hwait,_,hnew⟩ := s.transport.sendMessage_cases message size
    · simp [hsame]
    · rw [hsent]
      exact hpending
    · rw [hnew]
      obtain rfl | ⟨_,rfl⟩ := hwait
      · exact List.prefix_rfl
      · exact hpending

theorem Inv.step {cfg : TransportCfg} (l : Link) (op : LinkOp) (h : Inv cfg l) (hok : l.Ok op) :
    Inv cfg (l.step op) := by
  cases op with
  | sender op =>
    refine ⟨TxInv.step l.tx op h.tx,h.rx,h.received.trans ?_⟩
    obtain ⟨more,hmore⟩ := handed_prefix l.tx op
    simp only [Link.step]
    rw [← hmore, List.flatten_append]
    exact List.prefix_append _ _
  | getMessage => exact ⟨h.tx,h.rx.step l.rx .getMessage trivial,h.received⟩
  | arrive size =>
    refine ⟨h.tx,h.rx.step l.rx (.dataReceived (l.wire.take size)) hok,l.wire.drop size,?_⟩
    simp only [Link.step, rxStep]
    rw [List.append_assoc, List.take_append_drop]
    exact h.received_append_wire

theorem inv_run (sender receiver : Transport) (txCfg rxCfg : TransportCfg) (ops : List LinkOp)
    (h : Guarded step Ok (start sender receiver txCfg rxCfg) ops) :
    Inv txCfg (run step (start sender receiver txCfg rxCfg) ops) :=
  h.invariant Inv.step (inv_start sender receiver txCfg rxCfg)

/-- The payloads accepted by the sender are those the receiver extracted, followed by what the
scanner finds in the bytes buffered by the receiver, on the wire and queued by the sender. -/
theorem Inv.accepted_eq {cfg : TransportCfg} {l : Link} (h : Inv cfg l) :
    l.tx.accepted = l.rx.extracted ++
      wireFormat.scan (l.rx.transport.rxBuf.toList ++ (l.wire ++ l.tx.transport.txBuf.toList)) := by
  have hstream : l.rx.received ++ (l.wire ++ l.tx.transport.txBuf.toList) =
      (l.tx.accepted.map frame).flatten := by
    rw [← List.append_assoc, h.received_append_wire]
    exact h.tx.stream
  have hscan := h.rx.scan (l.wire ++ l.tx.transport.txBuf.toList)
  rw [hstream, scan_frames _ h.tx.lengths] at hscan
  exact hscan

/-- End-to-end framing: after every run of both sides and of the link that overruns no
receiver buffer, the receiver has delivered a front of the non-empty payloads the sender
accepted, byte for byte and in order. When the TX queue is drained, the wire is empty and
polling has come to rest, it has delivered all of them. -/
theorem delivered_of_run (sender receiver : Transport) (txCfg rxCfg : TransportCfg)
    (ops : List LinkOp) (h : Guarded step Ok (start sender receiver txCfg rxCfg) ops) :
    let l := run step (start sender receiver txCfg rxCfg) ops
    l.rx.delivered <+: l.tx.accepted.filter (fun p => 0 < p.length) ∧
      (l.tx.transport.txBuf.toList = [] → l.wire = [] → RxQuiet l.rx.transport →
        l.rx.delivered = l.tx.accepted.filter fun p => 0 < p.length) := by
  intro l
  have hinv : Inv txCfg l := inv_run sender receiver txCfg rxCfg ops h
  rw [hinv.rx.delivered, hinv.accepted_eq]
  constructor
  · exact (List.prefix_append _ _).filter _
  · intro hqueue hwire hquiet
    rw [hqueue, hwire, List.append_nil, List.append_nil, scan_of_quiet hquiet, List.append_nil]

/-- A payload that itself holds the magic, sent in chunks of five bytes and received in pieces. -/
theorem delivered_of_run_magic_payload :
    let ops : List LinkOp := [.sender (.sendMessage (some fun i => if i = 0 then 0xAC else 0xBE) 2),
      .sender .sendPending,.arrive 3,.getMessage,.sender .dataSent,.arrive 2,.sender .sendPending,
      .getMessage,.arrive 9,.getMessage]
    let l := run step (start gwTransport gwTransport ⟨5,true⟩ ⟨0,false⟩) ops
    l.rx.delivered = l.tx.accepted.filter fun p => 0 < p.length := by
  intro ops
  exact (delivered_of_run gwTransport gwTransport ⟨5,true⟩ ⟨0,false⟩ ops (by decide +kernel)).2
    (by decide +kernel) (by decide +kernel) (by unfold RxQuiet; decide +kernel)

end Link
end WhadLib
