import WhadLib.Sendable
import WhadLib.Transport.Synced

/-! Two programs that exchange messages through the library: one encodes and queues them, the serial link
carries the bytes of its chunks in any pieces, the other one polls and decodes. In every order of these
steps the messages that come out are the messages that went in. -/
namespace WhadLib
open Library

/-- A call on either side, or the arrival of the next bytes. -/
inductive SessionOp
  | send (m : FullMessage)
  | sendPending
  | dataSent
  | arrive (size : ℕ)
  | getMessage

/-- Both transports, the heap of the sender, the number of bytes that arrived, the messages that were sent
with success and those that were received. -/
structure Session (Msg : Type) where
  heap : Heap
  sender : Transport
  receiver : Transport
  arrived : ℕ
  sent : List FullMessage
  got : List Msg

/-- The bytes that a message is encoded to, with the lists that lie in some heap. -/
def FullMessage.EncodedAs (m : FullMessage) (bytes : List UInt8) : Prop :=
  ∃ heap rs, m.tree.records heap = some rs ∧ recordBytes rs = bytes

/-- The decoder of the runtime, as documented, on the encodings of one message: it makes of them what can be read
there under the descriptors. Of the structure that it fills in only the visible fields matter. -/
def Decodes {Msg : Type} (pbDecode : List UInt8 → Option Msg) (tree : Msg → Wire) (m : FullMessage) : Prop :=
  ∀ bytes w, m.EncodedAs bytes → readMessageBytes bytes = some w → ∃ m', pbDecode bytes = some m' ∧ tree m' = w

namespace Session
section
variable {Msg : Type} (pb : Nanopb) (boardFields : BoardMessage → Fields CallbackField)
  (pbDecode : List UInt8 → Option Msg)

def start (heap : Heap) (sender receiver : Transport) (txCfg rxCfg : TransportCfg) : Session Msg :=
  ⟨heap,sender.init txCfg,receiver.init rxCfg,0,[],[]⟩

/-- The bytes handed to the callback of the sender that did not arrive yet. -/
def wire (s : Session Msg) : List UInt8 := s.sender.handed.flatten.drop s.arrived

def step (s : Session Msg) : SessionOp → Session Msg
  | .send m =>
    let r := whadSendMessage pb boardFields s.heap m.toMessage s.sender
    { s with
      heap := r.heap
      sender := r.transport
      sent := if r.result = .success then s.sent ++ [m] else s.sent }
  | .sendPending => { s with sender := s.sender.sendPending.2 }
  | .dataSent => { s with sender := s.sender.dataSent }
  | .arrive size =>
    { s with
      receiver := (s.receiver.dataReceived (s.wire.take size)).2
      arrived := s.arrived + (s.wire.take size).length }
  | .getMessage =>
    let r := whadGetMessage pbDecode s.receiver
    { s with receiver := r.2.2, got := s.got ++ r.2.1.toList }

/-- Messages of the modelled domains whose callbacks fit their fields; no overrun of the receiver. -/
def Ok (s : Session Msg) : SessionOp → Prop
  | .send m => m.whichMsg ≠ Message.boardTag ∧ m.tree.OwnCallbacks
  | .arrive size => (s.receiver.dataReceived (s.wire.take size)).1 = .success
  | _ => True

end

/-- The bytes that were queued for a message. -/
structure Queued (m : FullMessage) (bytes : List UInt8) : Prop where
  ne_nil : bytes ≠ []
  encoded : m.EncodedAs bytes
  read : readMessageBytes bytes = some m.tree.received

/-- A session runs on a link in step: the payloads accepted there are the encodings of the messages sent,
and the messages received are what the payloads delivered decode to. -/
structure Runs {Msg : Type} (pbDecode : List UInt8 → Option Msg) (cfg : TransportCfg) (s : Session Msg) (l : Link) :
    Prop where
  inv : l.Inv cfg
  synced : l.Synced
  sender : l.tx.transport = s.sender
  receiver : l.rx.transport = s.receiver
  arrived : l.rx.received.length = s.arrived
  queued : List.Forall₂ Queued s.sent l.tx.accepted
  got : s.got = l.rx.delivered.filterMap pbDecode

section
variable {Msg : Type} {pb : Nanopb} {boardFields : BoardMessage → Fields CallbackField}
  {pbDecode : List UInt8 → Option Msg} {tree : Msg → Wire} {cfg : TransportCfg} {s : Session Msg} {l : Link}

theorem runs_start (heap : Heap) (sender receiver : Transport) (txCfg rxCfg : TransportCfg) :
    Runs pbDecode txCfg (start heap sender receiver txCfg rxCfg) (Link.start sender receiver txCfg rxCfg) where
  inv := Link.inv_start sender receiver txCfg rxCfg
  synced := Link.synced_start sender receiver txCfg rxCfg
  sender := rfl
  receiver := rfl
  arrived := rfl
  queued := .nil
  got := rfl

theorem Runs.wire (h : Runs pbDecode cfg s l) : l.wire = s.wire := by
  rw [Link.wire, Session.wire, h.sender, h.arrived]

variable (boardFields) in
/-- Sending a message is sending its encoding, or nothing. -/
theorem send_cases (hpb : pb.Documented) (heap : Heap) {m : FullMessage} (hboard : m.whichMsg ≠ Message.boardTag)
    (hown : m.tree.OwnCallbacks) (t : Transport) :
    let r := whadSendMessage pb boardFields heap m.toMessage t
    (r.result ≠ .success ∧ r.transport = t) ∨
      ∃ bytes, Queued m bytes ∧ r.result = (t.sendMessage (some fun i => bytes.getD i 0) bytes.length).1 ∧
        r.transport = (t.sendMessage (some fun i => bytes.getD i 0) bytes.length).2 := by
  intro r
  by_cases hfit : ∃ bytes, m.toMessage.encoding boardFields heap = some bytes ∧ bytes ≠ [] ∧
      bytes.length ≤ maxEncodedMessageSize
  · obtain ⟨bytes,hbytes,hne,hle⟩ := hfit
    have hmax : maxEncodedMessageSize < 2^64 := by decide
    have hqueued : Queued m bytes := by
      rw [m.toMessage_encoding hboard hown] at hbytes
      obtain ⟨rs,hrs,rfl⟩ := Option.map_eq_some_iff.mp hbytes
      exact ⟨hne,⟨heap,rs,hrs,rfl⟩,m.readMessageBytes_records hrs (hle.trans_lt hmax)⟩
    have hr : r = _ := whadSendMessage_of_fits boardFields hpb heap m.toMessage t hbytes hne hle
    right
    refine ⟨bytes,hqueued,?_,?_⟩ <;> rw [hr]
  · have hnot : ∀ bytes, m.toMessage.encoding boardFields heap = some bytes → bytes ≠ [] →
        maxEncodedMessageSize < bytes.length := by
      intro bytes hbytes hne
      by_contra hle
      exact hfit ⟨bytes,hbytes,hne,not_lt.mp hle⟩
    have hr : r = _ := whadSendMessage_of_not_fits boardFields hpb heap m.toMessage t hnot
    left
    rw [hr]
    exact ⟨nofun,rfl⟩

/-- Polling and decoding leaves the transport as the poll does, and gives what the payload delivered decodes to. -/
theorem getMessage_eq (t : Transport) :
    (whadGetMessage pbDecode t).2.2 = (t.getMessage maxEncodedMessageSize).2 ∧
      (whadGetMessage pbDecode t).2.1.toList =
        (if (t.getMessage maxEncodedMessageSize).1.result = .success ∧ 0 < (t.getMessage maxEncodedMessageSize).1.size then
          [(t.getMessage maxEncodedMessageSize).1.payload.getD []] else []).filterMap pbDecode := by
  generalize hpoll : t.getMessage maxEncodedMessageSize = poll
  obtain ⟨⟨result,size,payload⟩,t'⟩ := poll
  simp only [whadGetMessage, hpoll]
  by_cases hresult : result = .success
  · by_cases hsize : 0 < size
    · cases hdecode : pbDecode (payload.getD []) <;> simp [hresult, hsize, hdecode]
    · simp [hresult, hsize]
  · simp [hresult]

variable (boardFields) in
/-- Every step of a session is a step of the link, or none. -/
theorem Runs.step (hpb : pb.Documented) (op : SessionOp) (h : Runs pbDecode cfg s l) (hok : s.Ok op) :
    ∃ l', Runs pbDecode cfg (s.step pb boardFields pbDecode op) l' := by
  cases op with
  | send m =>
    obtain ⟨hboard,hown⟩ := hok
    rcases send_cases boardFields hpb s.heap hboard hown s.sender with
      ⟨hresult,htransport⟩ | ⟨bytes,hqueued,hresult,htransport⟩
    · refine ⟨l,h.inv,h.synced,?_,h.receiver,h.arrived,?_,h.got⟩
      · exact h.sender.trans htransport.symm
      · simp only [Session.step, hresult, if_false]
        exact h.queued
    · let op := LinkOp.sender (.sendMessage (some fun i => bytes.getD i 0) bytes.length)
      refine ⟨l.step op,h.inv.step l op trivial,h.synced.step op h.inv trivial,?_,h.receiver,h.arrived,?_,h.got⟩
      · simp only [op, Link.step, txStep, Session.step]
        rw [htransport, h.sender]
      · simp only [op, Link.step, txStep, Session.step]
        rw [hresult, h.sender, payloadOf_getD]
        split
        · exact List.rel_append h.queued (.cons hqueued .nil)
        · exact h.queued
  | sendPending =>
    let op := LinkOp.sender .sendPending
    refine ⟨l.step op,h.inv.step l op trivial,h.synced.step op h.inv trivial,?_,h.receiver,h.arrived,h.queued,h.got⟩
    simp only [op, Link.step, txStep, Session.step]
    rw [h.sender]
  | dataSent =>
    let op := LinkOp.sender .dataSent
    refine ⟨l.step op,h.inv.step l op trivial,h.synced.step op h.inv trivial,?_,h.receiver,h.arrived,h.queued,h.got⟩
    simp only [op, Link.step, txStep, Session.step]
    rw [h.sender]
  | arrive size =>
    have hlink : l.Ok (.arrive size) := by
      change (l.rx.transport.dataReceived (l.wire.take size)).1 = .success
      rw [h.receiver, h.wire]
      exact hok
    refine ⟨l.step (.arrive size),h.inv.step l _ hlink,h.synced.step _ h.inv hlink,h.sender,?_,?_,h.queued,h.got⟩
    · simp only [Link.step, rxStep, Session.step]
      rw [h.receiver, h.wire]
    · simp only [Link.step, rxStep, Session.step]
      rw [List.length_append, h.arrived, h.wire]
  | getMessage =>
    refine ⟨l.step .getMessage,h.inv.step l _ trivial,h.synced.step _ h.inv trivial,h.sender,?_,h.arrived,h.queued,?_⟩
    · simp only [Link.step, rxStep, rxPoll, Session.step]
      rw [h.receiver, (getMessage_eq s.receiver).1]
    · simp only [Link.step, rxStep, rxPoll, Session.step]
      rw [List.filterMap_append, ← h.got, h.receiver, (getMessage_eq s.receiver).2]

/-- A session that runs on a link goes on running on one. -/
theorem exists_runs_from (hpb : pb.Documented) {ops : List SessionOp} (hs : ∃ l, Runs pbDecode cfg s l)
    (h : Guarded (step pb boardFields pbDecode) Ok s ops) :
    ∃ l, Runs pbDecode cfg (run (step pb boardFields pbDecode) s ops) l := by
  have hstep (s : Session Msg) (op : SessionOp) (hs : ∃ l, Runs pbDecode cfg s l) (hok : s.Ok op) :
      ∃ l, Runs pbDecode cfg (s.step pb boardFields pbDecode op) l := by
    obtain ⟨l,hl⟩ := hs
    exact hl.step boardFields hpb op hok
  exact h.invariant hstep hs

theorem exists_runs (hpb : pb.Documented) (heap : Heap) (sender receiver : Transport) (txCfg rxCfg : TransportCfg)
    {ops : List SessionOp}
    (h : Guarded (step pb boardFields pbDecode) Ok (start heap sender receiver txCfg rxCfg) ops) :
    ∃ l, Runs pbDecode txCfg (run (step pb boardFields pbDecode) (start heap sender receiver txCfg rxCfg) ops) l :=
  exists_runs_from hpb ⟨_,runs_start heap sender receiver txCfg rxCfg⟩ h

/-- Of a front of the payloads the decoder makes the same front of the messages. -/
theorem decoded_of_queued {sent : List FullMessage} (hdecode : ∀ m ∈ sent, Decodes pbDecode tree m)
    {payloads : List (List UInt8)} (h : List.Forall₂ Queued sent payloads) :
    (payloads.filterMap pbDecode).map tree = sent.map fun m => m.tree.received := by
  induction h with
  | nil => rfl
  | @cons m bytes sent payloads hqueued hrest ih =>
    obtain ⟨hfirst,hothers⟩ := List.forall_mem_cons.mp hdecode
    obtain ⟨m',hm',htree⟩ := hfirst bytes _ hqueued.encoded hqueued.read
    rw [List.filterMap_cons_some hm', List.map_cons, List.map_cons, ih hothers, htree]

theorem exists_queued {sent : List FullMessage} {payloads : List (List UInt8)} (h : List.Forall₂ Queued sent payloads) :
    ∀ p ∈ payloads, ∃ m ∈ sent, Queued m p := by
  induction h with
  | nil => simp
  | @cons m p sent payloads hqueued hrest ih =>
    refine List.forall_mem_cons.mpr ⟨⟨m,List.mem_cons_self,hqueued⟩,fun p' hp' => ?_⟩
    obtain ⟨m',hm',hqueued'⟩ := ih p' hp'
    exact ⟨m',List.mem_cons_of_mem _ hm',hqueued'⟩

/-- No payload is empty, so that the program sees all of them. -/
theorem Runs.delivered_eq (h : Runs pbDecode cfg s l) : l.rx.delivered = l.rx.extracted := by
  rw [h.inv.rx.delivered, List.filter_eq_self]
  intro p hp
  have hmem : p ∈ l.tx.accepted := by
    rw [h.inv.accepted_eq]
    exact List.mem_append_left _ hp
  obtain ⟨m,-,hqueued⟩ := exists_queued h.queued p hmem
  exact decide_eq_true (List.length_pos_iff.mpr hqueued.ne_nil)

/-- The messages received are the first ones of those sent, and what is still underway is the rest. -/
theorem Runs.got_eq (hdecode : ∀ m ∈ s.sent, Decodes pbDecode tree m) (h : Runs pbDecode cfg s l) :
    s.got.map tree = (s.sent.map fun m => m.tree.received).take l.rx.extracted.length := by
  have haccepted := h.queued
  rw [h.inv.accepted_eq] at haccepted
  have hfront := decoded_of_queued (fun m hm => hdecode m (List.mem_of_mem_take hm))
    (List.forall₂_take_append _ _ _ haccepted)
  rw [h.got, h.delivered_eq, hfront, List.map_take]

/-- A poll in a session reports no error. -/
theorem Runs.getMessage_ne_error (hdecode : ∀ m ∈ s.sent, Decodes pbDecode tree m) (h : Runs pbDecode cfg s l) :
    (whadGetMessage pbDecode s.receiver).1 ≠ .error := by
  have hpoll := h.synced.poll h.inv
  rw [h.receiver] at hpoll
  simp only [whadGetMessage]
  generalize (s.receiver.getMessage maxEncodedMessageSize).1 = r at hpoll ⊢
  generalize (s.receiver.getMessage maxEncodedMessageSize).2.rxBuf.toList = rx' at hpoll
  cases hpoll with
  | wait => simp
  | @extract p rx' hp hrx =>
    obtain ⟨m,hm,hqueued⟩ := exists_queued h.queued p hp
    obtain ⟨m',hm',-⟩ := hdecode m hm p _ hqueued.encoded hqueued.read
    by_cases hsize : 0 < p.length <;> simp [hsize, hm']

/-- What was not received is still underway. -/
theorem Runs.length_eq (h : Runs pbDecode cfg s l) :
    s.sent.length = l.rx.extracted.length +
      (wireFormat.scan (s.receiver.rxBuf.toList ++ (s.wire ++ s.sender.txBuf.toList))).length := by
  rw [h.queued.length_eq, h.inv.accepted_eq, List.length_append, h.receiver, h.wire, h.sender]

/-- With nothing underway everything was received. -/
theorem Runs.got_of_rest (hdecode : ∀ m ∈ s.sent, Decodes pbDecode tree m) (h : Runs pbDecode cfg s l)
    (hqueue : s.sender.txBuf.toList = []) (hwire : s.wire = []) (hquiet : RxQuiet s.receiver) :
    s.got.map tree = s.sent.map fun m => m.tree.received := by
  have hall := h.length_eq
  rw [hwire, hqueue, List.append_nil, List.append_nil, scan_of_quiet hquiet, List.length_nil] at hall
  rw [h.got_eq hdecode, ← Nat.add_zero l.rx.extracted.length, ← hall, ← List.length_map]
  exact List.take_length

end

/-- Messages between two programs: after every run of calls of both sides and of arrivals that overrun no
buffer, the messages received are the first ones of those that `whad_send_message` accepted, each with the
tags and all visible fields it was sent with, and no poll reports an error. When the queue is drained,
the wire is empty and polling has come to rest, all of them were received. The decoder has to read the encodings of
the messages that were sent. -/
theorem received_of_sent {Msg : Type} {pb : Nanopb} (hpb : pb.Documented)
    (boardFields : BoardMessage → Fields CallbackField) (pbDecode : List UInt8 → Option Msg) (tree : Msg → Wire)
    (heap : Heap) (sender receiver : Transport) (txCfg rxCfg : TransportCfg) (ops : List SessionOp)
    (h : Guarded (step pb boardFields pbDecode) Ok (start heap sender receiver txCfg rxCfg) ops)
    (hdecode : ∀ m ∈ (run (step pb boardFields pbDecode) (start heap sender receiver txCfg rxCfg) ops).sent,
      Decodes pbDecode tree m) :
    let s := run (step pb boardFields pbDecode) (start heap sender receiver txCfg rxCfg) ops
    s.got.map tree <+: s.sent.map (fun m => m.tree.received) ∧
      (whadGetMessage pbDecode s.receiver).1 ≠ .error ∧
      (s.sender.txBuf.toList = [] → s.wire = [] → RxQuiet s.receiver →
        s.got.map tree = s.sent.map fun m => m.tree.received) := by
  intro s
  obtain ⟨l,hl⟩ : ∃ l, Runs pbDecode txCfg s l := exists_runs hpb heap sender receiver txCfg rxCfg h
  refine ⟨?_,hl.getMessage_ne_error hdecode,hl.got_of_rest hdecode⟩
  rw [hl.got_eq hdecode]
  exact List.take_prefix _ _

/-- A command that arrives in two pieces, with a poll in between. -/
theorem received_of_sent_sniffAdv :
    let m := (default : FullMessage).put (.ble .sniffAdv) ⟨true,37,Vector.replicate 6 0xFF⟩
    let ops : List SessionOp := [.send m,.sendPending,.arrive 7,.getMessage,.dataSent,.arrive 15,.getMessage]
    let s := run (step Nanopb.plain (fun _ => .nil) readMessageBytes)
      (start Heap.empty gwTransport gwTransport ⟨64,true⟩ ⟨0,false⟩) ops
    s.got.map id = s.sent.map fun m => m.tree.received := by
  intro m ops s
  refine (received_of_sent Nanopb.plain_documented (fun _ => .nil) readMessageBytes id Heap.empty gwTransport gwTransport
    ⟨64,true⟩ ⟨0,false⟩ ops ?_ fun _ _ _ w _ hread => ⟨w,hread,rfl⟩).2.2 (by decide +kernel) (by decide +kernel)
    (by unfold RxQuiet; decide +kernel)
  exact ⟨⟨by decide,⟨⟨trivial,trivial⟩,trivial⟩⟩,trivial,by unfold Ok; decide +kernel,trivial,trivial,
    by unfold Ok; decide +kernel,trivial,trivial⟩

end Session
end WhadLib
