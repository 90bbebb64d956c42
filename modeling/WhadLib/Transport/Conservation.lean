import WhadLib.Transport
import WhadLib.Library.StepSystem

/-! Sequential runs of the sending side. Whatever the order of the calls, the bytes handed to
the callback followed by the bytes still queued are the frames of exactly the messages that
were accepted. -/
namespace WhadLib
open Library

/-- The calls that touch the TX side. -/
inductive TxOp
  | sendMessage (message : Option (ℕ → UInt8)) (size : ℤ)
  | sendPending
  | dataSent

/-- A transport together with the payloads it has accepted so far. -/
structure TxRun where
  transport : Transport
  accepted : List (List UInt8)

def txStart (t : Transport) (cfg : TransportCfg) : TxRun := ⟨t.init cfg,[]⟩

def txStep (s : TxRun) : TxOp → TxRun
  | .sendMessage message size =>
    let r := s.transport.sendMessage message size
    ⟨r.2,if r.1 = .success then s.accepted ++ [payloadOf message size] else s.accepted⟩
  | .sendPending => ⟨s.transport.sendPending.2,s.accepted⟩
  | .dataSent => ⟨s.transport.dataSent,s.accepted⟩

/-- A frame as the protocol defines it: magic, little-endian payload size, payload. -/
def wireFrame (payload : List UInt8) : List UInt8 :=
  0xAC :: 0xBE :: UInt8.ofNat (payload.length % 256) :: UInt8.ofNat (payload.length / 256) :: payload

/-- The masks and shifts of the source write the little-endian size. -/
theorem frame_eq_wireFrame {payload : List UInt8} (h : payload.length ≤ maxEncodedMessageSize) :
    frame payload = wireFrame payload := by
  have hlow : payload.length &&& 0xff = payload.length % 256 :=
    Nat.and_two_pow_sub_one_eq_mod payload.length 8
  have hhigh : (payload.length >>> 8) &&& 0xff = payload.length / 256 := by
    rw [Nat.shiftRight_eq_div_pow]
    have hmod : payload.length / 2^8 &&& 0xff = payload.length / 2^8 % 2^8 :=
      Nat.and_two_pow_sub_one_eq_mod _ 8
    have hle : payload.length ≤ 1019 := h
    omega
  simp only [frame, frameHeader, wireFrame, hlow, hhigh]
  rfl

theorem payloadOf_length_le {message : Option (ℕ → UInt8)} {size : ℤ}
    (h : Transport.Sendable message size) : (payloadOf message size).length ≤ maxEncodedMessageSize := by
  have hle := h.2.1
  rw [payloadOf, bytesAt_length]
  omega

/-- One chunk was handed to the callback and removed from the queue; nothing else changed but
the state. -/
def ChunkHanded (t t' : Transport) : Prop :=
  t.state = .idle ∧ ∃ k, 1 ≤ k ∧ k ≤ t.txBuf.toList.length ∧
    t' = { t with
      state := .sending
      handed := t.handed ++ [t.txBuf.toList.take k]
      txBuf := (t.txBuf.skip k).2 } ∧
    t'.txBuf.toList = t.txBuf.toList.drop k

/-- What holds in every state of a sequential run. -/
structure TxInv (cfg : TransportCfg) (s : TxRun) : Prop where
  config : s.transport.config = cfg
  stream : s.transport.stream = (s.accepted.map frame).flatten
  lengths : ∀ p ∈ s.accepted, p.length ≤ maxEncodedMessageSize
  buffers : ∀ buf ∈ s.transport.handed, buf.length ≤ cfg.maxTxbufSize ∧
    (1 ≤ cfg.maxTxbufSize → 1 ≤ buf.length)

theorem txInv_start (t : Transport) (cfg : TransportCfg) : TxInv cfg (txStart t cfg) := by
  constructor <;> simp [txStart, Transport.init, Transport.stream]

theorem TxInv.sendPending {cfg : TransportCfg} {s : TxRun} (h : TxInv cfg s) :
    TxInv cfg ⟨s.transport.sendPending.2,s.accepted⟩ where
  config := by rw [Transport.sendPending_config, h.config]
  stream := by rw [Transport.sendPending_stream, h.stream]
  lengths := h.lengths
  buffers := by
    rcases s.transport.sendPending_cases with ⟨_,hsame⟩ | ⟨_,_,_,hpos,hnew⟩
    · rw [hsame]
      exact h.buffers
    · rw [hnew]
      intro buf hbuf
      rcases List.mem_append.mp hbuf with hold | hlast
      · exact h.buffers buf hold
      · rw [List.mem_singleton.mp hlast, List.length_take, Transport.chunkSize, h.config]
        omega

/-- Only the send functions change what the invariant speaks about. -/
theorem TxInv.dataSent {cfg : TransportCfg} {s : TxRun} (h : TxInv cfg s) :
    TxInv cfg ⟨s.transport.dataSent,s.accepted⟩ := by
  unfold Transport.dataSent
  split
  · exact ⟨h.config,h.stream,h.lengths,h.buffers⟩
  · exact h

theorem TxInv.step {cfg : TransportCfg} (s : TxRun) (op : TxOp) (h : TxInv cfg s) :
    TxInv cfg (txStep s op) := by
  cases op with
  | sendPending => exact h.sendPending
  | dataSent => exact h.dataSent
  | sendMessage message size =>
    rcases s.transport.sendMessage_cases message size with ⟨hres,hsame | ⟨_,hsent⟩⟩ |
      ⟨hres,hsize,t',tx,hwait,hqueue,hnew⟩
    · simp only [txStep, hres, if_false, hsame]
      exact h
    · simp only [txStep, hres, if_false, hsent]
      exact h.sendPending
    · have hinv : TxInv cfg ⟨t',s.accepted⟩ := by
        rcases hwait with rfl | ⟨_,rfl⟩
        · exact h
        · exact h.sendPending
      simp only [txStep, hres, if_true, hnew]
      refine ⟨hinv.config,?_,?_,hinv.buffers⟩
      · have hstream := hinv.stream
        simp only [Transport.stream] at hstream ⊢
        rw [hqueue, ← List.append_assoc, hstream]
        simp
      · intro p hp
        rcases List.mem_append.mp hp with hold | hlast
        · exact h.lengths p hold
        · rw [List.mem_singleton.mp hlast]
          exact payloadOf_length_le hsize

theorem txInv_run (t : Transport) (cfg : TransportCfg) (ops : List TxOp) :
    TxInv cfg (run txStep (txStart t cfg) ops) :=
  run_invariant TxInv.step ops (txInv_start t cfg)

theorem chunkHanded_of_sendPending {t : Transport} (hmax : 1 ≤ t.config.maxTxbufSize)
    (hstate : t.state = .idle) : t.sendPending.2 = t ∨ ChunkHanded t t.sendPending.2 := by
  rcases t.sendPending_cases with ⟨_,hsame⟩ | ⟨_,_,_,hpos,hnew⟩
  · exact .inl hsame
  · right
    refine ⟨hstate,t.chunkSize,?_,Nat.min_le_left _ _,hnew,?_⟩
    · rw [Transport.chunkSize]
      omega
    · rw [hnew]
      exact (t.txBuf.skip_of_le _ (Nat.min_le_left _ _)).2

/-- In `sending` no call reaches the callback. -/
theorem handed_of_sending (s : TxRun) (op : TxOp) (h : s.transport.state = .sending) :
    (txStep s op).transport.handed = s.transport.handed := by
  have hpending : s.transport.sendPending.2 = s.transport := by
    rcases s.transport.sendPending_cases with ⟨_,hsame⟩ | ⟨_,hidle,_⟩
    · exact hsame
    · rw [h] at hidle
      contradiction
  cases op with
  | sendPending => rw [txStep, hpending]
  | dataSent => simp [txStep, Transport.dataSent, h]
  | sendMessage message size =>
    rcases s.transport.sendMessage_cases message size with ⟨_,hsame | ⟨_,hsent⟩⟩ |
      ⟨_,_,t',tx,hwait,_,hnew⟩
    · rw [txStep, hsame]
    · rw [txStep, hsent, hpending]
    · rw [txStep, hnew]
      rcases hwait with rfl | ⟨_,rfl⟩
      · rfl
      · rw [hpending]

/-- Conservation on the sending side, for every sequential run: the bytes handed over and the
bytes queued are the frames of the accepted messages; a refused message adds nothing, and at
most lets one chunk of older bytes go out; chunks have between one and `maxTxbufSize` bytes;
and a call made in `sending` never invokes the callback. -/
theorem tx_conservation (t : Transport) (cfg : TransportCfg) (hmax : 1 ≤ cfg.maxTxbufSize)
    (ops : List TxOp) :
    let s := run txStep (txStart t cfg) ops
    s.transport.handed.flatten ++ s.transport.txBuf.toList = (s.accepted.map wireFrame).flatten ∧
      (∀ message size, (s.transport.sendMessage message size).1 ≠ .success →
        (s.transport.sendMessage message size).2 = s.transport ∨
          ChunkHanded s.transport (s.transport.sendMessage message size).2) ∧
      (∀ buf ∈ s.transport.handed, 1 ≤ buf.length ∧ buf.length ≤ cfg.maxTxbufSize) ∧
      (s.transport.state = .sending →
        ∀ op, (txStep s op).transport.handed = s.transport.handed) := by
  intro s
  have hinv : TxInv cfg s := txInv_run t cfg ops
  refine ⟨?_,?_,fun buf hbuf => ⟨(hinv.buffers buf hbuf).2 hmax,(hinv.buffers buf hbuf).1⟩,?_⟩
  · have hframes : s.accepted.map frame = s.accepted.map wireFrame :=
      List.map_congr_left fun p hp => frame_eq_wireFrame (hinv.lengths p hp)
    rw [← hframes]
    exact hinv.stream
  · intro message size hres
    rcases s.transport.sendMessage_cases message size with ⟨_,hsame | ⟨hidle,hsent⟩⟩ | ⟨hok,_⟩
    · exact .inl hsame
    · rw [hsent]
      exact chunkHanded_of_sendPending (by rw [hinv.config]; exact hmax) hidle
    · exact absurd hok hres
  · exact fun hsending op => handed_of_sending s op hsending

/-- Two messages, the second while the first is on its way, with chunks of three bytes. -/
theorem tx_conservation_two_messages :
    let s := run txStep (txStart gwTransport ⟨3,true⟩)
      [.sendMessage (some fun _ => 7) 2,.sendPending,.sendMessage none 0,.dataSent,.sendPending]
    s.transport.handed.flatten ++ s.transport.txBuf.toList = (s.accepted.map wireFrame).flatten :=
  (tx_conservation gwTransport ⟨3,true⟩ (by decide) _).1

end WhadLib
