import WhadLib.Ringbuf
import WhadLib.Library.FrameScan

/-! The transport layer: an RX ring fed by the UART and read frame by frame, a TX ring filled
with whole frames and drained in chunks through the send callback. All functions work on the
one static transport of the source, here passed explicitly.

The callback is outside code. Here it only takes the buffer it is given, and the buffers are
recorded in call order; callbacks that call back into the library are the subject of
`WhadLib.Transport.Completion`. -/
namespace WhadLib

/-- `WHAD_TRANSPORT_FRAME_HEADER_SIZE`. -/
def frameHeaderSize : ℕ := 4

/-- `WHAD_MAX_ENCODED_MESSAGE_SIZE`. -/
def maxEncodedMessageSize : ℕ := ringbufCapacity - frameHeaderSize

/-- `whad_transport_state_t`. -/
inductive TransportState
  | idle
  | sending
  deriving DecidableEq, Repr

/-- `whad_transport_cfg_t`; the flag says whether the callback pointer is set. -/
structure TransportCfg where
  maxTxbufSize : ℕ
  pfnDataSendBuffer : Bool
  deriving DecidableEq, Repr

/-- `whad_transport_t`, with the buffers handed to the callback since initialisation. -/
structure Transport where
  state : TransportState
  rxBuf : Ringbuf UInt8
  txBuf : Ringbuf UInt8
  config : TransportCfg
  handed : List (List UInt8)

/-- The bytes a caller's pointer gives when `size` bytes are read from it. -/
def bytesAt (message : ℕ → UInt8) (size : ℕ) : List UInt8 := (List.range size).map message

@[simp] theorem bytesAt_length (message : ℕ → UInt8) (size : ℕ) :
    (bytesAt message size).length = size := by simp [bytesAt]

/-- The payload a call of `whad_transport_send_message` reads; `none` stands for `NULL`. -/
def payloadOf (message : Option (ℕ → UInt8)) (size : ℤ) : List UInt8 :=
  bytesAt (message.getD fun _ => 0) size.toNat

def frameHeader (size : ℕ) : List UInt8 :=
  [0xAC,0xBE,UInt8.ofNat (size &&& 0xff),UInt8.ofNat ((size >>> 8) &&& 0xff)]

/-- A frame on the wire: header and payload. -/
def frame (payload : List UInt8) : List UInt8 := frameHeader payload.length ++ payload

@[simp] theorem frameHeader_length (size : ℕ) : (frameHeader size).length = frameHeaderSize := rfl

@[simp] theorem frame_length (payload : List UInt8) :
    (frame payload).length = frameHeaderSize + payload.length := by simp [frame]

/-- The push loops of `whad_transport_send_message`: `pushed` counts the bytes pushed so far,
and a push that fails skips that many bytes and ends the call. -/
def pushLoop {α : Type*} (tx : Ringbuf α) (pushed : ℕ) : List α → WhadResult × ℕ × Ringbuf α
  | [] => (.success, pushed, tx)
  | b :: bs =>
    match tx.push b with
    | (.success, tx') => pushLoop tx' (pushed+1) bs
    | (_, tx') => (.ringbufFull, pushed, (tx'.skip pushed).2)

/-- The loop of `whad_transport_data_received`: the bytes pushed before a full ring stay. -/
def receiveLoop (rx : Ringbuf UInt8) : List UInt8 → WhadResult × Ringbuf UInt8
  | [] => (.success, rx)
  | b :: bs =>
    match rx.push b with
    | (.ringbufFull, rx') => (.ringbufFull, rx')
    | (_, rx') => receiveLoop rx' bs

/-- The zero-filled static storage of the transport at program start. -/
def gwTransport : Transport where
  state := .idle
  rxBuf := ⟨0,0,Vector.replicate ringbufMaxSize 0⟩
  txBuf := ⟨0,0,Vector.replicate ringbufMaxSize 0⟩
  config := ⟨0,false⟩
  handed := []

namespace Transport

def init (t : Transport) (cfg : TransportCfg) : Transport where
  state := .idle
  rxBuf := t.rxBuf.init
  txBuf := t.txBuf.init
  config := cfg
  handed := []

def dataReceived (t : Transport) (data : List UInt8) : WhadResult × Transport :=
  ((receiveLoop t.rxBuf data).1, { t with rxBuf := (receiveLoop t.rxBuf data).2 })

def sendPending (t : Transport) : WhadResult × Transport :=
  if t.state ≠ .idle then (.error, t)
  else if t.config.pfnDataSendBuffer then
    if 0 < t.txBuf.getSize then
      let bufSize := if t.config.maxTxbufSize < t.txBuf.getSize then t.config.maxTxbufSize else t.txBuf.getSize
      match t.txBuf.copy bufSize with
      | (.success, buffer) =>
        (.success, { t with
          state := .sending
          handed := t.handed ++ [buffer]
          txBuf := (t.txBuf.skip bufSize).2 })
      | _ => (.error, t)
    else (.ringbufEmpty, t)
  else (.success, t)

def waitTxSpace (t : Transport) (size : ℕ) : WhadResult × Transport :=
  if size ≤ t.txBuf.getFreeSize then (.success, t)
  else
    let t' := if t.state = .idle then t.sendPending.2 else t
    if size ≤ t'.txBuf.getFreeSize then (.success, t') else (.ringbufFull, t')

def sendMessage (t : Transport) (message : Option (ℕ → UInt8)) (size : ℤ) : WhadResult × Transport :=
  if message.isNone ∧ 0 < size then (.error, t)
  else if size < 0 ∨ (maxEncodedMessageSize : ℤ) < size then (.error, t)
  else
    match t.waitTxSpace (size.toNat + frameHeaderSize) with
    | (.success, t') =>
      match pushLoop t'.txBuf 0 (frameHeader size.toNat) with
      | (.success, pushed, tx) =>
        let done := pushLoop tx pushed (payloadOf message size)
        (done.1, { t' with txBuf := done.2.2 })
      | (result, _, tx) => (result, { t' with txBuf := tx })
    | (_, t') => (.ringbufFull, t')

def dataSent (t : Transport) : Transport :=
  if t.state = .sending then { t with state := .idle } else t

end Transport

/-- What a call of `whad_transport_get_message` gives back: its result, the value left in
`*p_size`, and the bytes copied into the destination when a frame was extracted. -/
structure Received where
  result : WhadResult
  size : ℕ
  payload : Option (List UInt8)
  deriving DecidableEq, Repr

/-- `header[2] | (header[3] << 8)`. -/
def announcedSize (header : List UInt8) : ℕ :=
  (header.getD 2 0).toNat ||| ((header.getD 3 0).toNat <<< 8)

/-- `pSize` is the size of the destination buffer. -/
def Transport.getMessage (t : Transport) (pSize : ℕ) : Received × Transport :=
  if frameHeaderSize ≤ t.rxBuf.getSize then
    match t.rxBuf.copy frameHeaderSize with
    | (.error, _) => (⟨.error,0,none⟩, t)
    | (_, header) =>
      if header.getD 0 0 = 0xAC ∧ header.getD 1 0 = 0xBE then
        let size := announcedSize header
        if maxEncodedMessageSize < size then
          (⟨.error,0,none⟩, { t with rxBuf := (t.rxBuf.skip 1).2 })
        else if size ≤ pSize then
          if size + frameHeaderSize ≤ t.rxBuf.getSize then
            let rx := (t.rxBuf.skip frameHeaderSize).2
            (⟨.success,size,some (rx.copy size).2⟩, { t with rxBuf := (rx.skip size).2 })
          else (⟨.success,0,none⟩, t)
        else (⟨.error,size,none⟩, t)
      else if header.getD 1 0 = 0xAC then
        (⟨.success,0,none⟩, { t with rxBuf := (t.rxBuf.skip 1).2 })
      else (⟨.success,0,none⟩, { t with rxBuf := (t.rxBuf.skip 2).2 })
  else (⟨.success,0,none⟩, t)

theorem maxEncodedMessageSize_add : maxEncodedMessageSize + frameHeaderSize = ringbufCapacity := rfl

/-- With room for all bytes every push succeeds. -/
theorem pushLoop_of_le {α : Type*} (bytes : List α) (tx : Ringbuf α) (pushed : ℕ)
    (h : tx.toList.length + bytes.length ≤ ringbufCapacity) :
    (pushLoop tx pushed bytes).1 = .success ∧
      (pushLoop tx pushed bytes).2.1 = pushed + bytes.length ∧
      (pushLoop tx pushed bytes).2.2.toList = tx.toList ++ bytes := by
  induction bytes generalizing tx pushed with
  | nil => simp [pushLoop]
  | cons b bs ih =>
    rw [List.length_cons] at h
    obtain ⟨hres,hlist⟩ := tx.push_of_lt b (by omega)
    cases hpush : tx.push b with
    | mk res tx' =>
      rw [hpush] at hres hlist
      simp only at hres hlist
      subst hres
      have hrest := ih tx' (pushed+1) (by rw [hlist, List.length_append, List.length_singleton]; omega)
      simp only [pushLoop, hpush]
      refine ⟨hrest.1,?_,?_⟩
      · rw [hrest.2.1, List.length_cons]
        omega
      · rw [hrest.2.2, hlist, List.append_assoc, List.singleton_append]

/-- The loop takes the bytes there is room for. -/
theorem receiveLoop_takes (data : List UInt8) (rx : Ringbuf UInt8) :
    (receiveLoop rx data).1 = (if data.length ≤ rx.getFreeSize then .success else .ringbufFull) ∧
      (receiveLoop rx data).2.toList = rx.toList ++ data.take rx.getFreeSize := by
  induction data generalizing rx with
  | nil => simp [receiveLoop]
  | cons b bs ih =>
    have hfree := rx.toList_length_add_getFreeSize
    rcases rx.push_result b with ⟨hres,hlt⟩ | ⟨hres,hfull⟩
    · have hlist := (rx.push_of_lt b hlt).2
      cases hpush : rx.push b with
      | mk res rx' =>
        rw [hpush] at hres hlist
        simp only at hres hlist
        subst hres
        have hroom : rx.getFreeSize = rx'.getFreeSize + 1 := by
          have hfree' := rx'.toList_length_add_getFreeSize
          rw [hlist, List.length_append, List.length_singleton] at hfree'
          omega
        obtain ⟨hok,hrest⟩ := ih rx'
        simp only [receiveLoop, hpush]
        rw [hok, hrest, hlist, hroom, List.take_succ_cons, List.length_cons]
        simp
    · have hzero : rx.getFreeSize = 0 := by omega
      simp [receiveLoop, rx.push_of_full b hfull, hzero]

/-- A chunk that fits is appended whole; a chunk that does not is reported. -/
theorem receiveLoop_result (data : List UInt8) (rx : Ringbuf UInt8) :
    ((receiveLoop rx data).1 = .success ∧ (receiveLoop rx data).2.toList = rx.toList ++ data) ∨
      (receiveLoop rx data).1 = .ringbufFull := by
  obtain ⟨hres,hlist⟩ := receiveLoop_takes data rx
  rw [hres, hlist]
  by_cases hfits : data.length ≤ rx.getFreeSize
  · rw [List.take_of_length_le hfits]
    exact .inl ⟨if_pos hfits,rfl⟩
  · exact .inr (if_neg hfits)

namespace Transport
variable (t : Transport)

theorem dataReceived_of_success (data : List UInt8) (h : (t.dataReceived data).1 = .success) :
    (t.dataReceived data).2.rxBuf.toList = t.rxBuf.toList ++ data := by
  rcases receiveLoop_result data t.rxBuf with ⟨_,happ⟩ | hno
  · exact happ
  · rw [dataReceived, hno] at h
    contradiction

/-- The number of bytes the next chunk takes. -/
def chunkSize : ℕ := min t.txBuf.toList.length t.config.maxTxbufSize

/-- Everything `whad_transport_send_pending` can do: nothing, or, from `idle` and with bytes
queued, hand over the next chunk. -/
theorem sendPending_cases :
    (t.sendPending.1 ≠ .success ∨ t.config.pfnDataSendBuffer = false) ∧ t.sendPending.2 = t ∨
      t.sendPending.1 = .success ∧ t.state = .idle ∧ t.config.pfnDataSendBuffer = true ∧
        0 < t.txBuf.toList.length ∧
        t.sendPending.2 = { t with
          state := .sending
          handed := t.handed ++ [t.txBuf.toList.take t.chunkSize]
          txBuf := (t.txBuf.skip t.chunkSize).2 } := by
  unfold sendPending
  by_cases hstate : t.state = .idle
  · by_cases hcb : t.config.pfnDataSendBuffer = true
    · by_cases hsize : 0 < t.txBuf.getSize
      · right
        have hchunk : (if t.config.maxTxbufSize < t.txBuf.getSize then t.config.maxTxbufSize
            else t.txBuf.getSize) = t.chunkSize := by
          rw [chunkSize, Ringbuf.toList_length]
          split <;> omega
        have hcopy := t.txBuf.copy_of_le t.chunkSize (Nat.min_le_left _ _)
        simp [hstate, hcb, hsize, hchunk, hcopy]
      · left
        simp [hstate, hcb, hsize]
    · left
      simp [hstate, hcb]
  · left
    simp [hstate]

/-- The bytes handed over so far followed by the bytes still queued. -/
def stream : List UInt8 := t.handed.flatten ++ t.txBuf.toList

/-- Sending moves bytes from the queue to the callback and loses none. -/
theorem sendPending_stream : t.sendPending.2.stream = t.stream := by
  rcases t.sendPending_cases with ⟨_,h⟩ | ⟨_,_,_,_,h⟩
  · rw [h]
  · have hskip := (t.txBuf.skip_of_le t.chunkSize (Nat.min_le_left _ _)).2
    rw [h]
    simp [stream, hskip]

@[simp] theorem sendPending_config : t.sendPending.2.config = t.config := by
  rcases t.sendPending_cases with ⟨_,h⟩ | ⟨_,_,_,_,h⟩ <;> rw [h]

@[simp] theorem sendPending_rxBuf : t.sendPending.2.rxBuf = t.rxBuf := by
  rcases t.sendPending_cases with ⟨_,h⟩ | ⟨_,_,_,_,h⟩ <;> rw [h]

/-- Waiting for space calls `whad_transport_send_pending` at most once, and only from `idle`. -/
theorem waitTxSpace_cases (size : ℕ) :
    ((t.waitTxSpace size).2 = t ∨ t.state = .idle ∧ (t.waitTxSpace size).2 = t.sendPending.2) ∧
      ((t.waitTxSpace size).1 = .success ∧ size ≤ (t.waitTxSpace size).2.txBuf.getFreeSize ∨
        (t.waitTxSpace size).1 = .ringbufFull) := by
  unfold waitTxSpace
  by_cases hfree : size ≤ t.txBuf.getFreeSize
  · simp [hfree]
  · rw [if_neg hfree]
    by_cases hstate : t.state = .idle
    · simp only [hstate, if_true]
      split <;> simp_all
    · simp only [hstate, if_false]
      split <;> simp_all

/-- The size checks of `whad_transport_send_message`. -/
def Sendable (message : Option (ℕ → UInt8)) (size : ℤ) : Prop :=
  0 ≤ size ∧ size ≤ maxEncodedMessageSize ∧ (message = none → size = 0)

/-- Everything `whad_transport_send_message` can do: fail, with at most one chunk sent, or
append the whole frame to what waiting for space left in the queue. -/
theorem sendMessage_cases (message : Option (ℕ → UInt8)) (size : ℤ) :
    ((t.sendMessage message size).1 ≠ .success ∧
        ((t.sendMessage message size).2 = t ∨
          t.state = .idle ∧ (t.sendMessage message size).2 = t.sendPending.2)) ∨
      ((t.sendMessage message size).1 = .success ∧ Sendable message size ∧
        ∃ t' tx, (t' = t ∨ t.state = .idle ∧ t' = t.sendPending.2) ∧
          tx.toList = t'.txBuf.toList ++ frame (payloadOf message size) ∧
          (t.sendMessage message size).2 = { t' with txBuf := tx }) := by
  unfold sendMessage
  by_cases hnull : message.isNone ∧ 0 < size
  · left
    simp [hnull]
  rw [if_neg hnull]
  by_cases hrange : size < 0 ∨ (maxEncodedMessageSize : ℤ) < size
  · left
    simp [hrange]
  rw [if_neg hrange]
  obtain ⟨hstep,hspace⟩ := t.waitTxSpace_cases (size.toNat + frameHeaderSize)
  cases hwait : t.waitTxSpace (size.toNat + frameHeaderSize) with
  | mk res t' =>
    rw [hwait] at hstep hspace
    simp only at hstep hspace
    rcases hspace with ⟨rfl,hfree⟩ | rfl
    · right
      have hroom := t'.txBuf.toList_length_add_getFreeSize
      obtain ⟨hres,hcount,hlist⟩ := pushLoop_of_le (frameHeader size.toNat) t'.txBuf 0
        (by rw [frameHeader_length]; omega)
      cases hhead : pushLoop t'.txBuf 0 (frameHeader size.toNat) with
      | mk r rest =>
        obtain ⟨pushed,tx⟩ := rest
        rw [hhead] at hres hlist
        simp only at hres hlist
        subst hres
        obtain ⟨hres',_,hlist'⟩ := pushLoop_of_le (payloadOf message size) tx pushed (by
          rw [hlist, List.length_append, frameHeader_length, payloadOf, bytesAt_length]
          omega)
        simp only [hhead]
        refine ⟨hres',⟨by omega,by omega,?_⟩,t',_,hstep,?_,rfl⟩
        · rintro rfl
          simp only [Option.isNone_none, true_and] at hnull
          omega
        · rw [hlist', hlist, List.append_assoc, frame, payloadOf, bytesAt_length]
    · left
      exact ⟨by simp,hstep⟩

end Transport
end WhadLib
