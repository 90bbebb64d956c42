import WhadLib.Transport
import WhadLib.Library.StepSystem

/-! The receiving side. The reference scanner of the protocol looks for the magic `AC BE` with a
payload size that fits, and the incremental parser of the source, polled at any time and fed in
any chunks, extracts exactly what the scanner finds in the bytes received. -/
namespace WhadLib
open Library

/-- The frame header of the protocol: magic, then the payload size in little-endian order. -/
def wireFormat : FrameFormat UInt8 where
  headerLen := 4
  headerLen_pos := by decide
  payloadLen
    | [a,b,c,d] =>
      let size := c.toNat + 256*d.toNat
      if a = 0xAC ∧ b = 0xBE ∧ size ≤ maxEncodedMessageSize then some size else none
    | _ => none

@[simp] theorem wireFormat_headerLen : wireFormat.headerLen = 4 := rfl

/-- The header read from four bytes at the front of a stream. -/
theorem announced_cons (a b c d : UInt8) (s : List UInt8) :
    wireFormat.announced (a :: b :: c :: d :: s) =
      if a = 0xAC ∧ b = 0xBE ∧ c.toNat + 256*d.toNat ≤ maxEncodedMessageSize then
        some (c.toNat + 256*d.toNat) else none := by
  rw [FrameFormat.announced, if_neg (by simp)]
  rfl

/-- A stream that does not start with the first magic byte announces nothing. -/
theorem announced_of_head_ne {a : UInt8} (ha : a ≠ 0xAC) (s : List UInt8) :
    wireFormat.announced (a :: s) = none := by
  rcases s with _ | ⟨b,_ | ⟨c,_ | ⟨d,s⟩⟩⟩ <;> simp [FrameFormat.announced, wireFormat, ha]

/-- An announced payload always fits the ring together with its header. -/
theorem announced_le {s : List UInt8} {n : ℕ} (h : wireFormat.announced s = some n) :
    n ≤ maxEncodedMessageSize := by
  rcases s with _ | ⟨a,_ | ⟨b,_ | ⟨c,_ | ⟨d,s⟩⟩⟩⟩
  · simp [FrameFormat.announced, wireFormat] at h
  · simp [FrameFormat.announced, wireFormat] at h
  · simp [FrameFormat.announced, wireFormat] at h
  · simp [FrameFormat.announced, wireFormat] at h
  · rw [announced_cons] at h
    split at h
    · rename_i hvalid
      rw [Option.some.injEq] at h
      omega
    · contradiction

/-- The shift and or of the source read the little-endian size. -/
theorem announcedSize_eq (a b c d : UInt8) : announcedSize [a,b,c,d] = c.toNat + 256*d.toNat := by
  have hc : c.toNat < 2^8 := c.toNat_lt
  have hor := Nat.shiftLeft_add_eq_or_of_lt hc d.toNat
  rw [Nat.shiftLeft_eq] at hor
  simp only [announcedSize, List.getD_cons_succ, List.getD_cons_zero]
  rw [Nat.or_comm, Nat.shiftLeft_eq, ← hor]
  omega

/-- What a poll with a large enough destination does to the received bytes: it extracts the
frame they start with, stands still because something is missing, or drops one or two bytes
at which no frame can start. -/
inductive PollEffect (rx : List UInt8) : Received → List UInt8 → Prop
  | extract {p} (hframe : wireFormat.frameAt rx = some p) :
      PollEffect rx ⟨.success,p.length,some p⟩ (rx.drop (frameHeaderSize+p.length))
  | wait (hwait : wireFormat.Waits rx) : PollEffect rx ⟨.success,0,none⟩ rx
  | drop {k : ℕ} {result} (hk : 0 < k) (hle : k ≤ rx.length)
      (hnone : ∀ i < k, ∀ future, wireFormat.announced ((rx ++ future).drop i) = none) :
      PollEffect rx ⟨result,0,none⟩ (rx.drop k)

theorem getMessage_effect (t : Transport) {pSize : ℕ} (hp : maxEncodedMessageSize ≤ pSize) :
    PollEffect t.rxBuf.toList (t.getMessage pSize).1 (t.getMessage pSize).2.rxBuf.toList := by
  have hsize : t.rxBuf.getSize = t.rxBuf.toList.length := t.rxBuf.toList_length.symm
  by_cases hshort : t.rxBuf.toList.length < 4
  · have hget : t.getMessage pSize = (⟨.success,0,none⟩, t) := by
      rw [Transport.getMessage, if_neg (by rw [hsize, frameHeaderSize]; omega)]
    rw [hget]
    exact .wait (.inl hshort)
  -- the ring starts with four bytes: look at them
  obtain ⟨a,b,c,d,s,hrx⟩ : ∃ a b c d s, t.rxBuf.toList = a :: b :: c :: d :: s := by
    rcases hl : t.rxBuf.toList with _ | ⟨a,_ | ⟨b,_ | ⟨c,_ | ⟨d,s⟩⟩⟩⟩ <;> simp_all
  have hfour : frameHeaderSize ≤ t.rxBuf.getSize := by rw [hsize, frameHeaderSize]; omega
  have hcopy : t.rxBuf.copy frameHeaderSize = (.success, [a,b,c,d]) := by
    rw [t.rxBuf.copy_of_le _ (by rw [← hsize]; exact hfour), hrx]
    rfl
  have hskip (k : ℕ) (hk : k ≤ 4) : (t.rxBuf.skip k).2.toList = t.rxBuf.toList.drop k :=
    (t.rxBuf.skip_of_le k (by omega)).2
  simp only [Transport.getMessage, hfour, if_true, hcopy, List.getD_cons_zero, List.getD_cons_succ,
    announcedSize_eq]
  by_cases hmagic : a = 0xAC ∧ b = 0xBE
  · rw [if_pos hmagic]
    by_cases hbig : maxEncodedMessageSize < c.toNat + 256*d.toNat
    · rw [if_pos hbig, hskip 1 (by decide)]
      refine .drop (by decide) (by omega) fun i hi future => ?_
      obtain rfl : i = 0 := by omega
      rw [List.drop_zero, hrx]
      simp [announced_cons, show ¬c.toNat + 256*d.toNat ≤ maxEncodedMessageSize by omega]
    · have hn : wireFormat.announced t.rxBuf.toList = some (c.toNat + 256*d.toNat) := by
        rw [hrx, announced_cons, if_pos ⟨hmagic.1,hmagic.2,by omega⟩]
      rw [if_neg hbig, if_pos (by omega)]
      by_cases hfit : c.toNat + 256*d.toNat + frameHeaderSize ≤ t.rxBuf.getSize
      · rw [if_pos hfit]
        rw [hsize] at hfit
        have hrest : (t.rxBuf.skip frameHeaderSize).2.toList = t.rxBuf.toList.drop frameHeaderSize :=
          hskip 4 (by decide)
        have hlen : c.toNat + 256*d.toNat ≤ (t.rxBuf.skip frameHeaderSize).2.toList.length := by
          rw [hrest, List.length_drop]
          omega
        have hframe : wireFormat.frameAt t.rxBuf.toList =
            some ((t.rxBuf.toList.drop frameHeaderSize).take (c.toNat + 256*d.toNat)) :=
          wireFormat.frameAt_of_announced hn
            (by rw [wireFormat_headerLen]; rw [frameHeaderSize] at hfit; omega)
        have heffect := PollEffect.extract hframe
        rw [Ringbuf.copy_of_le _ _ hlen, (Ringbuf.skip_of_le _ _ hlen).2, hrest, List.drop_drop]
        rw [hrest] at hlen
        rw [List.length_take_of_le hlen] at heffect
        exact heffect
      · rw [if_neg hfit]
        rw [hsize, frameHeaderSize] at hfit
        exact .wait (.inr ⟨_,hn,by rw [wireFormat_headerLen]; omega⟩)
  · rw [if_neg hmagic]
    -- no magic at the front: one byte goes, or two when the second cannot start a frame either
    have hfirst : ∀ future, wireFormat.announced ((t.rxBuf.toList ++ future).drop 0) = none := by
      intro future
      rw [List.drop_zero, hrx, List.cons_append, List.cons_append, List.cons_append, List.cons_append,
        announced_cons, if_neg fun h => hmagic ⟨h.1,h.2.1⟩]
    by_cases hsecond : b = 0xAC
    · rw [if_pos hsecond, hskip 1 (by decide)]
      refine .drop (by decide) (by omega) fun i hi future => ?_
      obtain rfl : i = 0 := by omega
      exact hfirst future
    · rw [if_neg hsecond, hskip 2 (by decide)]
      refine .drop (by decide) (by omega) fun i hi future => ?_
      obtain rfl | rfl : i = 0 ∨ i = 1 := by omega
      · exact hfirst future
      · rw [hrx]
        exact announced_of_head_ne hsecond _

/-- Dropping bytes at which nothing starts does not change what the scanner finds. -/
theorem scan_drop {s : List UInt8} {k : ℕ} (h : ∀ i < k, wireFormat.announced (s.drop i) = none) :
    wireFormat.scan s = wireFormat.scan (s.drop k) := by
  induction k with
  | zero => rfl
  | succ k ih =>
    rw [ih fun i hi => h i (by omega), wireFormat.scan_drop_one (h k (by omega)), List.drop_drop]

/-- Whatever arrives later, a poll takes from the front of the scanner's output exactly what
it extracts. -/
theorem PollEffect.scan {rx rx' : List UInt8} {r : Received} (h : PollEffect rx r rx')
    (future : List UInt8) :
    wireFormat.scan (rx ++ future) = r.payload.toList ++ wireFormat.scan (rx' ++ future) := by
  cases h with
  | @extract p hframe =>
    have hfit := (wireFormat.announced_of_frameAt hframe).2.1
    rw [wireFormat.scan_of_frameAt (wireFormat.frameAt_append hframe future),
      List.drop_append_of_le_length hfit]
    rfl
  | wait hwait => rfl
  | @drop k result hk hle hnone =>
    rw [scan_drop fun i hi => hnone i hi future, List.drop_append_of_le_length hle]
    rfl

/-- The calls of the receiving side; every poll offers a destination of 1019 bytes. -/
inductive RxOp
  | dataReceived (chunk : List UInt8)
  | getMessage

/-- A receiving transport with the bytes it was fed, the payloads the polls extracted, and the
payloads a caller sees: those of polls that report success with a size above zero. -/
structure RxRun where
  transport : Transport
  received : List UInt8
  extracted : List (List UInt8)
  delivered : List (List UInt8)

def rxStart (t : Transport) (cfg : TransportCfg) : RxRun := ⟨t.init cfg,[],[],[]⟩

def rxPoll (s : RxRun) : RxRun :=
  let r := s.transport.getMessage maxEncodedMessageSize
  { transport := r.2
    received := s.received
    extracted := s.extracted ++ r.1.payload.toList
    delivered := s.delivered ++
      if r.1.result = .success ∧ 0 < r.1.size then [r.1.payload.getD []] else [] }

def rxStep (s : RxRun) : RxOp → RxRun
  | .dataReceived chunk =>
    { s with transport := (s.transport.dataReceived chunk).2, received := s.received ++ chunk }
  | .getMessage => rxPoll s

/-- Reception reported success. -/
def RxOk (s : RxRun) : RxOp → Prop
  | .dataReceived chunk => (s.transport.dataReceived chunk).1 = .success
  | .getMessage => True

instance (s : RxRun) (op : RxOp) : Decidable (RxOk s op) :=
  match op with
  | .dataReceived chunk => inferInstanceAs (Decidable ((s.transport.dataReceived chunk).1 = .success))
  | .getMessage => isTrue trivial

/-- The next poll consumes nothing. -/
def RxQuiet (t : Transport) : Prop :=
  (t.getMessage maxEncodedMessageSize).2.rxBuf.toList = t.rxBuf.toList

/-- What was extracted is what the scanner finds before the bytes still buffered, whatever
arrives later. -/
structure RxInv (s : RxRun) : Prop where
  scan : ∀ future, wireFormat.scan (s.received ++ future) =
    s.extracted ++ wireFormat.scan (s.transport.rxBuf.toList ++ future)
  delivered : s.delivered = s.extracted.filter fun p => 0 < p.length

theorem rxInv_start (t : Transport) (cfg : TransportCfg) : RxInv (rxStart t cfg) := by
  constructor <;> simp [rxStart, Transport.init]

/-- A caller recognises exactly the non-empty payloads. -/
theorem PollEffect.visible {rx rx' : List UInt8} {r : Received} (h : PollEffect rx r rx') :
    (if r.result = .success ∧ 0 < r.size then [r.payload.getD []] else []) =
      r.payload.toList.filter fun p => 0 < p.length := by
  cases h with
  | @extract p hframe => by_cases hp : 0 < p.length <;> simp [hp]
  | wait hwait => simp
  | drop hk hle hnone => simp

theorem RxInv.poll {s : RxRun} (h : RxInv s) : RxInv (rxPoll s) := by
  have heffect := getMessage_effect s.transport le_rfl
  constructor
  · intro future
    simp only [rxPoll]
    rw [h.scan, heffect.scan, List.append_assoc]
  · simp only [rxPoll]
    rw [heffect.visible, h.delivered, List.filter_append]

theorem RxInv.step (s : RxRun) (op : RxOp) (h : RxInv s) (hok : RxOk s op) : RxInv (rxStep s op) := by
  cases op with
  | getMessage => exact h.poll
  | dataReceived chunk =>
    refine ⟨fun future => ?_,h.delivered⟩
    simp only [rxStep]
    rw [Transport.dataReceived_of_success _ _ hok, List.append_assoc, h.scan, List.append_assoc]

theorem rxInv_run (t : Transport) (cfg : TransportCfg) (ops : List RxOp)
    (h : Guarded rxStep RxOk (rxStart t cfg) ops) : RxInv (run rxStep (rxStart t cfg) ops) :=
  h.invariant RxInv.step (rxInv_start t cfg)

/-- A poll that consumes nothing leaves nothing for the scanner. -/
theorem scan_of_quiet {t : Transport} (h : RxQuiet t) : wireFormat.scan t.rxBuf.toList = [] := by
  have heffect := getMessage_effect t le_rfl
  rw [RxQuiet] at h
  generalize (t.getMessage maxEncodedMessageSize).2.rxBuf.toList = rx' at heffect h
  generalize (t.getMessage maxEncodedMessageSize).1 = r at heffect
  have hlen := congrArg List.length h
  cases heffect with
  | wait hwait => exact wireFormat.scan_of_waits hwait
  | @extract p hframe =>
    have hfit := (wireFormat.announced_of_frameAt hframe).2.1
    rw [List.length_drop, frameHeaderSize] at hlen
    rw [wireFormat_headerLen] at hfit
    omega
  | @drop k result hk hle hnone =>
    rw [List.length_drop] at hlen
    omega

/-- A poll that is not quiet removes at least one byte. -/
theorem getMessage_shrinks {t : Transport} (h : ¬RxQuiet t) :
    (t.getMessage maxEncodedMessageSize).2.rxBuf.toList.length < t.rxBuf.toList.length := by
  have heffect := getMessage_effect t le_rfl
  rw [RxQuiet] at h
  generalize (t.getMessage maxEncodedMessageSize).2.rxBuf.toList = rx' at heffect h ⊢
  generalize (t.getMessage maxEncodedMessageSize).1 = r at heffect
  cases heffect with
  | wait hwait => exact absurd rfl h
  | @extract p hframe =>
    have hfit := (wireFormat.announced_of_frameAt hframe).2.1
    rw [wireFormat_headerLen] at hfit
    rw [List.length_drop, frameHeaderSize]
    omega
  | @drop k result hk hle hnone =>
    rw [List.length_drop]
    omega

/-- Polling comes to rest after at most as many polls as bytes are buffered. -/
theorem exists_quiet (s : RxRun) :
    ∃ n ≤ s.transport.rxBuf.toList.length,
      RxQuiet (run rxStep s (List.replicate n .getMessage)).transport := by
  induction hm : s.transport.rxBuf.toList.length using Nat.strong_induction_on generalizing s with
  | _ m ih =>
    by_cases hq : RxQuiet s.transport
    · exact ⟨0,Nat.zero_le _,hq⟩
    · have hlt := getMessage_shrinks hq
      obtain ⟨n,hn,hquiet⟩ := ih _ (by rw [← hm]; exact hlt) (rxPoll s) rfl
      have hle : n < m := by rw [← hm]; exact Nat.lt_of_le_of_lt hn hlt
      exact ⟨n+1,hle,hquiet⟩

/-- Resynchronisation: on every stream, for every chunking that was accepted and every polling
schedule, the payloads extracted are the first ones the reference scanner finds, whatever
arrives later; polling comes to rest, and then they are all it finds, so that every complete
frame of the stream was extracted unless it lies inside an extracted frame or behind a header
whose payload is still incomplete. A caller sees the non-empty ones. -/
theorem rx_refines_scanner (t : Transport) (cfg : TransportCfg) (ops : List RxOp)
    (h : Guarded rxStep RxOk (rxStart t cfg) ops) :
    let s := run rxStep (rxStart t cfg) ops
    (∀ future, s.extracted <+: wireFormat.scan (s.received ++ future)) ∧
      (RxQuiet s.transport → s.extracted = wireFormat.scan s.received ∧
        ∀ j p, wireFormat.frameAt (s.received.drop j) = some p →
          (j,p) ∈ wireFormat.scanFrom 0 s.received ∨
            (∃ q ∈ wireFormat.scanFrom 0 s.received, q.1 < j ∧ j < q.1 + (4+q.2.length)) ∨
            ∃ k n, k < j ∧ wireFormat.announced (s.received.drop k) = some n ∧
              s.received.length < k + (4+n)) ∧
      s.delivered = s.extracted.filter (fun p => 0 < p.length) ∧
      ∃ n ≤ s.transport.rxBuf.toList.length,
        RxQuiet (run rxStep s (List.replicate n .getMessage)).transport := by
  intro s
  have hinv : RxInv s := rxInv_run t cfg ops h
  refine ⟨fun future => ?_,fun hquiet => ⟨?_,fun j p hp => ?_⟩,hinv.delivered,exists_quiet s⟩
  · rw [hinv.scan future]
    exact List.prefix_append _ _
  · have hall := hinv.scan []
    rw [List.append_nil, List.append_nil, scan_of_quiet hquiet, List.append_nil] at hall
    exact hall.symm
  · simpa using wireFormat.scanFrom_covers 0 s.received j p hp

/-- Garbage, a frame cut into two chunks and polls in between. -/
theorem rx_refines_scanner_cut_frame :
    let ops : List RxOp := [.dataReceived [0,0xAC,0xAC,0xBE],.getMessage,.getMessage,
      .dataReceived [1,0,0x5A],.getMessage,.getMessage]
    let s := run rxStep (rxStart gwTransport ⟨16,true⟩) ops
    ∀ future, s.extracted <+: wireFormat.scan (s.received ++ future) := by
  intro ops
  exact (rx_refines_scanner gwTransport ⟨16,true⟩ ops (by decide +kernel)).1

/-- `whad_get_message`: poll with a destination of `WHAD_MESSAGE_MAX_SIZE` bytes and decode what
came out. The decoder of the protobuf runtime is a parameter. -/
def whadGetMessage {Msg : Type*} (pbDecode : List UInt8 → Option Msg) (t : Transport) :
    WhadResult × Option Msg × Transport :=
  let r := t.getMessage maxEncodedMessageSize
  if r.1.result = .success then
    if 0 < r.1.size then
      match pbDecode (r.1.payload.getD []) with
      | some message => (.success, some message, r.2)
      | none => (.error, none, r.2)
    else (.none, none, r.2)
  else (.error, none, r.2)

/-- The calls an application makes on the receiving side. -/
inductive RxCall
  | dataReceived (chunk : List UInt8)
  | whadGetMessage

def rxCallStep {Msg : Type*} (pbDecode : List UInt8 → Option Msg) (t : Transport) : RxCall → Transport
  | .dataReceived chunk => (t.dataReceived chunk).2
  | .whadGetMessage => (whadGetMessage pbDecode t).2.2

/-- With four bytes buffered a poll removes something, or the ring starts with a valid header
whose missing payload bytes fit the free space. -/
theorem getMessage_progress (t : Transport) (hfour : 4 ≤ t.rxBuf.toList.length) :
    (t.getMessage maxEncodedMessageSize).2.rxBuf.toList.length < t.rxBuf.toList.length ∨
      ∃ n ≤ maxEncodedMessageSize, wireFormat.announced t.rxBuf.toList = some n ∧
        4 + n - t.rxBuf.toList.length ≤ t.rxBuf.getFreeSize := by
  by_cases hq : RxQuiet t
  · right
    have heffect := getMessage_effect t le_rfl
    have hlen := congrArg List.length hq
    generalize (t.getMessage maxEncodedMessageSize).2.rxBuf.toList = rx' at heffect hlen
    generalize (t.getMessage maxEncodedMessageSize).1 = r at heffect
    have hfree := t.rxBuf.toList_length_add_getFreeSize
    cases heffect with
    | @extract p hframe =>
      rw [List.length_drop, frameHeaderSize] at hlen
      omega
    | @drop k result hk hle hnone =>
      rw [List.length_drop] at hlen
      omega
    | wait hwait =>
      rcases hwait with hshort | ⟨n,hn,_⟩
      · rw [wireFormat_headerLen] at hshort
        omega
      · have hle := announced_le hn
        have hsum := maxEncodedMessageSize_add
        rw [frameHeaderSize] at hsum
        exact ⟨n,hle,hn,by omega⟩
  · exact .inl (getMessage_shrinks hq)

/-- A full ring holds every frame its first bytes can announce, so a poll frees something. -/
theorem getMessage_of_full {t : Transport} (hfull : t.rxBuf.getFreeSize = 0) :
    (t.getMessage maxEncodedMessageSize).2.rxBuf.toList.length < t.rxBuf.toList.length := by
  by_contra hstuck
  have hq : RxQuiet t := by
    by_contra hq
    exact hstuck (getMessage_shrinks hq)
  have hfree := t.rxBuf.toList_length_add_getFreeSize
  have hcap : ringbufCapacity = 1023 := rfl
  have hframe := getMessage_effect t le_rfl
  have hlen := congrArg List.length hq
  generalize (t.getMessage maxEncodedMessageSize).2.rxBuf.toList = rx' at hframe hlen
  generalize (t.getMessage maxEncodedMessageSize).1 = r at hframe
  cases hframe with
  | @extract p hframe =>
    rw [List.length_drop, frameHeaderSize] at hlen
    omega
  | @drop k result hk hle hnone =>
    rw [List.length_drop] at hlen
    omega
  | wait hwait =>
    cases hwait with
    | inl hshort =>
      rw [wireFormat_headerLen] at hshort
      omega
    | inr hmissing =>
      obtain ⟨n,hn,hlt⟩ := hmissing
      have hle := announced_le hn
      have hsum := maxEncodedMessageSize_add
      rw [frameHeaderSize] at hsum
      rw [wireFormat_headerLen] at hlt
      omega

/-- Progress on the receiving side, in every state an application can reach: a poll with four
bytes buffered advances or waits for bytes there is room for; a full ring is always unblocked
by a poll; and the branch for a destination that is too small, the only one that reports an
error with a size, is never taken. -/
theorem rx_progress {Msg : Type*} (pbDecode : List UInt8 → Option Msg) (t : Transport)
    (cfg : TransportCfg) (calls : List RxCall) :
    let s := run (rxCallStep pbDecode) (t.init cfg) calls
    let poll := s.getMessage maxEncodedMessageSize
    (4 ≤ s.rxBuf.toList.length →
      poll.2.rxBuf.toList.length < s.rxBuf.toList.length ∨
        ∃ n ≤ maxEncodedMessageSize, wireFormat.announced s.rxBuf.toList = some n ∧
          4 + n - s.rxBuf.toList.length ≤ s.rxBuf.getFreeSize) ∧
      (s.rxBuf.getFreeSize = 0 → poll.2.rxBuf.toList.length < s.rxBuf.toList.length) ∧
      ¬(poll.1.result = .error ∧ poll.1.size ≠ 0) := by
  intro s poll
  refine ⟨fun hfour => getMessage_progress s hfour,fun hfull => getMessage_of_full hfull,?_⟩
  · have heffect := getMessage_effect s le_rfl
    change PollEffect _ poll.1 poll.2.rxBuf.toList at heffect
    generalize poll.2.rxBuf.toList = rx' at heffect
    generalize poll.1 = r at heffect ⊢
    cases heffect <;> simp

end WhadLib
