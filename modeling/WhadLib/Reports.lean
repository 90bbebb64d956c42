import WhadLib.Library.FrameEvents
import WhadLib.Session

/-! What a program that polls `whad_get_message` is told, on any stream of bytes: each message and each error
it sees has its place in the stream, whatever the chunks and the polls. -/
namespace WhadLib
open Library

/-- A header with the magic whose size is beyond the buffer of a message. -/
def refusesHeader : List UInt8 → Bool
  | [a,b,c,d] => a = 0xAC ∧ b = 0xBE ∧ maxEncodedMessageSize < c.toNat + 256*d.toNat
  | _ => false

/-- The payloads and the refused headers of a stream. -/
abbrev wireEvents (s : List UInt8) : List (FrameFormat.Event UInt8) := wireFormat.events refusesHeader s

theorem refusal_cons (a b c d : UInt8) (s : List UInt8) :
    wireFormat.refusal refusesHeader (a :: b :: c :: d :: s) =
      if a = 0xAC ∧ b = 0xBE ∧ maxEncodedMessageSize < c.toNat + 256*d.toNat then [.refused] else [] := by
  simp [FrameFormat.refusal, refusesHeader]

/-- Nothing happens at a byte that is not the first one of the magic. -/
theorem wireEvents_of_head_ne {a : UInt8} (ha : a ≠ 0xAC) (s : List UInt8) : wireEvents (a :: s) = wireEvents s := by
  refine FrameFormat.events_drop_one (announced_of_head_ne ha s) fun hlen => ?_
  obtain ⟨b,c,d,s,rfl⟩ : ∃ b c d s', s = b :: c :: d :: s' := by
    rcases s with _ | ⟨b,_ | ⟨c,_ | ⟨d,s⟩⟩⟩ <;> simp_all
  rw [refusal_cons, if_neg fun h => ha h.1]

/-- What a poll comes across: a frame, nothing yet, a header that it refuses, or one or two bytes at which
nothing starts. -/
inductive PollEvent (rx : List UInt8) : Received → List UInt8 → List (FrameFormat.Event UInt8) → Prop
  | extract {p} (hframe : wireFormat.frameAt rx = some p) :
      PollEvent rx ⟨.success,p.length,some p⟩ (rx.drop (frameHeaderSize+p.length)) [.payload p]
  | wait (hwait : wireFormat.Waits rx) : PollEvent rx ⟨.success,0,none⟩ rx []
  | refuse (hle : 1 ≤ rx.length) (hevents : ∀ future, wireEvents (rx ++ future) =
      .refused :: wireEvents ((rx ++ future).drop 1)) : PollEvent rx ⟨.error,0,none⟩ (rx.drop 1) [.refused]
  | pass {k : ℕ} (hk : 0 < k) (hle : k ≤ rx.length) (hevents : ∀ future, wireEvents (rx ++ future) =
      wireEvents ((rx ++ future).drop k)) : PollEvent rx ⟨.success,0,none⟩ (rx.drop k) []

/-- A poll as a function of the bytes received. -/
def pollBytes : List UInt8 → Received × List UInt8
  | a :: b :: c :: d :: s =>
    let size := c.toNat + 256*d.toNat
    if a = 0xAC ∧ b = 0xBE then
      if maxEncodedMessageSize < size then (⟨.error,0,none⟩,b :: c :: d :: s)
      else if size ≤ s.length then (⟨.success,size,some (s.take size)⟩,s.drop size)
      else (⟨.success,0,none⟩,a :: b :: c :: d :: s)
    else if b = 0xAC then (⟨.success,0,none⟩,b :: c :: d :: s)
    else (⟨.success,0,none⟩,c :: d :: s)
  | s => (⟨.success,0,none⟩,s)

theorem pollBytes_of_short {s : List UInt8} (h : s.length < 4) : pollBytes s = (⟨.success,0,none⟩,s) := by
  rcases s with _ | ⟨a,_ | ⟨b,_ | ⟨c,_ | ⟨d,s⟩⟩⟩⟩
  case cons.cons.cons.cons =>
    simp only [List.length_cons] at h
    omega
  all_goals rfl

/-- The ring hands a poll nothing but its bytes. -/
theorem Transport.getMessage_eq_pollBytes (t : Transport) {pSize : ℕ} (hp : maxEncodedMessageSize ≤ pSize) :
    ((t.getMessage pSize).1,(t.getMessage pSize).2.rxBuf.toList) = pollBytes t.rxBuf.toList := by
  by_cases hshort : t.rxBuf.toList.length < 4
  · rw [pollBytes_of_short hshort, Transport.getMessage, if_neg (by rw [← t.rxBuf.toList_length, frameHeaderSize]; omega)]
  obtain ⟨a,b,c,d,s,hrx⟩ : ∃ a b c d s, t.rxBuf.toList = a :: b :: c :: d :: s := by
    rcases hl : t.rxBuf.toList with _ | ⟨a,_ | ⟨b,_ | ⟨c,_ | ⟨d,s⟩⟩⟩⟩ <;> simp_all
  have hsize : t.rxBuf.getSize = s.length + frameHeaderSize := by
    rw [← t.rxBuf.toList_length, hrx]
    rfl
  have hcopy : t.rxBuf.copy frameHeaderSize = (.success, [a,b,c,d]) := by
    rw [t.rxBuf.copy_of_le _ (by rw [hrx, frameHeaderSize]; simp), hrx]
    rfl
  have hskip (k : ℕ) (hk : k ≤ 4) : (t.rxBuf.skip k).2.toList = (a :: b :: c :: d :: s).drop k := by
    rw [(t.rxBuf.skip_of_le k (by rw [hrx]; simp only [List.length_cons]; omega)).2, hrx]
  have hrest : (t.rxBuf.skip frameHeaderSize).2.toList = s := hskip 4 le_rfl
  simp only [Transport.getMessage, hsize, Nat.le_add_left, if_true, hcopy, List.getD_cons_zero, List.getD_cons_succ,
    announcedSize_eq, Nat.add_le_add_iff_right, hrx, pollBytes]
  split
  · split
    · rw [hskip 1 (by decide)]
      rfl
    · rw [if_pos (by omega)]
      split
      · rename_i hfit
        have hle : c.toNat + 256*d.toNat ≤ (t.rxBuf.skip frameHeaderSize).2.toList.length := by
          rw [hrest]
          exact hfit
        rw [Ringbuf.copy_of_le _ _ hle, (Ringbuf.skip_of_le _ _ hle).2, hrest]
      · rw [hrx]
  · split
    · rw [hskip 1 (by decide)]
      rfl
    · rw [hskip 2 (by decide)]
      rfl

theorem pollBytes_event (rx : List UInt8) : ∃ events, PollEvent rx (pollBytes rx).1 (pollBytes rx).2 events := by
  by_cases hshort : rx.length < 4
  · rw [pollBytes_of_short hshort]
    exact ⟨[],.wait (.inl hshort)⟩
  obtain ⟨a,b,c,d,s,rfl⟩ : ∃ a b c d s, rx = a :: b :: c :: d :: s := by
    rcases rx with _ | ⟨a,_ | ⟨b,_ | ⟨c,_ | ⟨d,s⟩⟩⟩⟩ <;> simp_all
  simp only [pollBytes]
  by_cases hmagic : a = 0xAC ∧ b = 0xBE
  · rw [if_pos hmagic]
    by_cases hbig : maxEncodedMessageSize < c.toNat + 256*d.toNat
    · rw [if_pos hbig]
      refine ⟨_,.refuse (Nat.succ_pos _) fun future => ?_⟩
      have hnone : wireFormat.announced (a :: b :: c :: d :: (s ++ future)) = none := by
        rw [announced_cons, if_neg fun h => absurd h.2.2 (by omega)]
      rw [List.cons_append, List.cons_append, List.cons_append, List.cons_append, wireEvents,
        FrameFormat.events_of_passes ⟨Nat.le_add_left 4 _,hnone⟩, refusal_cons, if_pos ⟨hmagic.1,hmagic.2,hbig⟩]
      rfl
    · have hn : wireFormat.announced (a :: b :: c :: d :: s) = some (c.toNat + 256*d.toNat) := by
        rw [announced_cons, if_pos ⟨hmagic.1,hmagic.2,by omega⟩]
      rw [if_neg hbig]
      by_cases hfit : c.toNat + 256*d.toNat ≤ s.length
      · rw [if_pos hfit]
        have hframe : wireFormat.frameAt (a :: b :: c :: d :: s) = some (s.take (c.toNat + 256*d.toNat)) :=
          wireFormat.frameAt_of_announced hn (by
            simp only [wireFormat_headerLen, List.length_cons]
            omega)
        have hextract := PollEvent.extract hframe
        rw [List.length_take_of_le hfit, frameHeaderSize, Nat.add_comm 4] at hextract
        exact ⟨_,hextract⟩
      · rw [if_neg hfit]
        refine ⟨_,.wait (.inr ⟨_,hn,?_⟩)⟩
        simp only [wireFormat_headerLen, List.length_cons]
        omega
  · rw [if_neg hmagic]
    -- no magic at the front: nothing happens at the first byte, nor at the second unless it may start one
    have hfirst (future : List UInt8) :
        wireEvents (a :: b :: c :: d :: s ++ future) = wireEvents (b :: c :: d :: s ++ future) := by
      apply FrameFormat.events_drop_one
      · rw [List.cons_append, List.cons_append, List.cons_append, List.cons_append, announced_cons,
          if_neg fun h => hmagic ⟨h.1,h.2.1⟩]
      · intro _
        rw [List.cons_append, List.cons_append, List.cons_append, List.cons_append, refusal_cons,
          if_neg fun h => hmagic ⟨h.1,h.2.1⟩]
    by_cases hsecond : b = 0xAC
    · rw [if_pos hsecond]
      exact ⟨_,.pass (k := 1) (by decide) (Nat.succ_pos _) hfirst⟩
    · rw [if_neg hsecond]
      have hboth (future : List UInt8) := (hfirst future).trans (wireEvents_of_head_ne hsecond _)
      exact ⟨_,.pass (k := 2) (by decide) (Nat.le_add_left 2 _) hboth⟩

theorem getMessage_event (t : Transport) {pSize : ℕ} (hp : maxEncodedMessageSize ≤ pSize) :
    ∃ events, PollEvent t.rxBuf.toList (t.getMessage pSize).1 (t.getMessage pSize).2.rxBuf.toList events := by
  obtain ⟨events,hevent⟩ := pollBytes_event t.rxBuf.toList
  rw [← t.getMessage_eq_pollBytes hp] at hevent
  exact ⟨events,hevent⟩

/-- Whatever arrives later, a poll takes its events from the front of those of the stream. -/
theorem PollEvent.events_append {rx rx' : List UInt8} {r : Received} {events : List (FrameFormat.Event UInt8)}
    (h : PollEvent rx r rx' events) (future : List UInt8) :
    wireEvents (rx ++ future) = events ++ wireEvents (rx' ++ future) := by
  cases h with
  | @extract p hframe =>
    have hfit := (wireFormat.announced_of_frameAt hframe).2.1
    rw [wireEvents, FrameFormat.events_of_frameAt (wireFormat.frameAt_append hframe future),
      List.drop_append_of_le_length hfit]
    rfl
  | wait hwait => rfl
  | refuse hle hevents =>
    rw [hevents, List.drop_append_of_le_length hle]
    rfl
  | pass hk hle hevents =>
    rw [hevents, List.drop_append_of_le_length hle]
    rfl

/-- What `whad_get_message` returns other than `WHAD_NONE`. -/
inductive Report (Msg : Type)
  | message (m : Msg)
  | error
  deriving DecidableEq, Repr

namespace Report
variable {Msg : Type}

def message? : Report Msg → Option Msg
  | .message m => some m
  | .error => none

/-- What a program is told of a poll. -/
def ofPoll (r : WhadResult × Option Msg × Transport) : List (Report Msg) :=
  match r.1, r.2.1 with
  | .success, some m => [.message m]
  | .error, _ => [.error]
  | _, _ => []

/-- What a program is to be told of an event: an empty payload is passed over in silence. -/
def ofEvent (pbDecode : List UInt8 → Option Msg) : FrameFormat.Event UInt8 → Option (Report Msg)
  | .payload [] => none
  | .payload p => some ((pbDecode p).elim .error .message)
  | .refused => some .error

theorem ofPoll_eq (pbDecode : List UInt8 → Option Msg) {t : Transport} {rx' : List UInt8}
    {events : List (FrameFormat.Event UInt8)} {rx : List UInt8}
    (h : PollEvent rx (t.getMessage maxEncodedMessageSize).1 rx' events) :
    ofPoll (whadGetMessage pbDecode t) = events.filterMap (ofEvent pbDecode) := by
  simp only [whadGetMessage]
  generalize (t.getMessage maxEncodedMessageSize).1 = r at h ⊢
  cases h with
  | @extract p hframe =>
    cases p with
    | nil => rfl
    | cons a p => cases hdecode : pbDecode (a :: p) <;> simp [ofPoll, ofEvent, hdecode]
  | wait hwait => rfl
  | refuse hle hevents => rfl
  | pass hk hle hevents => rfl

/-- The messages among the reports of a stream are what its payloads decode to. -/
theorem messages_eq (pbDecode : List UInt8 → Option Msg) (s : List UInt8) :
    ((wireEvents s).filterMap (ofEvent pbDecode)).filterMap message? =
      ((wireFormat.scan s).filter fun p => 0 < p.length).filterMap pbDecode := by
  have hpayloads : (wireEvents s).filterMap FrameFormat.Event.payload? = wireFormat.scan s := FrameFormat.events_payloads s
  rw [← hpayloads, List.filterMap_filterMap, ← List.filterMap_eq_filter, List.filterMap_filterMap, List.filterMap_filterMap]
  congr 1
  funext event
  rcases event with (_ | ⟨a,p⟩) | _
  · rfl
  · cases hdecode : pbDecode (a :: p) <;> simp [ofEvent, FrameFormat.Event.payload?, message?, hdecode]
  · rfl

end Report

/-- A program that receives: its transport, the bytes it was given, and what it was told. -/
structure Reception (Msg : Type) where
  transport : Transport
  received : List UInt8
  reports : List (Report Msg)

namespace Reception
variable {Msg : Type} (pbDecode : List UInt8 → Option Msg)

def start (t : Transport) (cfg : TransportCfg) : Reception Msg := ⟨t.init cfg,[],[]⟩

def step (s : Reception Msg) : RxOp → Reception Msg
  | .dataReceived chunk =>
    { s with transport := (s.transport.dataReceived chunk).2, received := s.received ++ chunk }
  | .getMessage =>
    let r := whadGetMessage pbDecode s.transport
    { s with transport := r.2.2, reports := s.reports ++ Report.ofPoll r }

/-- Reception reported success. -/
def Ok (s : Reception Msg) : RxOp → Prop
  | .dataReceived chunk => (s.transport.dataReceived chunk).1 = .success
  | .getMessage => True

instance (s : Reception Msg) (op : RxOp) : Decidable (s.Ok op) :=
  match op with
  | .dataReceived chunk => inferInstanceAs (Decidable ((s.transport.dataReceived chunk).1 = .success))
  | .getMessage => isTrue trivial

/-- What the program is still to be told is what the bytes buffered give, whatever arrives later. -/
def Inv (s : Reception Msg) : Prop := ∀ future,
  (wireEvents (s.received ++ future)).filterMap (Report.ofEvent pbDecode) =
    s.reports ++ (wireEvents (s.transport.rxBuf.toList ++ future)).filterMap (Report.ofEvent pbDecode)

variable {pbDecode}

theorem Inv.step (s : Reception Msg) (op : RxOp) (h : s.Inv pbDecode) (hok : s.Ok op) :
    (s.step pbDecode op).Inv pbDecode := by
  intro future
  cases op with
  | dataReceived chunk =>
    simp only [Reception.step]
    rw [Transport.dataReceived_of_success _ _ hok, List.append_assoc, h, List.append_assoc]
  | getMessage =>
    obtain ⟨events,hpoll⟩ := getMessage_event s.transport le_rfl
    simp only [Reception.step]
    rw [(Session.getMessage_eq s.transport).1, Report.ofPoll_eq pbDecode hpoll, h, hpoll.events_append,
      List.filterMap_append, List.append_assoc]

theorem inv_start (t : Transport) (cfg : TransportCfg) : (start t cfg : Reception Msg).Inv pbDecode := by
  intro future
  simp [start, Transport.init]

/-- A poll that consumes nothing leaves nothing to tell. -/
theorem events_of_quiet {t : Transport} (h : RxQuiet t) : wireEvents t.rxBuf.toList = [] := by
  obtain ⟨events,hpoll⟩ := getMessage_event t le_rfl
  rw [RxQuiet] at h
  generalize (t.getMessage maxEncodedMessageSize).2.rxBuf.toList = rx' at hpoll h
  generalize (t.getMessage maxEncodedMessageSize).1 = r at hpoll
  have hlen := congrArg List.length h
  cases hpoll with
  | wait hwait => exact FrameFormat.events_of_waits hwait
  | @extract p hframe =>
    have hfit := (wireFormat.announced_of_frameAt hframe).2.1
    rw [List.length_drop, frameHeaderSize] at hlen
    rw [wireFormat_headerLen] at hfit
    omega
  | refuse hle hevents =>
    rw [List.length_drop] at hlen
    omega
  | pass hk hle hevents =>
    rw [List.length_drop] at hlen
    omega

/-- The state of the plain receiver. -/
theorem run_polls (s : Reception Msg) (n : ℕ) (r : RxRun) (h : s.transport = r.transport) :
    (run (step pbDecode) s (List.replicate n .getMessage)).transport =
      (run rxStep r (List.replicate n .getMessage)).transport := by
  induction n generalizing s r with
  | zero => exact h
  | succ n ih =>
    apply ih
    simp only [step, rxStep, rxPoll]
    rw [(Session.getMessage_eq s.transport).1, h]

end Reception

/-- What a program is told by `whad_get_message` on any stream, in any chunks and with any polls: the reports are
the first ones of those that the payloads and refused headers of the stream call for, in their order,
whatever arrives later. Polling comes to rest after at most as many polls as bytes are buffered, and then
nothing was left out; the messages among the reports are what the reference scanner's payloads decode to. -/
theorem reports_of_stream {Msg : Type} (pbDecode : List UInt8 → Option Msg) (t : Transport) (cfg : TransportCfg)
    (ops : List RxOp) (h : Guarded (Reception.step pbDecode) Reception.Ok (Reception.start t cfg) ops) :
    let s := run (Reception.step pbDecode) (Reception.start t cfg) ops
    (∀ future, s.reports <+: (wireEvents (s.received ++ future)).filterMap (Report.ofEvent pbDecode)) ∧
      (RxQuiet s.transport → s.reports = (wireEvents s.received).filterMap (Report.ofEvent pbDecode) ∧
        s.reports.filterMap Report.message? =
          ((wireFormat.scan s.received).filter fun p => 0 < p.length).filterMap pbDecode) ∧
      ∃ n ≤ s.transport.rxBuf.toList.length,
        RxQuiet (run (Reception.step pbDecode) s (List.replicate n .getMessage)).transport := by
  intro s
  have hinv : s.Inv pbDecode := h.invariant Reception.Inv.step (Reception.inv_start t cfg)
  refine ⟨fun future => ?_,fun hquiet => ?_,?_⟩
  · rw [hinv future]
    exact List.prefix_append _ _
  · have hall := hinv []
    rw [List.append_nil, List.append_nil, Reception.events_of_quiet hquiet, List.filterMap_nil, List.append_nil] at hall
    refine ⟨hall.symm,?_⟩
    rw [← hall, Report.messages_eq]
  · let r : RxRun := ⟨s.transport,[],[],[]⟩
    obtain ⟨n,hn,hquiet⟩ := exists_quiet r
    refine ⟨n,hn,?_⟩
    rw [Reception.run_polls s n r rfl]
    exact hquiet

/-- A header that announces 65535 bytes, a frame that does not decode and one with a command to sniff advertisements. -/
theorem reports_of_stream_refused :
    let ops : List RxOp := [.dataReceived [0xAC,0xBE,0xFF,0xFF],.getMessage,.dataReceived [0xAC,0xBE,1,0,7],.getMessage,
      .getMessage,.getMessage,.dataReceived [0xAC,0xBE,6,0,0x1A,4,0x12,2,0x10,37],.getMessage]
    let s := run (Reception.step readMessageBytes) (Reception.start gwTransport ⟨16,true⟩) ops
    s.reports = (wireEvents s.received).filterMap (Report.ofEvent readMessageBytes) := by
  intro ops s
  exact ((reports_of_stream readMessageBytes gwTransport ⟨16,true⟩ ops (by decide +kernel)).2.1
    (by unfold RxQuiet; decide +kernel)).1

end WhadLib
