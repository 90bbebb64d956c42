import WhadLib.Transport.Receiver

/-! Reception under back-pressure. A chunk that does not fit is cut: the bytes up to the full ring
stay, and the caller only learns that not all of them were taken. Where no chunk is ever cut, a
caller that submits a refused chunk again loses nothing and repeats nothing. -/
namespace WhadLib
open Library

namespace Transport

/-- Taken whole, or refused without a trace. -/
def TakesWhole (t : Transport) (chunk : List UInt8) : Prop :=
  (t.dataReceived chunk).1 = .success ∧
      (t.dataReceived chunk).2.rxBuf.toList = t.rxBuf.toList ++ chunk ∨
    (t.dataReceived chunk).1 = .ringbufFull ∧ (t.dataReceived chunk).2.rxBuf = t.rxBuf

/-- The chunk is not cut: all of it fits, or nothing does. -/
def Uncut (t : Transport) (chunk : List UInt8) : Prop :=
  chunk.length ≤ t.rxBuf.getFreeSize ∨ t.rxBuf.getFreeSize = 0

instance (t : Transport) (chunk : List UInt8) : Decidable (t.Uncut chunk) :=
  inferInstanceAs (Decidable (_ ∨ _))

/-- A full ring takes nothing. -/
theorem dataReceived_of_full {t : Transport} {b : UInt8} {bs : List UInt8} (h : t.rxBuf.getFreeSize = 0) :
    t.dataReceived (b :: bs) = (.ringbufFull, t) := by
  have hfull : t.rxBuf.toList.length = ringbufCapacity := by
    have := t.rxBuf.toList_length_add_getFreeSize
    omega
  simp [dataReceived, receiveLoop, t.rxBuf.push_of_full b hfull]

theorem takesWhole_iff_uncut (t : Transport) (chunk : List UInt8) : t.TakesWhole chunk ↔ t.Uncut chunk := by
  obtain ⟨hres,hlist⟩ := receiveLoop_takes chunk t.rxBuf
  unfold TakesWhole Uncut
  by_cases hfits : chunk.length ≤ t.rxBuf.getFreeSize
  · rw [if_pos hfits] at hres
    rw [List.take_of_length_le hfits] at hlist
    exact ⟨fun _ => .inl hfits,fun _ => .inl ⟨hres,hlist⟩⟩
  · rw [if_neg hfits] at hres
    constructor
    · rintro (⟨hok,_⟩ | ⟨_,hsame⟩)
      · exact absurd (hok.symm.trans hres) (by decide)
      · -- an unchanged ring has taken no byte
        right
        change (receiveLoop t.rxBuf chunk).2 = t.rxBuf at hsame
        rw [hsame] at hlist
        have hlen := congrArg List.length hlist
        rw [List.length_append, List.length_take] at hlen
        omega
    · rintro (hle | hzero)
      · exact absurd hle hfits
      · cases chunk with
        | nil => exact absurd (Nat.zero_le _) hfits
        | cons b bs => exact .inr (by rw [dataReceived_of_full hzero]; exact ⟨rfl,rfl⟩)

end Transport

/-- A caller with chunks to hand in: it submits the first one, again as long as it is refused,
or polls for a message. -/
inductive FeedOp
  | submit
  | poll
  deriving DecidableEq

/-- The receiving transport and the chunks not accepted yet. -/
structure Feed where
  rx : RxRun
  waiting : List (List UInt8)

def feedStart (t : Transport) (cfg : TransportCfg) (chunks : List (List UInt8)) : Feed :=
  ⟨rxStart t cfg,chunks⟩

def feedStep (s : Feed) : FeedOp → Feed
  | .poll => { s with rx := rxPoll s.rx }
  | .submit =>
    match s.waiting with
    | [] => s
    | chunk :: rest =>
      let r := s.rx.transport.dataReceived chunk
      if r.1 = .success then ⟨rxStep s.rx (.dataReceived chunk),rest⟩
      else ⟨{ s.rx with transport := r.2 },chunk :: rest⟩

/-- The chunk to be submitted is not cut. -/
def FeedOk (s : Feed) : FeedOp → Prop
  | .poll => True
  | .submit => ∀ chunk ∈ s.waiting.head?, s.rx.transport.Uncut chunk

instance (s : Feed) (op : FeedOp) : Decidable (FeedOk s op) :=
  match op with
  | .poll => isTrue trivial
  | .submit => inferInstanceAs (Decidable (∀ chunk ∈ s.waiting.head?, s.rx.transport.Uncut chunk))

/-- The bytes received are those of the chunks accepted, and the parser is in step with them. -/
structure FeedInv (chunks : List (List UInt8)) (s : Feed) : Prop where
  rx : RxInv s.rx
  bytes : s.rx.received ++ s.waiting.flatten = chunks.flatten

theorem FeedInv.step {chunks : List (List UInt8)} (s : Feed) (op : FeedOp) (h : FeedInv chunks s)
    (hok : FeedOk s op) : FeedInv chunks (feedStep s op) := by
  cases op with
  | poll => exact ⟨h.rx.poll,h.bytes⟩
  | submit =>
    cases hwaiting : s.waiting with
    | nil => simpa only [feedStep, hwaiting] using h
    | cons chunk rest =>
      have huncut : s.rx.transport.Uncut chunk := hok chunk (by rw [hwaiting]; rfl)
      have hbytes := h.bytes
      rw [hwaiting, List.flatten_cons] at hbytes
      simp only [feedStep, hwaiting]
      by_cases hres : (s.rx.transport.dataReceived chunk).1 = .success
      · rw [if_pos hres]
        refine ⟨RxInv.step s.rx (.dataReceived chunk) h.rx hres,?_⟩
        rw [rxStep, List.append_assoc, hbytes]
      · rw [if_neg hres]
        -- a refused chunk that is not cut has left the ring as it was
        have hsame : (s.rx.transport.dataReceived chunk).2 = s.rx.transport := by
          rcases (s.rx.transport.takesWhole_iff_uncut chunk).mpr huncut with ⟨hok',_⟩ | ⟨_,hrx⟩
          · exact absurd hok' hres
          · change (receiveLoop s.rx.transport.rxBuf chunk).2 = s.rx.transport.rxBuf at hrx
            rw [Transport.dataReceived, hrx]
        rw [hsame]
        exact ⟨h.rx,by rw [List.flatten_cons]; exact hbytes⟩

theorem feedInv_run (t : Transport) (cfg : TransportCfg) (chunks : List (List UInt8)) (ops : List FeedOp)
    (h : Guarded feedStep FeedOk (feedStart t cfg chunks) ops) :
    FeedInv chunks (run feedStep (feedStart t cfg chunks) ops) :=
  h.invariant FeedInv.step ⟨rxInv_start t cfg,List.nil_append _⟩

/-- Reception without loss: a chunk is taken whole or refused without a trace exactly when it is
not cut; and in every run in which no submitted chunk is cut, what the polls extract are the
first frames of the concatenated chunks, whatever follows, and once all chunks are accepted and
polling rests they are all of them. -/
theorem reception_lossless (t : Transport) (cfg : TransportCfg) (chunks : List (List UInt8))
    (ops : List FeedOp) (h : Guarded feedStep FeedOk (feedStart t cfg chunks) ops) :
    (∀ (u : Transport) (chunk : List UInt8), u.TakesWhole chunk ↔ u.Uncut chunk) ∧
      let s := run feedStep (feedStart t cfg chunks) ops
      s.rx.received ++ s.waiting.flatten = chunks.flatten ∧
        (∀ future, s.rx.extracted <+: wireFormat.scan (chunks.flatten ++ future)) ∧
        (s.waiting = [] → RxQuiet s.rx.transport → s.rx.extracted = wireFormat.scan chunks.flatten) := by
  refine ⟨Transport.takesWhole_iff_uncut,?_⟩
  intro s
  have hinv := feedInv_run t cfg chunks ops h
  refine ⟨hinv.bytes,fun future => ?_,fun hdone hquiet => ?_⟩
  · rw [← hinv.bytes, List.append_assoc, hinv.rx.scan]
    exact List.prefix_append _ _
  · have hall := hinv.rx.scan []
    have hbytes := hinv.bytes
    change s.rx.received ++ s.waiting.flatten = _ at hbytes
    rw [hdone, List.flatten_nil, List.append_nil] at hbytes
    change wireFormat.scan (s.rx.received ++ []) = s.rx.extracted ++ wireFormat.scan (s.rx.transport.rxBuf.toList ++ []) at hall
    rw [List.append_nil, List.append_nil, scan_of_quiet hquiet, List.append_nil, hbytes] at hall
    exact hall.symm

/-- A frame cut into two chunks, with a poll in between. -/
theorem reception_lossless_cut_frame :
    let ops : List FeedOp := [.submit,.poll,.submit,.poll]
    let s := run feedStep (feedStart gwTransport ⟨16,true⟩ [[0xAC,0xBE,1],[0,0x5A]]) ops
    ∀ future, s.rx.extracted <+: wireFormat.scan ([0xAC,0xBE,1,0,0x5A] ++ future) := by
  intro ops
  exact (reception_lossless gwTransport ⟨16,true⟩ [[0xAC,0xBE,1],[0,0x5A]] ops (by decide +kernel)).2.2.1

/-- An initialised ring that has taken some bytes has that much less room. -/
theorem getFreeSize_of_filled (t : Transport) (cfg : TransportCfg) {bytes : List UInt8} (h : bytes.length ≤ 1023) :
    ((t.init cfg).dataReceived bytes).2.rxBuf.getFreeSize = 1023 - bytes.length := by
  have hstart : (t.init cfg).rxBuf.toList = [] := Ringbuf.toList_init _
  have hfree : (t.init cfg).rxBuf.getFreeSize = 1023 := by
    rw [Ringbuf.getFreeSize_eq, hstart]
    rfl
  have hlist : ((t.init cfg).dataReceived bytes).2.rxBuf.toList = bytes := by
    have htakes := (receiveLoop_takes bytes (t.init cfg).rxBuf).2
    rwa [hstart, hfree, List.nil_append, List.take_of_length_le h] at htakes
  rw [Ringbuf.getFreeSize_eq, hlist]
  rfl

/-- Two bytes for a ring with one free cell: the call reports a full ring and keeps the first. -/
theorem dataReceived_of_one_free {t : Transport} (h : t.rxBuf.getFreeSize = 1) (a b : UInt8) :
    ¬t.TakesWhole [a,b] ∧ (t.dataReceived [a,b]).1 = .ringbufFull ∧
      (t.dataReceived [a,b]).2.rxBuf.toList = t.rxBuf.toList ++ [a] := by
  obtain ⟨hres,htaken⟩ := receiveLoop_takes [a,b] t.rxBuf
  rw [h] at hres htaken
  refine ⟨?_,hres,htaken⟩
  rw [Transport.takesWhole_iff_uncut, Transport.Uncut, h]
  simp

/-- A ring filled up to one cell gets the magic of the next frame: its first byte stays. -/
theorem dataReceived_keeps_prefix :
    let t := ((gwTransport.init ⟨16,true⟩).dataReceived (List.replicate 1022 0)).2
    ¬t.TakesWhole [0xAC,0xBE] ∧ (t.dataReceived [0xAC,0xBE]).1 = .ringbufFull ∧
      (t.dataReceived [0xAC,0xBE]).2.rxBuf.toList = t.rxBuf.toList ++ [0xAC] := by
  have hlen : (List.replicate 1022 (0 : UInt8)).length = 1022 := List.length_replicate
  have hone := getFreeSize_of_filled gwTransport ⟨16,true⟩ (hlen.trans_le (by decide))
  rw [hlen] at hone
  exact dataReceived_of_one_free hone 0xAC 0xBE

end WhadLib
