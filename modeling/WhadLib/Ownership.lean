import WhadLib.Send
import WhadLib.Library.SentinelTable
import WhadLib.Library.StepSystem

/-! The one message that owns memory: the list of frequency ranges that
`whad_phy_supported_frequencies` allocates. An application sends it again until an attempt
succeeds, each time with the queue in another state. An attempt that gets past the encoder frees
the list whatever the queue answers, and the message keeps its pointer. -/
namespace WhadLib
open Library

/-- `malloc` answers `allocated`; `ranges` are the `nb_ranges` entries behind `p_ranges`, a number that is not
negative. -/
def whadPhySupportedFrequencies (h : Heap) (allocated : Option Address) (message : Option Message)
    (ranges : Option (List FrequencyRange)) : WhadResult × Heap × Option Message :=
  match message, ranges with
  | some m, some ps =>
    match allocated with
    | some a => (.success, h.store a (ps ++ [⟨0,0⟩]), some { m with
        whichMsg := Message.phyTag
        phy := { m.phy with
          whichMsg := PhyMessage.supportedFreqTag
          supportedFreq := .frequencyRange (some a) } })
    | none => (.error, h, message)
  | _, _ => (.error, h, message)

/-- A message waiting to be sent, whether an attempt has succeeded, and what `pb_encode` gave in
each attempt. -/
structure Pending where
  heap : Heap
  message : Message
  sent : Bool
  encoded : List (Bool × Sink UInt8)

def Pending.start (h : Heap) (m : Message) : Pending := ⟨h,m,false,[]⟩

/-- The message is a list of frequency ranges and points to the block `a`. -/
structure Message.Owns (m : Message) (a : Address) : Prop where
  whichMsg : m.whichMsg = Message.phyTag
  whichPhy : m.phy.whichMsg = PhyMessage.supportedFreqTag
  arg : m.phy.supportedFreq = .frequencyRange (some a)

/-- The ownership of the block `a` after some attempts. -/
structure OwnershipKept (a : Address) (p : Pending) : Prop where
  live : p.sent = false → (p.heap.block a).live = true
  same : ∀ e ∈ p.encoded, p.encoded.head? = some e
  once : (p.heap.block a).released ≤ 1
  released : p.sent = true → (p.heap.block a).released = 1 ∧ ¬p.message.Owns a

/-- The bytes of the message for a list: the ranges before the first one with a zero in it. -/
def supportedFrequenciesEncoding (ranges : List FrequencyRange) : List UInt8 :=
  let list := CallbackField.frequencyRangeOutput ⟨frequencyRangesTag,.len⟩ ranges
  let phy := fieldKey ⟨PhyMessage.supportedFreqTag,.len⟩ ++ (varint list.length ++ list)
  fieldKey ⟨Message.phyTag,.len⟩ ++ (varint phy.length ++ phy)

section
variable (pb : Nanopb) (boardFields : BoardMessage → Fields CallbackField)

/-- One round of the loop of the application; once the message is sent it is no longer pending. -/
def attempt (p : Pending) (t : Transport) : Pending :=
  if p.sent then p
  else
    let sent := whadSendMessage pb boardFields p.heap p.message t
    ⟨sent.heap,sent.message,sent.result == .success,
      p.encoded ++ [encodeMessage pb boardFields p.heap p.message]⟩

end

/-- The list a builder stores is closed by a zero range, which the encoder does not pass. -/
theorem frequencyRangeOutput_closed (field : PbField) (ranges : List FrequencyRange) :
    CallbackField.frequencyRangeOutput field (ranges ++ [⟨0,0⟩]) =
      CallbackField.frequencyRangeOutput field ranges := by
  have htake : ((ranges ++ [(⟨0,0⟩ : FrequencyRange)]).takeWhile fun r => r.start ≠ 0 ∧ r.stop ≠ 0) =
      ranges.takeWhile fun r => r.start ≠ 0 ∧ r.stop ≠ 0 := takeWhile_sentinelTable (by decide) []
  simp only [CallbackField.frequencyRangeOutput, htake]

section
variable {heap heap' : Heap} {a : Address} {m built : Message} {ranges : List FrequencyRange}

theorem whadPhySupportedFrequencies_spec
    (h : whadPhySupportedFrequencies heap (some a) (some m) (some ranges) = (.success, heap', some built)) :
    heap'.block a = ⟨ranges ++ [⟨0,0⟩],true,0⟩ ∧ built.Owns a := by
  simp only [whadPhySupportedFrequencies, Prod.mk.injEq, Option.some.injEq, true_and] at h
  obtain ⟨rfl,rfl⟩ := h
  exact ⟨heap.store_block a _,rfl,rfl,rfl⟩

variable {pb : Nanopb} (boardFields : BoardMessage → Fields CallbackField)

theorem Message.Owns.encoding (hown : built.Owns a) (hread : heap.read a = ranges ++ [⟨0,0⟩]) :
    built.encoding boardFields heap = some (supportedFrequenciesEncoding ranges) := by
  have hfields : built.fields boardFields = .submessage ⟨Message.phyTag,.len⟩ built.phy.fields .nil := by
    rw [Message.fields, hown.whichMsg]
    rfl
  rw [Message.encoding, hfields, PhyMessage.fields, if_pos hown.whichPhy, hown.arg]
  simp [Fields.encoding, CallbackField.output, Heap.rangesAt, hread, frequencyRangeOutput_closed,
    supportedFrequenciesEncoding]

/-- The list is freed, and the message still points to it. -/
theorem Message.Owns.free (hown : built.Owns a) (heap : Heap) :
    whadFreeMessageResources heap built = (heap.free a, built) := by
  have hdomain : whadGetMessageDomain built = .phy :=
    (whadGetMessageDomain_eq_iff built rfl).mpr hown.whichMsg
  have htype : whadGetMessageType built = .domain := by
    rw [whadGetMessageType, hown.whichMsg]
    rfl
  simp [whadFreeMessageResources, htype, hdomain, whadPhyMessageFree, whadPhyGetMessageType,
    hown.whichPhy, hown.arg]

/-- An attempt that gets past the encoder frees the list, whether or not the queue takes it. -/
theorem attempt_of_fits (hpb : pb.Documented) (p : Pending) (hsent : p.sent = false) (hown : p.message.Owns a)
    (hread : p.heap.read a = ranges ++ [⟨0,0⟩])
    (hfits : (supportedFrequenciesEncoding ranges).length ≤ maxEncodedMessageSize) (t : Transport) :
    (attempt pb boardFields p t).heap = p.heap.free a ∧ (attempt pb boardFields p t).message = p.message := by
  have hne : supportedFrequenciesEncoding ranges ≠ [] := by
    intro hnil
    exact varint_ne_nil _ (List.append_eq_nil_iff.mp hnil).1
  have hsend := whadSendMessage_of_fits boardFields hpb p.heap p.message t
    (hown.encoding boardFields hread) hne hfits
  rw [attempt, hsent]
  simp only [Bool.false_eq_true, if_false, hsend, hown.free, and_self]

/-- An attempt that fails in the encoder leaves everything as it is. -/
theorem attempt_of_long (hpb : pb.Documented) (p : Pending) (hsent : p.sent = false) (hown : p.message.Owns a)
    (hread : p.heap.read a = ranges ++ [⟨0,0⟩])
    (hlong : maxEncodedMessageSize < (supportedFrequenciesEncoding ranges).length) (t : Transport) :
    attempt pb boardFields p t =
      { p with encoded := p.encoded ++ [encodeMessage pb boardFields p.heap p.message] } := by
  have hsend := whadSendMessage_of_not_fits boardFields hpb p.heap p.message t fun bytes hbytes _ => by
    rw [hown.encoding boardFields hread] at hbytes
    obtain rfl := Option.some.inj hbytes
    exact hlong
  simp [attempt, hsent, hsend]

/-- While no attempt gets past the encoder, all of them find the message as it was built. -/
theorem run_attempt_of_long (hpb : pb.Documented) (hown : built.Owns a)
    (hread : heap.read a = ranges ++ [⟨0,0⟩])
    (hlong : maxEncodedMessageSize < (supportedFrequenciesEncoding ranges).length) (ts : List Transport) :
    run (attempt pb boardFields) (.start heap built) ts =
      ⟨heap,built,false,List.replicate ts.length (encodeMessage pb boardFields heap built)⟩ := by
  induction ts using List.reverseRecOn with
  | nil => rfl
  | append_singleton ts t ih =>
    rw [run_append, ih, run_cons, run_nil, attempt_of_long boardFields hpb _ rfl hown hread hlong,
      List.length_append, List.length_singleton, List.replicate_succ']

end

/-- The message keeps its list through every run of attempts only if no attempt gets past the
encoder. -/
theorem ownership_kept_iff {pb : Nanopb} (hpb : pb.Documented)
    (boardFields : BoardMessage → Fields CallbackField) (heap : Heap) (a : Address) (m : Message)
    (ranges : List FrequencyRange) {heap' : Heap} {built : Message}
    (hbuilt : whadPhySupportedFrequencies heap (some a) (some m) (some ranges) = (.success, heap', some built))
    (ts : List Transport) :
    (∀ n, OwnershipKept a (run (attempt pb boardFields) (.start heap' built) (ts.take n))) ↔
      ts = [] ∨ maxEncodedMessageSize < (supportedFrequenciesEncoding ranges).length := by
  obtain ⟨hblock,hown⟩ := whadPhySupportedFrequencies_spec hbuilt
  have hread : heap'.read a = ranges ++ [⟨0,0⟩] := by rw [Heap.read, hblock]
  constructor
  · intro hkept
    by_contra hnot
    obtain ⟨hne,hfits⟩ := not_or.mp hnot
    obtain ⟨t,rest,rfl⟩ := List.exists_cons_of_ne_nil hne
    obtain ⟨hheap,hmessage⟩ := attempt_of_fits boardFields hpb (.start heap' built) rfl hown hread
      (not_lt.mp hfits) t
    have hone := hkept 1
    simp only [List.take_succ_cons, List.take_zero, run_cons, run_nil] at hone
    -- sent or not, the list is gone and the pointer is not
    cases hsent : (attempt pb boardFields (.start heap' built) t).sent with
    | false =>
      have hlive := hone.live hsent
      rw [hheap] at hlive
      simp at hlive
    | true =>
      refine (hone.released hsent).2 ?_
      rw [hmessage]
      exact hown
  · intro hcond n
    have hrun : ∃ k e, run (attempt pb boardFields) (.start heap' built) (ts.take n) =
        ⟨heap',built,false,List.replicate k e⟩ := by
      obtain rfl | hlong := hcond
      · exact ⟨0,(true,⟨[],none⟩),by simp [Pending.start]⟩
      · exact ⟨_,_,run_attempt_of_long boardFields hpb hown hread hlong _⟩
    obtain ⟨k,e,hrun⟩ := hrun
    rw [hrun]
    refine ⟨fun _ => by rw [hblock],?_,by simp [hblock],by simp⟩
    intro e' he
    obtain ⟨hlen,rfl⟩ := List.mem_replicate.mp he
    rw [List.head?_replicate, if_neg hlen]

/-- A transport with a chunk on its way and no free cell in its queue. -/
def fullQueue : Transport := { gwTransport with
  state := .sending
  txBuf := ⟨1023,0,Vector.replicate ringbufMaxSize 0⟩ }

theorem ownership_kept_iff_full_queue :
    let built := whadPhySupportedFrequencies Heap.empty (some 0) (some default) (some [⟨1,2⟩])
    ¬∀ n, OwnershipKept 0 (run (attempt Nanopb.plain fun _ => .nil)
      (.start built.2.1 (built.2.2.getD default)) ([fullQueue].take n)) := by
  intro built
  have hbuilt : built = (.success, built.2.1, some (built.2.2.getD default)) := rfl
  rw [ownership_kept_iff Nanopb.plain_documented (fun _ => .nil) Heap.empty 0 default [⟨1,2⟩] hbuilt]
  decide

/-- The queue is full in two attempts. The first one frees the list, the second one encodes what
is left in the block and frees it again. -/
theorem full_queue_frees_twice :
    let built := whadPhySupportedFrequencies Heap.empty (some 0) (some default) (some [⟨1,2⟩])
    let start : Pending := .start built.2.1 (built.2.2.getD default)
    let first := attempt Nanopb.plain (fun _ => .nil) start fullQueue
    let second := attempt Nanopb.plain (fun _ => .nil) first fullQueue
    built.1 = .success ∧
      (whadSendMessage Nanopb.plain (fun _ => .nil) start.heap start.message fullQueue).result = .ringbufFull ∧
      first.sent = false ∧ (first.heap.block 0).live = false ∧ ¬OwnershipKept 0 first ∧
      (second.heap.block 0).released = 2 ∧
      second.encoded.map (fun e => e.2.written) =
        [[0x3A,0x09,0xD2,0x01,0x06,0x0A,0x04,0x08,0x01,0x10,0x02],[0x3A,0x03,0xD2,0x01,0x00]] := by
  intro built start first second
  have hsent : first.sent = false := by decide +kernel
  have hfreed : (first.heap.block 0).live = false := by decide +kernel
  have hlost : ¬OwnershipKept 0 first := fun hkept =>
    Bool.false_ne_true (hfreed.symm.trans (hkept.live hsent))
  exact ⟨by decide +kernel,by decide +kernel,hsent,hfreed,hlost,by decide +kernel,by decide +kernel⟩

end WhadLib
