import WhadLib.Library.SentinelTable
import WhadLib.Ownership
import WhadLib.Phy.Wrappers

/-! Which lists of frequency ranges reach the host whole. The builder closes its copy with a zero range;
the encode callback and the class that counts the ranges stop at a range with a zero in it. -/
namespace WhadLib
open Library
open Phy.Wrapper (SupportedFreqsResp)

/-- `SupportedFreqsResp::pack`, with the heap the builder allocates from; the array is what lies behind
the pointer. -/
def supportedFreqsRespPack (h : Heap) (o : SupportedFreqsResp) (m : Message) :
    Option (WhadResult × Heap × Option Message) := do
  let freqRanges ← o.freqRanges
  let counted := freqRanges.takeWhile fun range => range.start != 0 && range.stop != 0
  some (whadPhySupportedFrequencies h o.allocated (some m) (some counted))

/-- The field of `phy_SupportedFrequencyRanges`. -/
def frequencyRangesField : PbField := ⟨frequencyRangesTag,.len⟩

/-- Every range of a list, in order, as protobuf encodes it. -/
def rangesEncoding (ranges : List FrequencyRange) : List UInt8 :=
  ranges.flatMap fun r => fieldKey frequencyRangesField ++ (varint r.bytes.length ++ r.bytes)

/-- The message points to a list, and wherever there is room the callback writes just these ranges,
whatever lies behind the list in memory. -/
def Transmits (pb : Nanopb) (heap : Heap) (m : Message) (ranges : List FrequencyRange) : Prop :=
  ∃ a, m.Owns a ∧ ∀ (rest : List FrequencyRange) (s : Sink UInt8), s.Fits (rangesEncoding ranges) →
    whadPhyFrequencyRangeEncodeCb pb frequencyRangesField (heap.read a ++ rest) s =
      (true, s.write (rangesEncoding ranges))

/-- A list arrives whole, from the builder and from the class, which gets it closed by a zero range. -/
structure TransmittedWhole (pb : Nanopb) (ranges : List FrequencyRange) : Prop where
  builder : ∀ heap a m, ∃ heap' built,
    whadPhySupportedFrequencies heap (some a) (some m) (some ranges) = (.success, heap', some built) ∧
      Transmits pb heap' built ranges
  wrapper : ∀ heap a m rest, ∃ heap' built,
    supportedFreqsRespPack heap ⟨some (sentinelTable ranges ⟨0,0⟩ rest),some a⟩ m =
        some (.success, heap', some built) ∧
      Transmits pb heap' built ranges

/-- The test of both loops. -/
def FrequencyRange.passed (r : FrequencyRange) : Bool := r.start != 0 && r.stop != 0

@[simp] theorem FrequencyRange.passed_iff (r : FrequencyRange) : r.passed = true ↔ r.start ≠ 0 ∧ r.stop ≠ 0 := by
  simp [FrequencyRange.passed]

theorem FrequencyRange.passed_zero : FrequencyRange.passed ⟨0,0⟩ = false := rfl

section
variable {pb : Nanopb} {heap : Heap} {a : Address} {built : Message} {ranges stored : List FrequencyRange}

/-- The callback writes the ranges its loop passes. -/
theorem frequencyRangeOutput_eq (ranges : List FrequencyRange) :
    CallbackField.frequencyRangeOutput frequencyRangesField ranges =
      rangesEncoding (ranges.takeWhile FrequencyRange.passed) := by
  have htest : (fun r : FrequencyRange => decide (r.start ≠ 0 ∧ r.stop ≠ 0)) = FrequencyRange.passed := by
    funext r
    rw [Bool.eq_iff_iff, decide_eq_true_iff, FrequencyRange.passed_iff]
  have htag : frequencyRangesField.tag = frequencyRangesTag := rfl
  rw [CallbackField.frequencyRangeOutput, if_pos htag, htest]
  rfl

/-- A range that is passed over would have left at least its key. -/
theorem rangesEncoding_takeWhile_iff (ranges : List FrequencyRange) :
    rangesEncoding (ranges.takeWhile FrequencyRange.passed) = rangesEncoding ranges ↔
      ∀ r ∈ ranges, r.start ≠ 0 ∧ r.stop ≠ 0 := by
  simp only [← FrequencyRange.passed_iff]
  refine flatMap_takeWhile_eq_iff fun r hnil => ?_
  exact varint_ne_nil _ (List.append_eq_nil_iff.mp hnil).1

/-- A list that is closed by a zero range is transmitted as far as the loop passes it. -/
theorem transmits_iff (hpb : pb.Documented) (hown : built.Owns a) (hread : heap.read a = stored ++ [⟨0,0⟩]) :
    Transmits pb heap built ranges ↔
      rangesEncoding (stored.takeWhile FrequencyRange.passed) = rangesEncoding ranges := by
  have hemits (rest : List FrequencyRange) :
      (whadPhyFrequencyRangeEncodeCb pb frequencyRangesField (heap.read a ++ rest)).Completes
        (rangesEncoding (stored.takeWhile FrequencyRange.passed)) := by
    have hcb := frequencyRangeCb_emits hpb frequencyRangesField (heap.read a ++ rest)
    rw [frequencyRangeOutput_eq, hread, List.append_assoc] at hcb
    rw [← takeWhile_sentinelTable FrequencyRange.passed_zero rest, hread, List.append_assoc]
    exact hcb.completes
  constructor
  · rintro ⟨a',hown',hwrites⟩
    have haddress : a = a' := by
      have harg := hown.arg.symm.trans hown'.arg
      simpa using harg
    subst haddress
    have hwritten := (hemits [] ⟨[],none⟩ (by simp [Sink.Fits])).symm.trans
      (hwrites [] ⟨[],none⟩ (by simp [Sink.Fits]))
    simpa [Sink.write] using hwritten
  · intro heq
    refine ⟨a,hown,fun rest s hfits => ?_⟩
    rw [← heq] at hfits ⊢
    exact hemits rest s hfits

/-- Whoever stores the list, the message the builder leaves points to it. -/
theorem exists_supportedFrequencies (heap : Heap) (a : Address) (m : Message) (ranges : List FrequencyRange) :
    ∃ heap' built, whadPhySupportedFrequencies heap (some a) (some m) (some ranges) =
        (.success, heap', some built) ∧
      heap'.read a = ranges ++ [⟨0,0⟩] ∧ built.Owns a := by
  refine ⟨_,_,rfl,?_,rfl,rfl,rfl⟩
  rw [Heap.read, Heap.store_block]

end

/-- A list arrives whole if and only if none of its ranges has a zero for a bound. -/
theorem transmittedWhole_iff {pb : Nanopb} (hpb : pb.Documented) (ranges : List FrequencyRange) :
    TransmittedWhole pb ranges ↔ ∀ r ∈ ranges, r.start ≠ 0 ∧ r.stop ≠ 0 := by
  constructor
  · intro h
    obtain ⟨heap,built,hbuilt,htransmits⟩ := h.builder Heap.empty 0 default
    obtain ⟨hblock,hown⟩ := whadPhySupportedFrequencies_spec hbuilt
    have hread : heap.read 0 = ranges ++ [⟨0,0⟩] := congrArg Block.ranges hblock
    exact (rangesEncoding_takeWhile_iff ranges).mp ((transmits_iff hpb hown hread).mp htransmits)
  · intro h
    have hall := (rangesEncoding_takeWhile_iff ranges).mpr h
    constructor
    · intro heap a m
      obtain ⟨heap',built,hbuilt,hread,hown⟩ := exists_supportedFrequencies heap a m ranges
      exact ⟨heap',built,hbuilt,(transmits_iff hpb hown hread).mpr hall⟩
    · intro heap a m rest
      -- the class counts them all, so it stores what the builder is given
      have hcounted : (sentinelTable ranges ⟨0,0⟩ rest).takeWhile FrequencyRange.passed = ranges := by
        rw [takeWhile_sentinelTable FrequencyRange.passed_zero, List.takeWhile_eq_self_iff]
        exact fun r hr => (FrequencyRange.passed_iff r).mpr (h r hr)
      obtain ⟨heap',built,hbuilt,hread,hown⟩ := exists_supportedFrequencies heap a m ranges
      refine ⟨heap',built,?_,(transmits_iff hpb hown hread).mpr hall⟩
      change some (whadPhySupportedFrequencies heap (some a) (some m)
        (some ((sentinelTable ranges ⟨0,0⟩ rest).takeWhile FrequencyRange.passed))) = _
      rw [hcounted, hbuilt]

theorem transmittedWhole_iff_ism :
    TransmittedWhole Nanopb.plain [⟨2400000000,2500000000⟩] ↔
      ∀ r ∈ [(⟨2400000000,2500000000⟩ : FrequencyRange)], r.start ≠ 0 ∧ r.stop ≠ 0 :=
  transmittedWhole_iff Nanopb.plain_documented [⟨2400000000,2500000000⟩]

/-- A range from zero on drops itself and the one behind it, although neither is the zero range. -/
theorem range_from_zero_is_dropped :
    let ranges : List FrequencyRange := [⟨0,1000⟩,⟨2400000000,2500000000⟩]
    let built := whadPhySupportedFrequencies Heap.empty (some 0) (some default) (some ranges)
    (∀ r ∈ ranges, r ≠ ⟨0,0⟩) ∧ built.1 = .success ∧ built.2.1.read 0 = ranges ++ [⟨0,0⟩] ∧
      whadPhyFrequencyRangeEncodeCb Nanopb.plain frequencyRangesField (built.2.1.read 0) ⟨[],none⟩ =
        (true, ⟨[],none⟩) ∧
      ¬TransmittedWhole Nanopb.plain ranges := by
  intro ranges built
  have hread : built.2.1.read 0 = ranges ++ [⟨0,0⟩] := rfl
  have hwritten : whadPhyFrequencyRangeEncodeCb Nanopb.plain frequencyRangesField (built.2.1.read 0) ⟨[],none⟩ =
      (true, ⟨[],none⟩) := rfl
  refine ⟨by decide,rfl,hread,hwritten,fun h => ?_⟩
  obtain ⟨heap,message,hbuilt,htransmits⟩ := h.builder Heap.empty 0 default
  obtain ⟨hblock,hown⟩ := whadPhySupportedFrequencies_spec hbuilt
  have hall := (transmits_iff Nanopb.plain_documented hown (congrArg Block.ranges hblock)).mp htransmits
  exact absurd hall (by decide)

end WhadLib
