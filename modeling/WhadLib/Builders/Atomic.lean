import WhadLib.Ble.Sequence
import WhadLib.Builders.Plain

/-! What a builder that fails has done to the message. A call that is refused has done nothing; a body that
fails has set both tags by then. -/
namespace WhadLib
open Library

/-- A message is left exactly as it was by a call that fails. -/
def Atomic (run : Option FullMessage → Outcome) : Prop :=
  ∀ message after, run message = some (.error, after) → after = message

/-- A body that does not fail. -/
def EndsWell {α : Type} (body : Option (WhadResult × α)) : Prop := ∀ p, body ≠ some (.error, p)

theorem endsWell_done {α : Type} (p : α) : EndsWell (done p) := by
  intro p'
  simp [done]

theorem endsWell_bind {α β : Type} {x : Option β} {rest : β → Option (WhadResult × α)}
    (h : ∀ a, EndsWell (rest a)) : EndsWell (x >>= rest) := by
  intro p hp
  obtain ⟨a,-,ha⟩ := Option.bind_eq_some_iff.mp hp
  exact h a p ha

section
variable {run : Option FullMessage → Outcome} {k : Kind}

theorem Plain.atomic (h : Plain run) : Atomic run := by
  intro message after hrun
  rcases h.cases message with heq | ⟨m,k,p,-,heq⟩
  · rw [heq] at hrun
    simpa [refuse] using hrun.symm
  · rw [heq] at hrun
    simp at hrun

/-- A message of another kind shows that a body has failed. -/
theorem atomic_build_iff {body : k.Struct → Option (WhadResult × k.Struct)} (hnone : run none = refuse none)
    (h : ∀ m, run (some m) = m.build k body) : Atomic run ↔ ∀ p, EndsWell (body p) := by
  constructor
  · intro hatomic p p' hbody
    let m : FullMessage := { (default : FullMessage) with
      whichMsg := k.domainTag + 1, msg := Function.update (default : FullMessage).msg k p }
    have hm : m.msg k = p := Function.update_self ..
    have hput : m.put k p' = m := Option.some.inj (hatomic (some m) _ (by
      rw [h, FullMessage.build_eq_some_iff]
      exact ⟨p',by rw [hm]; exact hbody,rfl⟩))
    have htag := (FullMessage.put_eq_self_iff.mp hput).1.domain
    exact Nat.succ_ne_self _ htag
  · intro hbody message after hrun
    cases message with
    | none =>
      rw [hnone] at hrun
      simpa [refuse] using hrun.symm
    | some m =>
      rw [h, FullMessage.build_eq_some_iff] at hrun
      obtain ⟨p,hp,-⟩ := hrun
      exact absurd hp (hbody _ p)

/-- A body that ends well or not at all. -/
theorem atomic_of_build {body : k.Struct → Option (WhadResult × k.Struct)} (hnone : run none = refuse none)
    (h : ∀ m, run (some m) = m.build k body) (hbody : ∀ p, EndsWell (body p)) : Atomic run :=
  (atomic_build_iff hnone h).mpr hbody

theorem atomic_of_refuse (hnone : run none = refuse none) (h : ∀ m, run (some m) = refuse (some m)) : Atomic run :=
  (plain_of_refuse hnone h).atomic

end

/- A builder is compared with its member and its body, not with what setting both comes to. -/
attribute [local irreducible] FullMessage.build

namespace Ble
section
variable {pktCount : ℤ} {packets : ℕ → PreparedPacket} {run : Option FullMessage → Outcome}

/-- Whatever can fail is checked before the tags are set. -/
def BleBuilder.FailsEarly : BleBuilder → Prop
  | .setAdvData pAdvData _ pScanrspData _ => pAdvData.isSome → pScanrspData = none
  | .reactiveJam _ _ patternLength _ => patternLength ≤ 20
  | .prepareSequenceOnRecv pPattern pMask length _ _ _ pPackets _ =>
    pPattern.isSome → pMask.isSome → pPackets = none → 0 < length ∧ length < 255
  | .prepareSequenceManual _ _ pPackets pktCount =>
    ∀ packets, pPackets = some packets → ¬Refused packets 0 pktCount.toNat
  | .prepareSequenceConnEvt _ _ _ pPackets pktCount =>
    ∀ packets, pPackets = some packets → ¬Refused packets 0 pktCount.toNat
  | _ => True

/-- The loop fails where a packet is refused. -/
theorem sequence_fails_iff {p : PrepareSequenceCmd} :
    (∃ p', whadBleSequenceCopyPackets (some packets) pktCount p = some (.error, p')) ↔
      Refused packets 0 pktCount.toNat := by
  by_cases h : 0 < pktCount
  · rw [whadBleSequenceCopyPackets_of_pos h, ← copyPacketsFrom_error_iff (v := p.sequence.items)]
    constructor
    · rintro ⟨p',hp⟩
      obtain ⟨⟨result,w⟩,hw,heq⟩ := Option.map_eq_some_iff.mp hp
      obtain ⟨rfl,-⟩ := Prod.mk.inj heq
      exact ⟨w,hw⟩
    · rintro ⟨w,hw⟩
      rw [hw]
      exact ⟨_,rfl⟩
  · rw [whadBleSequenceCopyPackets_of_nonpos (not_lt.mp h), Int.toNat_of_nonpos (not_lt.mp h)]
    refine iff_of_false ?_ ?_
    · rintro ⟨p',hp⟩
      simp [done] at hp
    · rintro ⟨j,-,hj,-⟩
      omega

theorem atomic_sequence_iff {head : PrepareSequenceCmd → PrepareSequenceCmd} (hnone : run none = refuse none)
    (h : ∀ m, run (some m) = m.build (.ble .prepare) fun p => whadBleSequenceCopyPackets (some packets) pktCount (head p)) :
    Atomic run ↔ ¬Refused packets 0 pktCount.toNat := by
  rw [atomic_build_iff hnone h]
  constructor
  · intro hbody hrefused
    obtain ⟨p',hp⟩ := sequence_fails_iff (p := head default).mpr hrefused
    exact hbody default p' hp
  · intro hok p p' hp
    exact hok (sequence_fails_iff.mp ⟨p',hp⟩)

theorem bleBuilder_atomic_iff (b : BleBuilder) : Atomic b.run ↔ b.FailsEarly := by
  cases b
  case rawPdu pPdu _ _ _ _ _ _ _ _ _ =>
    refine iff_of_true ?_ trivial
    cases pPdu with
    | none => exact atomic_of_refuse rfl fun _ => rfl
    | some => exact atomic_of_build rfl (fun _ => rfl) fun _ => endsWell_bind fun _ => endsWell_done _
  case pdu pPdu _ _ _ _ _ =>
    refine iff_of_true ?_ trivial
    cases pPdu with
    | none => exact atomic_of_refuse rfl fun _ => rfl
    | some => exact atomic_of_build rfl (fun _ => rfl) fun _ => endsWell_bind fun _ => endsWell_done _
  case sendRawPdu pPdu _ _ _ =>
    refine iff_of_true ?_ trivial
    cases pPdu with
    | none => exact atomic_of_refuse rfl fun _ => rfl
    | some => exact atomic_of_build rfl (fun _ => rfl) fun _ => endsWell_bind fun _ => endsWell_done _
  case sendPdu pPdu _ _ =>
    refine iff_of_true ?_ trivial
    cases pPdu with
    | none => exact atomic_of_refuse rfl fun _ => rfl
    | some => exact atomic_of_build rfl (fun _ => rfl) fun _ => endsWell_bind fun _ => endsWell_done _
  case advMode pAdvData advDataLength pScanrspData scanrspDataLength =>
    refine iff_of_true ?_ trivial
    cases pAdvData with
    | none => exact atomic_of_refuse rfl fun _ => rfl
    | some =>
      cases pScanrspData with
      | none => exact atomic_of_refuse rfl fun _ => rfl
      | some =>
        exact atomic_of_build rfl (fun _ => rfl) fun _ => endsWell_bind fun _ => endsWell_bind fun _ => endsWell_done _
  case peripheralMode pAdvData advDataLength pScanrspData scanrspDataLength =>
    refine iff_of_true ?_ trivial
    cases pAdvData with
    | none => exact atomic_of_refuse rfl fun _ => rfl
    | some =>
      cases pScanrspData with
      | none => exact atomic_of_refuse rfl fun _ => rfl
      | some =>
        exact atomic_of_build rfl (fun _ => rfl) fun _ => endsWell_bind fun _ => endsWell_bind fun _ => endsWell_done _
  case advPdu pBdaddr _ pAdvData advDataLength =>
    refine iff_of_true ?_ trivial
    cases pBdaddr with
    | none => exact atomic_of_refuse rfl fun _ => rfl
    | some =>
      cases pAdvData with
      | none => exact atomic_of_refuse rfl fun _ => rfl
      | some =>
        refine atomic_of_build rfl (fun _ => rfl) fun p => ?_
        split
        · exact endsWell_bind fun _ => endsWell_done _
        · exact endsWell_bind fun _ => endsWell_done _
  case setAdvData pAdvData advDataLength pScanrspData scanrspDataLength =>
    cases pAdvData with
    | none => exact iff_of_true (atomic_of_refuse rfl fun _ => rfl) fun h => absurd h (by decide)
    | some =>
      cases pScanrspData with
      | none => exact iff_of_true (atomic_of_refuse rfl fun _ => rfl) fun _ => rfl
      | some =>
        refine iff_of_false (fun hatomic => ?_) fun h => absurd (h rfl) (Option.some_ne_none _)
        refine (atomic_build_iff (by rfl) (fun _ => rfl)).mp hatomic default default ?_
        simp [failed]
  case reactiveJam channel pPattern patternLength position =>
    rw [atomic_build_iff (by rfl) (fun _ => rfl)]
    constructor
    · intro hbody
      by_contra hlen
      have hpos : 0 < patternLength := by simp only [BleBuilder.FailsEarly] at hlen; omega
      have hmax : 20 < patternLength := not_le.mp hlen
      exact hbody default _ (by simp only [hpos, hmax, if_true]; rfl)
    · intro hlen p
      have hmax : ¬20 < patternLength := not_lt.mpr hlen
      simp only [hmax, if_false]
      split
      · exact endsWell_bind fun _ => endsWell_bind fun _ => endsWell_done _
      · exact endsWell_done _
  case prepareSequenceOnRecv pPattern pMask length offset id direction pPackets pktCount =>
    cases pPattern with
    | none => exact iff_of_true (atomic_of_refuse rfl fun _ => rfl) fun h => absurd h (by decide)
    | some pattern =>
      cases pMask with
      | none => exact iff_of_true (atomic_of_refuse rfl fun _ => rfl) fun _ h => absurd h (by decide)
      | some mask =>
        cases pPackets with
        | some =>
          exact iff_of_true (atomic_of_refuse rfl fun _ => rfl) fun _ _ h => absurd h (Option.some_ne_none _)
        | none =>
          rw [atomic_build_iff (by rfl) (fun _ => rfl)]
          constructor
          · intro hbody _ _ _
            by_contra hlen
            exact hbody default _ (by simp only [blePrepseqTriggerMaxSize, hlen, if_false]; rfl)
          · intro hearly p
            simp only [blePrepseqTriggerMaxSize, hearly rfl rfl rfl, and_self, if_true]
            refine endsWell_bind fun _ => endsWell_bind fun _ => ?_
            by_cases hpos : 0 < pktCount
            · intro p' hp
              simp [whadBleSequenceCopyPackets, hpos] at hp
            · rw [whadBleSequenceCopyPackets_of_nonpos (not_lt.mp hpos)]
              exact endsWell_done _
  case prepareSequenceManual id direction pPackets pktCount =>
    cases pPackets with
    | none => exact iff_of_true (atomic_of_refuse rfl fun _ => rfl) fun _ h => absurd h.symm (Option.some_ne_none _)
    | some packets => exact (atomic_sequence_iff (by rfl) (fun _ => rfl)).trans (by simp [BleBuilder.FailsEarly])
  case prepareSequenceConnEvt connectionEvent id direction pPackets pktCount =>
    cases pPackets with
    | none => exact iff_of_true (atomic_of_refuse rfl fun _ => rfl) fun _ h => absurd h.symm (Option.some_ne_none _)
    | some packets => exact (atomic_sequence_iff (by rfl) (fun _ => rfl)).trans (by simp [BleBuilder.FailsEarly])
  all_goals exact iff_of_true (bleBuilder_plain _ rfl).atomic trivial

end
end Ble

namespace Phy

/-- Whatever can fail is checked before the tags are set. -/
def PhyBuilder.FailsEarly : PhyBuilder → Prop
  | .sendRawIq pIqStream length => pIqStream.isSome → 255 < length
  | _ => True

theorem phyBuilder_atomic_iff (b : PhyBuilder) : Atomic b.run ↔ b.FailsEarly := by
  cases b
  case setSyncWord pSyncword length =>
    refine iff_of_true ?_ trivial
    cases pSyncword with
    | none => exact atomic_of_refuse rfl fun _ => rfl
    | some src =>
      by_cases h : 10 < length
      · exact atomic_of_refuse rfl fun _ => if_pos h
      · exact atomic_of_build rfl (fun _ => if_neg h) fun _ => endsWell_bind fun _ => endsWell_done _
  case send pPacket length =>
    refine iff_of_true ?_ trivial
    cases pPacket with
    | none => exact atomic_of_refuse rfl fun _ => rfl
    | some src =>
      by_cases h : 255 < length
      · exact atomic_of_refuse rfl fun _ => if_pos h
      · exact atomic_of_build rfl (fun _ => if_neg h) fun _ => endsWell_bind fun _ => endsWell_done _
  case sendRawIq pIqStream length =>
    cases pIqStream with
    | none => exact iff_of_true (atomic_of_refuse rfl fun _ => rfl) nofun
    | some src =>
      by_cases h : 255 < length
      · exact iff_of_true (atomic_of_refuse rfl fun _ => if_pos h) fun _ => h
      · refine iff_of_false (fun hatomic => ?_) fun hlate => h (hlate rfl)
        exact (atomic_build_iff (by rfl) (fun _ => if_neg h)).mp hatomic default default rfl
  case supportedFrequencies allocated pRanges nbRanges =>
    refine iff_of_true ?_ trivial
    match pRanges, allocated with
    | none, _ | some _, none => exact atomic_of_refuse rfl fun _ => rfl
    | some _, some _ => exact atomic_of_build rfl (fun _ => rfl) fun _ => endsWell_bind fun _ => endsWell_done _
  case schedPacket pPacket length tsSec tsUsec =>
    refine iff_of_true ?_ trivial
    cases pPacket with
    | none => exact atomic_of_refuse rfl fun _ => rfl
    | some src =>
      by_cases h : 255 < length
      · exact atomic_of_refuse rfl fun _ => if_pos h
      · exact atomic_of_build rfl (fun _ => if_neg h) fun _ => endsWell_bind fun _ => endsWell_done _
  case packetReceived payload _ _ _ _ _ _ _ =>
    refine iff_of_true ?_ trivial
    cases payload with
    | none => exact atomic_of_refuse rfl fun _ => rfl
    | some src =>
      exact atomic_of_build rfl (fun _ => rfl) fun _ => endsWell_bind fun _ => endsWell_bind fun _ => endsWell_done _
  all_goals exact iff_of_true (phyBuilder_plain _ rfl).atomic trivial

end Phy

namespace Esb
section
variable {addr : EsbAddress} {pdu : EsbRecvdPacket} {channel : UInt32} {retrCount : ℤ} {packetLen : UInt8}
  {src : Buffer} {showAck : Bool}

/-- The size of an address that is given is within bounds. -/
def EsbRecvdPacket.AddressFits (pdu : EsbRecvdPacket) : Prop :=
  pdu.address.has = true → pdu.address.value.size ≤ 5

theorem storeNodeAddress_endsWell_iff : (∀ p, EndsWell (storeNodeAddress addr p)) ↔ addr.size ≤ 5 := by
  unfold storeNodeAddress
  by_cases h : addr.size ≤ 5
  · simp only [h, if_true, iff_true]
    exact fun _ => endsWell_bind fun _ => endsWell_done _
  · simp only [h, if_false, iff_false]
    intro hbody
    exact hbody default default rfl

theorem storeRecvdPacket_endsWell_iff : (∀ p, EndsWell (storeRecvdPacket pdu p)) ↔ pdu.AddressFits := by
  unfold storeRecvdPacket EsbRecvdPacket.AddressFits
  by_cases haddr : pdu.address.has = true
  · by_cases hsize : 5 < pdu.address.value.size
    · refine iff_of_false (fun hbody => ?_) fun h => not_le.mpr hsize (h haddr)
      have hlen : (pdu.packet.length.toNat : ℤ) ≤ 255 := by
        have := pdu.packet.length.toNat_lt
        omega
      obtain ⟨x,hx⟩ := (default : PduReceived).pdu.exists_fill (bufferOf pdu.packet.bytes) (Int.natCast_nonneg _) hlen
      exact hbody default _ (by simp only [haddr, hsize, hx, if_true]; rfl)
    · refine iff_of_true (fun p => ?_) fun _ => not_lt.mp hsize
      simp only [haddr, hsize, if_true, if_false]
      exact endsWell_bind fun _ => endsWell_bind fun _ => endsWell_done _
  · refine iff_of_true (fun p => ?_) fun h => absurd h haddr
    simp only [haddr]
    exact endsWell_bind fun _ => endsWell_done _

theorem storeSniff_endsWell (p : SniffCmd) : EndsWell (storeSniff addr channel showAck p) :=
  endsWell_bind fun _ => endsWell_done _

theorem storeSend_endsWell (p : SendCmd) : EndsWell (storeSend channel retrCount src packetLen p) :=
  endsWell_bind fun _ => endsWell_done _

/-- Whatever can fail is checked before the tags are set. -/
def EsbBuilder.FailsEarly : EsbBuilder → Prop
  | .setNodeAddress pAddr => ∀ addr, pAddr = some addr → addr.size ≤ 5
  | .rawPduReceived pPdu => ∀ pdu, pPdu = some pdu → pdu.AddressFits
  | .pduReceived pPdu => ∀ pdu, pPdu = some pdu → pdu.AddressFits
  | _ => True

theorem esbBuilder_atomic_iff (b : EsbBuilder) : Atomic b.run ↔ b.FailsEarly := by
  cases b
  case setNodeAddress pAddr =>
    cases pAddr with
    | none => exact iff_of_true (atomic_of_refuse rfl fun _ => rfl) nofun
    | some addr =>
      rw [atomic_build_iff (by rfl) (fun _ => rfl), storeNodeAddress_endsWell_iff]
      simp [EsbBuilder.FailsEarly]
  case sniff pAddr channel showAck =>
    refine iff_of_true ?_ trivial
    cases pAddr with
    | none => exact atomic_of_refuse rfl fun _ => rfl
    | some addr =>
      by_cases h : 5 < addr.size
      · exact atomic_of_refuse rfl fun _ => if_pos h
      · exact atomic_of_build rfl (fun _ => if_neg h) storeSniff_endsWell
  case send channel retrCount pPacket packetLen =>
    refine iff_of_true ?_ trivial
    cases pPacket with
    | none => exact atomic_of_refuse rfl fun _ => rfl
    | some => exact atomic_of_build rfl (fun _ => rfl) storeSend_endsWell
  case sendRaw channel retrCount pPacket packetLen =>
    refine iff_of_true ?_ trivial
    cases pPacket with
    | none => exact atomic_of_refuse rfl fun _ => rfl
    | some => exact atomic_of_build rfl (fun _ => rfl) storeSend_endsWell
  case rawPduReceived pPdu =>
    cases pPdu with
    | none => exact iff_of_true (atomic_of_refuse rfl fun _ => rfl) nofun
    | some pdu =>
      rw [atomic_build_iff (by rfl) (fun _ => rfl), storeRecvdPacket_endsWell_iff]
      simp [EsbBuilder.FailsEarly]
  case pduReceived pPdu =>
    cases pPdu with
    | none => exact iff_of_true (atomic_of_refuse rfl fun _ => rfl) nofun
    | some pdu =>
      rw [atomic_build_iff (by rfl) (fun _ => rfl), storeRecvdPacket_endsWell_iff]
      simp [EsbBuilder.FailsEarly]
  all_goals exact iff_of_true (esbBuilder_plain _ rfl).atomic trivial

end
end Esb

namespace Unifying
open Esb (storeNodeAddress_endsWell_iff storeRecvdPacket_endsWell_iff storeSniff_endsWell storeSend_endsWell)

/-- Whatever can fail is checked before the tags are set. -/
def UnifyingBuilder.FailsEarly : UnifyingBuilder → Prop
  | .setNodeAddress pAddr => ∀ addr, pAddr = some addr → addr.size ≤ 5
  | .rawPduReceived pPdu => ∀ pdu, pPdu = some pdu → pdu.AddressFits
  | .pduReceived pPdu => ∀ pdu, pPdu = some pdu → pdu.AddressFits
  | _ => True

theorem unifyingBuilder_atomic_iff (b : UnifyingBuilder) : Atomic b.run ↔ b.FailsEarly := by
  cases b
  case setNodeAddress pAddr =>
    cases pAddr with
    | none => exact iff_of_true (atomic_of_refuse rfl fun _ => rfl) nofun
    | some addr =>
      rw [atomic_build_iff (by rfl) (fun _ => rfl), storeNodeAddress_endsWell_iff]
      simp [UnifyingBuilder.FailsEarly]
  case sniff pAddr channel showAck =>
    refine iff_of_true ?_ trivial
    cases pAddr with
    | none => exact atomic_of_refuse rfl fun _ => rfl
    | some addr =>
      by_cases h : 5 < addr.size
      · exact atomic_of_refuse rfl fun _ => if_pos h
      · exact atomic_of_build rfl (fun _ => if_neg h) storeSniff_endsWell
  case send channel retrCount pPacket packetLen =>
    refine iff_of_true ?_ trivial
    cases pPacket with
    | none => exact atomic_of_refuse rfl fun _ => rfl
    | some => exact atomic_of_build rfl (fun _ => rfl) storeSend_endsWell
  case sendRaw channel retrCount pPacket packetLen =>
    refine iff_of_true ?_ trivial
    cases pPacket with
    | none => exact atomic_of_refuse rfl fun _ => rfl
    | some => exact atomic_of_build rfl (fun _ => rfl) storeSend_endsWell
  case rawPduReceived pPdu =>
    cases pPdu with
    | none => exact iff_of_true (atomic_of_refuse rfl fun _ => rfl) nofun
    | some pdu =>
      rw [atomic_build_iff (by rfl) (fun _ => rfl), storeRecvdPacket_endsWell_iff]
      simp [UnifyingBuilder.FailsEarly]
  case pduReceived pPdu =>
    cases pPdu with
    | none => exact iff_of_true (atomic_of_refuse rfl fun _ => rfl) nofun
    | some pdu =>
      rw [atomic_build_iff (by rfl) (fun _ => rfl), storeRecvdPacket_endsWell_iff]
      simp [UnifyingBuilder.FailsEarly]
  all_goals exact iff_of_true (unifyingBuilder_plain _ rfl).atomic trivial

end Unifying

namespace Dot15d4

/-- Whatever can fail is checked before the tags are set. -/
def Dot15d4Builder.FailsEarly : Dot15d4Builder → Prop
  | .send _ pPacket length => pPacket.isSome → 0 ≤ length ∧ length ≤ 255
  | .sendRaw _ pPacket length _ => pPacket.isSome → 0 ≤ length ∧ length ≤ 255
  | _ => True

theorem storeSend_endsWell_iff {channel : UInt32} {src : Buffer} {length : ℤ} :
    (∀ p, EndsWell (storeSend channel src length p)) ↔ 0 ≤ length ∧ length ≤ 255 := by
  by_cases h : 0 ≤ length ∧ length ≤ 255
  · refine iff_of_true (fun p => ?_) h
    simp only [storeSend, h, and_self, if_true]
    exact endsWell_bind fun _ => endsWell_done _
  · refine iff_of_false (fun hbody => ?_) h
    exact hbody default _ (if_neg h)

theorem dot15d4Builder_atomic_iff (b : Dot15d4Builder) : Atomic b.run ↔ b.FailsEarly := by
  cases b
  case setNodeAddress pAddr =>
    refine iff_of_true ?_ trivial
    cases pAddr with
    | some => exact atomic_of_refuse rfl fun _ => rfl
    | none => exact atomic_of_build rfl (fun _ => rfl) fun _ => endsWell_bind fun _ => endsWell_done _
  case send channel pPacket length =>
    cases pPacket with
    | none => exact iff_of_true (atomic_of_refuse rfl fun _ => rfl) nofun
    | some src =>
      rw [atomic_build_iff (by rfl) (fun _ => rfl), storeSend_endsWell_iff]
      simp [Dot15d4Builder.FailsEarly]
  case sendRaw channel pPacket length fcs =>
    cases pPacket with
    | none => exact iff_of_true (atomic_of_refuse rfl fun _ => rfl) nofun
    | some src =>
      rw [atomic_build_iff (by rfl) (fun _ => rfl), storeSend_endsWell_iff]
      simp [Dot15d4Builder.FailsEarly]
  case rawPduReceived pPacket =>
    refine iff_of_true ?_ trivial
    cases pPacket with
    | none => exact atomic_of_refuse rfl fun _ => rfl
    | some => exact atomic_of_build rfl (fun _ => rfl) fun _ => endsWell_bind fun _ => endsWell_done _
  case pduReceived pPacket =>
    refine iff_of_true ?_ trivial
    cases pPacket with
    | none => exact atomic_of_refuse rfl fun _ => rfl
    | some => exact atomic_of_build rfl (fun _ => rfl) fun _ => endsWell_bind fun _ => endsWell_done _
  all_goals exact iff_of_true (dot15d4Builder_plain _ rfl).atomic trivial

end Dot15d4

namespace DomainBuilder

/-- Whatever can fail is checked before the tags are set. -/
def FailsEarly : DomainBuilder → Prop
  | .ble b => b.FailsEarly
  | .phy b => b.FailsEarly
  | .esb b => b.FailsEarly
  | .unifying b => b.FailsEarly
  | .dot15d4 b => b.FailsEarly

/-- Exactly the calls that fail early, if at all, leave the message alone when they fail. -/
theorem atomic_iff_failsEarly (b : DomainBuilder) : Atomic b.run ↔ b.FailsEarly := by
  cases b with
  | ble b => exact Ble.bleBuilder_atomic_iff b
  | phy b => exact Phy.phyBuilder_atomic_iff b
  | esb b => exact Esb.esbBuilder_atomic_iff b
  | unifying b => exact Unifying.unifyingBuilder_atomic_iff b
  | dot15d4 b => exact Dot15d4.dot15d4Builder_atomic_iff b

/-- An address of six bytes is refused when both tags are set already. -/
theorem long_address_changes_tags : ¬Atomic (DomainBuilder.esb (.setNodeAddress (some ⟨default,6⟩))).run := by
  intro h
  have hlate := (Esb.esbBuilder_atomic_iff (.setNodeAddress (some ⟨default,6⟩))).mp h
  exact absurd (hlate _ rfl) (by decide)

end DomainBuilder
end WhadLib
