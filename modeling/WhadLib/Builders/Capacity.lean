import WhadLib.Ble.Reads

/-! How far the builders of the other domains read and write, and all of them. -/
namespace WhadLib
open Library

/- A builder is compared with its member and its body, not with what setting both comes to. -/
attribute [local irreducible] FullMessage.build At

namespace Phy

/-- A block with the ranges and {0,0} behind them. -/
structure RangesCopied (block : List FrequencyRange) (ranges : ℕ → FrequencyRange) (nbRanges : ℤ) : Prop where
  count : (block.length : ℤ) = nbRanges+1
  items : ∀ i : ℕ, (i : ℤ) < nbRanges → block[i]? = some (ranges i)
  last : block.getLast? = some ⟨0,0⟩

/-- There is such a block for every count, and none below zero. -/
theorem exists_rangesCopied_iff {ranges : ℕ → FrequencyRange} {nbRanges : ℤ} :
    (∃ block, storeRanges ranges nbRanges = some block ∧ RangesCopied block ranges nbRanges) ↔ 0 ≤ nbRanges := by
  constructor
  · rintro ⟨block,hblock,hcopied⟩
    have hcount := hcopied.count
    by_contra hneg
    have hne : nbRanges ≠ -1 := by
      rintro rfl
      exact nomatch hblock
    omega
  · intro hzero
    refine ⟨_,if_neg (by omega),?_,fun i hi => ?_,List.getLast?_concat⟩
    · simp only [List.length_append, List.length_map, List.length_range, List.length_singleton]
      omega
    · rw [List.getElem?_append_left (by simp only [List.length_map, List.length_range]; omega), List.getElem?_map,
        List.getElem?_range (by omega)]
      rfl

/-- What a call must store when it succeeds; a received packet is cut to 255 bytes. -/
def PhyBuilder.Stored : PhyBuilder → FullMessage → FullMessage → Prop
  | .setSyncWord pSyncword length =>
    At (.phy .syncWord) fun (p q : SetSyncWordCmd) => Copied p.syncWord q.syncWord pSyncword length
  | .send pPacket length => At (.phy .send) fun (p q : SendCmd) => Copied p.packet q.packet pPacket length
  | .supportedFrequencies allocated pRanges nbRanges =>
    At (.phy .supportedFreq) fun (_ q : SupportedFrequencyRanges) =>
      q.frequencyRanges = .frequencyRange allocated ∧ ∃ ranges block, pRanges = some ranges ∧
        storeRanges ranges nbRanges = some block ∧ RangesCopied block ranges nbRanges
  | .schedPacket pPacket length _ _ =>
    At (.phy .schedSend) fun (p q : ScheduleSendCmd) => Copied p.packet q.packet pPacket length
  | .packetReceived _ _ _ _ payload length syncword syncwordLength _ _ _ _ =>
    At (.phy .packet) fun (p q : PacketReceived) => Copied p.packet q.packet payload (min length 255) ∧
      Copied p.syncword q.syncword syncword syncwordLength
  | _ => fun _ _ => True

/-- The lengths that a builder handles. -/
def PhyBuilder.WithinCapacity : PhyBuilder → Prop
  | .setSyncWord pSyncword length => pSyncword.isSome → 0 ≤ length
  | .send pPacket length => pPacket.isSome → 0 ≤ length
  | .supportedFrequencies allocated pRanges nbRanges => pRanges.isSome → allocated.isSome → 0 ≤ nbRanges
  | .schedPacket pPacket length _ _ => pPacket.isSome → 0 ≤ length
  | .packetReceived _ _ _ _ payload length syncword syncwordLength _ _ _ _ =>
    payload.isSome → 0 ≤ length ∧ 0 ≤ syncwordLength ∧ syncwordLength ≤ 8 ∧ (0 < syncwordLength → syncword.isSome)
  | _ => True

/-- A pointer that is not given can be copied from when nothing is. -/
theorem fillFrom_iff_copied {n : ℕ} {x y : BytesArray n} {src : Option Buffer} {length : ℤ} (hn : n < 65536) :
    fillFrom x src length = some y ↔ Copied x y src length := by
  cases src with
  | some src => exact fill_iff_copied hn
  | none =>
    simp only [fillFrom]
    constructor
    · intro h
      split at h
      · rename_i hlen
        obtain rfl := Option.some.inj h
        refine ⟨by omega,hlen.symm,fun i => ?_⟩
        rw [if_neg (by omega)]
      · exact nomatch h
    · rintro ⟨hlen,hsize,hbytes⟩
      have hzero : length = 0 := by
        by_contra hne
        have hfirst := hbytes ⟨0,by omega⟩
        rw [if_pos (by simp only; omega)] at hfirst
        exact nomatch hfirst
      obtain ⟨size,bytes⟩ := y
      simp only [hzero, if_true, Option.some.injEq, BytesArray.mk.injEq]
      refine ⟨by simp only at hsize; omega,?_⟩
      apply Vector.ext
      intro i hi
      have hbyte := hbytes ⟨i,hi⟩
      rw [if_neg (by simp only; omega)] at hbyte
      exact (Option.some.inj hbyte).symm

theorem exists_fillFrom_iff {n : ℕ} (x : BytesArray n) {src : Option Buffer} {length : ℤ} :
    (∃ y, fillFrom x src length = some y) ↔ 0 ≤ length ∧ length ≤ n ∧ (0 < length → src.isSome) := by
  cases src with
  | some src =>
    constructor
    · rintro ⟨y,hy⟩
      obtain ⟨hlen,-⟩ := memcpy_eq_some_iff.mp (BytesArray.fill_eq_some_iff.mp hy).1
      exact ⟨hlen.1,hlen.2,fun _ => rfl⟩
    · rintro ⟨hzero,hle,-⟩
      exact x.exists_fill src hzero hle
  | none =>
    simp only [fillFrom, Option.isSome_none, Bool.false_eq_true]
    constructor
    · rintro ⟨y,hy⟩
      split at hy
      · omega
      · exact nomatch hy
    · rintro ⟨hzero,hle,hpos⟩
      exact ⟨_,if_pos (le_antisymm (not_lt.mp hpos) hzero)⟩

theorem phyBuilder_safe_iff (b : PhyBuilder) : Safe b.run b.Stored ↔ b.WithinCapacity := by
  cases b
  case setSyncWord pSyncword length =>
    cases pSyncword with
    | none => exact iff_of_true (safe_of_refuse rfl fun _ => rfl) nofun
    | some src =>
      by_cases h : 10 < length
      · exact iff_of_true (safe_of_refuse rfl fun _ => if_pos h) fun _ => by omega
      · refine Iff.trans (safe_build_iff ?_ fun _ => if_neg h) ?_
        · rfl
        refine (bodySafe_fill_iff (by decide) (by exact fun _ _ => rfl)).trans ?_
        simp only [PhyBuilder.WithinCapacity, Option.isSome_some, forall_const]
        omega
  case send pPacket length =>
    cases pPacket with
    | none => exact iff_of_true (safe_of_refuse rfl fun _ => rfl) nofun
    | some src =>
      by_cases h : 255 < length
      · exact iff_of_true (safe_of_refuse rfl fun _ => if_pos h) fun _ => by omega
      · refine Iff.trans (safe_build_iff ?_ fun _ => if_neg h) ?_
        · rfl
        refine (bodySafe_fill_iff (by decide) (by exact fun _ _ => rfl)).trans ?_
        simp only [PhyBuilder.WithinCapacity, Option.isSome_some, forall_const]
        omega
  case sendRawIq pIqStream length =>
    refine iff_of_true (fun message => ?_) trivial
    match message, pIqStream with
    | none, _ => exact ⟨_,_,rfl,.inl rfl⟩
    | some _, none => exact ⟨_,_,rfl,.inl rfl⟩
    | some m, some _ =>
      by_cases h : 255 < length
      · exact ⟨_,_,if_pos h,.inl rfl⟩
      · exact ⟨_,_,(if_neg h).trans (FullMessage.build_eq_some_iff.mpr ⟨m.msg _,rfl,rfl⟩),.inl rfl⟩
  case supportedFrequencies allocated pRanges nbRanges =>
    match pRanges, allocated with
    | none, _ => exact iff_of_true (safe_of_refuse rfl fun _ => rfl) nofun
    | some _, none => exact iff_of_true (safe_of_refuse rfl fun _ => rfl) fun _ => nofun
    | some ranges, some a =>
      refine Iff.trans (safe_build_iff ?_ fun _ => rfl) ?_
      · rfl
      constructor
      · intro hbody _ _
        obtain ⟨result,p',hp,hresult⟩ := hbody default
        simp only [bind, done, Option.bind_eq_some_iff, Option.some.injEq, Prod.mk.injEq] at hp
        obtain ⟨_,-,rfl,-⟩ := hp
        obtain ⟨-,-,_,block,hranges,hstored⟩ := hresult.resolve_left (by decide)
        obtain rfl := Option.some.inj hranges
        exact exists_rangesCopied_iff.mp ⟨block,hstored⟩
      · intro hzero p
        obtain ⟨block,hblock,hcopied⟩ := exists_rangesCopied_iff.mpr (hzero rfl rfl)
        refine ⟨.success,_,by simp only [hblock]; rfl,.inr ⟨rfl,rfl,_,block,rfl,hblock,hcopied⟩⟩
  case schedPacket pPacket length tsSec tsUsec =>
    cases pPacket with
    | none => exact iff_of_true (safe_of_refuse rfl fun _ => rfl) nofun
    | some src =>
      by_cases h : 255 < length
      · exact iff_of_true (safe_of_refuse rfl fun _ => if_pos h) fun _ => by omega
      · refine Iff.trans (safe_build_iff ?_ fun _ => if_neg h) ?_
        · rfl
        refine (bodySafe_fill_iff (by decide) (by exact fun _ _ => rfl)).trans ?_
        simp only [PhyBuilder.WithinCapacity, Option.isSome_some, forall_const]
        omega
  case packetReceived payload length syncword syncwordLength _ _ _ _ =>
    cases payload with
    | none => exact iff_of_true (safe_of_refuse rfl fun _ => rfl) nofun
    | some src =>
      refine Iff.trans (safe_build_iff ?_ fun _ => rfl) ?_
      · rfl
      have hcut : (if 255 < length then 255 else length) = min length 255 := by split <;> omega
      simp only [hcut]
      constructor
      · intro hbody _
        obtain ⟨result,p',hp,-⟩ := hbody default
        simp only [bind, Option.bind_eq_some_iff] at hp
        obtain ⟨x,hx,y,hy,-⟩ := hp
        have hlen := (exists_copied_iff (by decide) _ src).mp ⟨x,hx⟩
        have hword := (exists_fillFrom_iff _).mp ⟨y,hy⟩
        exact ⟨by omega,hword.1,hword.2.1,hword.2.2⟩
      · intro hlen p
        obtain ⟨hzero,hword⟩ := hlen rfl
        obtain ⟨x,hx⟩ := p.packet.exists_fill src (show 0 ≤ min length 255 by omega) (by omega)
        obtain ⟨y,hy⟩ := (exists_fillFrom_iff p.syncword).mpr hword
        exact ⟨.success,_,by simp only [hx, hy]; rfl,
          .inr ⟨rfl,(fill_iff_copied (by decide)).mp hx,(fillFrom_iff_copied (by decide)).mp hy⟩⟩
  all_goals exact iff_of_true (phyBuilder_plain _ rfl).safe trivial

end Phy

namespace Esb
section
variable {addr : EsbAddress} {pdu : EsbRecvdPacket} {channel : UInt32} {retrCount : ℤ} {packetLen : UInt8}
  {src : Buffer} {showAck : Bool}

/-- What a call must store of a received packet. -/
def RecvdStored (pdu : EsbRecvdPacket) (p q : PduReceived) : Prop :=
  Copied p.pdu q.pdu (some (bufferOf pdu.packet.bytes)) pdu.packet.length.toNat ∧
    (pdu.address.has = true →
      Copied p.address.value q.address.value (some (bufferOf pdu.address.value.address)) pdu.address.value.size)

/-- What a call must store when it succeeds. -/
def EsbBuilder.Stored : EsbBuilder → FullMessage → FullMessage → Prop
  | .setNodeAddress (some addr) => At (.esb .setNodeAddr) fun (p q : SetNodeAddressCmd) =>
    Copied p.address q.address (some (bufferOf addr.address)) addr.size
  | .sniff (some addr) _ _ => At (.esb .sniff) fun (p q : SniffCmd) =>
    Copied p.address q.address (some (bufferOf addr.address)) addr.size
  | .send _ _ pPacket packetLen => At (.esb .send) fun (p q : SendCmd) => Copied p.pdu q.pdu pPacket packetLen.toNat
  | .sendRaw _ _ pPacket packetLen => At (.esb .sendRaw) fun (p q : SendCmd) =>
    Copied p.pdu q.pdu pPacket packetLen.toNat
  | .rawPduReceived (some pdu) => At (.esb .rawPdu) (RecvdStored pdu)
  | .pduReceived (some pdu) => At (.esb .pdu) (RecvdStored pdu)
  | _ => fun _ _ => True

/-- The size of an address that is given is not negative. -/
def EsbRecvdPacket.AddressSized (pdu : EsbRecvdPacket) : Prop :=
  pdu.address.has = true → 0 ≤ pdu.address.value.size

/-- The sizes that a builder handles. -/
def EsbBuilder.WithinCapacity : EsbBuilder → Prop
  | .setNodeAddress pAddr => ∀ addr, pAddr = some addr → 0 ≤ addr.size
  | .sniff pAddr _ _ => ∀ addr, pAddr = some addr → 0 ≤ addr.size
  | .rawPduReceived pPdu => ∀ pdu, pPdu = some pdu → pdu.AddressSized
  | .pduReceived pPdu => ∀ pdu, pPdu = some pdu → pdu.AddressSized
  | _ => True

theorem storeNodeAddress_bodySafe_iff : BodySafe (storeNodeAddress addr) (fun p q =>
    Copied p.address q.address (some (bufferOf addr.address)) addr.size) ↔ 0 ≤ addr.size := by
  by_cases h : addr.size ≤ 5
  · have hbody : storeNodeAddress addr = (fun p => do
        let address ← p.address.fill (bufferOf addr.address) addr.size
        done { p with address := address }) := by
      funext p
      exact if_pos h
    rw [hbody]
    refine (bodySafe_fill_iff (by decide) (by exact fun _ _ => rfl)).trans ?_
    omega
  · refine iff_of_true (fun p => ?_) (by omega)
    exact ⟨.error,p,if_neg h,.inl rfl⟩

theorem storeSniff_bodySafe_iff (h : addr.size ≤ 5) : BodySafe (storeSniff addr channel showAck) (fun p q =>
    Copied p.address q.address (some (bufferOf addr.address)) addr.size) ↔ 0 ≤ addr.size := by
  refine (bodySafe_fill_iff (by decide) (by exact fun _ _ => rfl)).trans ?_
  omega

/-- A length of eight bits is within the capacity. -/
theorem storeSend_bodySafe : BodySafe (storeSend channel retrCount src packetLen) (fun p q =>
    Copied p.pdu q.pdu (some src) packetLen.toNat) := by
  refine (bodySafe_fill_iff (by decide) (by exact fun _ _ => rfl)).mpr ?_
  have := packetLen.toNat_lt
  omega

theorem storeRecvdPacket_bodySafe_iff : BodySafe (storeRecvdPacket pdu) (RecvdStored pdu) ↔ pdu.AddressSized := by
  have hlen : (0 : ℤ) ≤ pdu.packet.length.toNat ∧ (pdu.packet.length.toNat : ℤ) ≤ 255 := by
    have := pdu.packet.length.toNat_lt
    omega
  have hpdu (p : PduReceived) := p.pdu.exists_fill (bufferOf pdu.packet.bytes) hlen.1 hlen.2
  by_cases haddr : pdu.address.has = true
  · by_cases hsize : 5 < pdu.address.value.size
    · refine iff_of_true (fun p => ?_) fun _ => by omega
      obtain ⟨x,hx⟩ := hpdu p
      exact ⟨.error,_,by simp only [storeRecvdPacket, haddr, hsize, if_true, hx]; rfl,.inl rfl⟩
    · constructor
      · intro hbody _
        obtain ⟨result,p',hp,-⟩ := hbody default
        simp only [storeRecvdPacket, haddr, hsize, if_true, if_false, bind, Option.bind_eq_some_iff] at hp
        obtain ⟨x,-,a,ha,-⟩ := hp
        exact ((exists_copied_iff (by decide) _ _).mp ⟨a,ha⟩).1
      · intro hsized p
        obtain ⟨x,hx⟩ := hpdu p
        obtain ⟨a,ha⟩ := p.address.value.exists_fill (bufferOf pdu.address.value.address) (hsized haddr)
          (not_lt.mp hsize)
        refine ⟨.success,_,by simp only [storeRecvdPacket, haddr, hsize, if_true, if_false, hx, ha]; rfl,.inr ⟨rfl,?_⟩⟩
        exact ⟨(fill_iff_copied (by decide)).mp hx,fun _ => (fill_iff_copied (by decide)).mp ha⟩
  · refine iff_of_true (fun p => ?_) fun h => absurd h haddr
    obtain ⟨x,hx⟩ := hpdu p
    refine ⟨.success,_,by simp only [storeRecvdPacket, haddr, hx]; rfl,.inr ⟨rfl,?_⟩⟩
    exact ⟨(fill_iff_copied (by decide)).mp hx,fun h => absurd h haddr⟩

theorem esbBuilder_safe_iff (b : EsbBuilder) : Safe b.run b.Stored ↔ b.WithinCapacity := by
  cases b
  case setNodeAddress pAddr =>
    cases pAddr with
    | none => exact iff_of_true (safe_of_refuse rfl fun _ => rfl) nofun
    | some addr =>
      refine Iff.trans (safe_build_iff ?_ fun _ => rfl) ?_
      · rfl
      exact storeNodeAddress_bodySafe_iff.trans (by simp [EsbBuilder.WithinCapacity])
  case sniff pAddr channel showAck =>
    cases pAddr with
    | none => exact iff_of_true (safe_of_refuse rfl fun _ => rfl) nofun
    | some addr =>
      by_cases h : 5 < addr.size
      · refine iff_of_true (safe_of_refuse rfl fun _ => if_pos h) ?_
        rintro _ ⟨⟩
        omega
      · refine Iff.trans (safe_build_iff ?_ fun _ => if_neg h) ?_
        · rfl
        exact (storeSniff_bodySafe_iff (not_lt.mp h)).trans (by simp [EsbBuilder.WithinCapacity])
  case send channel retrCount pPacket packetLen =>
    refine iff_of_true ?_ trivial
    cases pPacket with
    | none => exact safe_of_refuse rfl fun _ => rfl
    | some => exact safe_of_build rfl (fun _ => rfl) storeSend_bodySafe
  case sendRaw channel retrCount pPacket packetLen =>
    refine iff_of_true ?_ trivial
    cases pPacket with
    | none => exact safe_of_refuse rfl fun _ => rfl
    | some => exact safe_of_build rfl (fun _ => rfl) storeSend_bodySafe
  case rawPduReceived pPdu =>
    cases pPdu with
    | none => exact iff_of_true (safe_of_refuse rfl fun _ => rfl) nofun
    | some pdu =>
      refine Iff.trans (safe_build_iff ?_ fun _ => rfl) ?_
      · rfl
      exact storeRecvdPacket_bodySafe_iff.trans (by simp [EsbBuilder.WithinCapacity])
  case pduReceived pPdu =>
    cases pPdu with
    | none => exact iff_of_true (safe_of_refuse rfl fun _ => rfl) nofun
    | some pdu =>
      refine Iff.trans (safe_build_iff ?_ fun _ => rfl) ?_
      · rfl
      exact storeRecvdPacket_bodySafe_iff.trans (by simp [EsbBuilder.WithinCapacity])
  all_goals exact iff_of_true (esbBuilder_plain _ rfl).safe trivial

end
end Esb

namespace Unifying
open Esb (RecvdStored storeNodeAddress_bodySafe_iff storeSniff_bodySafe_iff storeSend_bodySafe
  storeRecvdPacket_bodySafe_iff)

/-- What a call must store when it succeeds. -/
def UnifyingBuilder.Stored : UnifyingBuilder → FullMessage → FullMessage → Prop
  | .setNodeAddress (some addr) => At (.unifying .setNodeAddr) fun (p q : Esb.SetNodeAddressCmd) =>
    Copied p.address q.address (some (bufferOf addr.address)) addr.size
  | .sniff (some addr) _ _ => At (.unifying .sniff) fun (p q : Esb.SniffCmd) =>
    Copied p.address q.address (some (bufferOf addr.address)) addr.size
  | .send _ _ pPacket packetLen => At (.unifying .send) fun (p q : Esb.SendCmd) =>
    Copied p.pdu q.pdu pPacket packetLen.toNat
  | .sendRaw _ _ pPacket packetLen => At (.unifying .sendRaw) fun (p q : Esb.SendCmd) =>
    Copied p.pdu q.pdu pPacket packetLen.toNat
  | .rawPduReceived (some pdu) => At (.unifying .rawPdu) (RecvdStored pdu)
  | .pduReceived (some pdu) => At (.unifying .pdu) (RecvdStored pdu)
  | _ => fun _ _ => True

/-- The sizes that a builder handles. -/
def UnifyingBuilder.WithinCapacity : UnifyingBuilder → Prop
  | .setNodeAddress pAddr => ∀ addr, pAddr = some addr → 0 ≤ addr.size
  | .sniff pAddr _ _ => ∀ addr, pAddr = some addr → 0 ≤ addr.size
  | .rawPduReceived pPdu => ∀ pdu, pPdu = some pdu → pdu.AddressSized
  | .pduReceived pPdu => ∀ pdu, pPdu = some pdu → pdu.AddressSized
  | _ => True

theorem unifyingBuilder_safe_iff (b : UnifyingBuilder) : Safe b.run b.Stored ↔ b.WithinCapacity := by
  cases b
  case setNodeAddress pAddr =>
    cases pAddr with
    | none => exact iff_of_true (safe_of_refuse rfl fun _ => rfl) nofun
    | some addr =>
      refine Iff.trans (safe_build_iff ?_ fun _ => rfl) ?_
      · rfl
      exact storeNodeAddress_bodySafe_iff.trans (by simp [UnifyingBuilder.WithinCapacity])
  case sniff pAddr channel showAck =>
    cases pAddr with
    | none => exact iff_of_true (safe_of_refuse rfl fun _ => rfl) nofun
    | some addr =>
      by_cases h : 5 < addr.size
      · refine iff_of_true (safe_of_refuse rfl fun _ => if_pos h) ?_
        rintro _ ⟨⟩
        omega
      · refine Iff.trans (safe_build_iff ?_ fun _ => if_neg h) ?_
        · rfl
        exact (storeSniff_bodySafe_iff (not_lt.mp h)).trans (by simp [UnifyingBuilder.WithinCapacity])
  case send channel retrCount pPacket packetLen =>
    refine iff_of_true ?_ trivial
    cases pPacket with
    | none => exact safe_of_refuse rfl fun _ => rfl
    | some => exact safe_of_build rfl (fun _ => rfl) storeSend_bodySafe
  case sendRaw channel retrCount pPacket packetLen =>
    refine iff_of_true ?_ trivial
    cases pPacket with
    | none => exact safe_of_refuse rfl fun _ => rfl
    | some => exact safe_of_build rfl (fun _ => rfl) storeSend_bodySafe
  case rawPduReceived pPdu =>
    cases pPdu with
    | none => exact iff_of_true (safe_of_refuse rfl fun _ => rfl) nofun
    | some pdu =>
      refine Iff.trans (safe_build_iff ?_ fun _ => rfl) ?_
      · rfl
      exact storeRecvdPacket_bodySafe_iff.trans (by simp [UnifyingBuilder.WithinCapacity])
  case pduReceived pPdu =>
    cases pPdu with
    | none => exact iff_of_true (safe_of_refuse rfl fun _ => rfl) nofun
    | some pdu =>
      refine Iff.trans (safe_build_iff ?_ fun _ => rfl) ?_
      · rfl
      exact storeRecvdPacket_bodySafe_iff.trans (by simp [UnifyingBuilder.WithinCapacity])
  all_goals exact iff_of_true (unifyingBuilder_plain _ rfl).safe trivial

end Unifying

namespace Dot15d4

/-- What a call must store when it succeeds. -/
def Dot15d4Builder.Stored : Dot15d4Builder → FullMessage → FullMessage → Prop
  | .send _ pPacket length => At (.dot15d4 .send) fun (p q : SendCmd) => Copied p.pdu q.pdu pPacket length
  | .sendRaw _ pPacket length _ => At (.dot15d4 .send) fun (p q : SendCmd) => Copied p.pdu q.pdu pPacket length
  | .rawPduReceived (some packet) => At (.dot15d4 .rawPdu) fun (p q : RawPduReceived) =>
    Copied p.pdu q.pdu (some (bufferOf packet.packet.bytes)) packet.packet.length
  | .pduReceived (some packet) => At (.dot15d4 .pdu) fun (p q : PduReceived) =>
    Copied p.pdu q.pdu (some (bufferOf packet.packet.bytes)) packet.packet.length
  | _ => fun _ _ => True

/-- The lengths that a builder handles; a `NULL` address is read. -/
def Dot15d4Builder.WithinCapacity : Dot15d4Builder → Prop
  | .setNodeAddress pAddr => pAddr.isSome
  | .rawPduReceived pPacket => ∀ packet, pPacket = some packet → 0 ≤ packet.packet.length ∧ packet.packet.length ≤ 255
  | .pduReceived pPacket => ∀ packet, pPacket = some packet → 0 ≤ packet.packet.length ∧ packet.packet.length ≤ 255
  | _ => True

theorem storeSend_bodySafe {channel : UInt32} {src : Buffer} {length : ℤ} :
    BodySafe (storeSend channel src length) (fun p q => Copied p.pdu q.pdu (some src) length) := by
  intro p
  by_cases h : 0 ≤ length ∧ length ≤ 255
  · obtain ⟨x,hx⟩ := p.pdu.exists_fill src h.1 h.2
    exact ⟨.success,_,by simp only [storeSend, h, and_self, if_true, hx]; rfl,
      .inr ⟨rfl,(fill_iff_copied (by decide)).mp hx⟩⟩
  · exact ⟨.error,_,if_neg h,.inl rfl⟩

theorem dot15d4Builder_safe_iff (b : Dot15d4Builder) : Safe b.run b.Stored ↔ b.WithinCapacity := by
  cases b
  case setNodeAddress pAddr =>
    cases pAddr with
    | some => exact iff_of_true (safe_of_refuse rfl fun _ => rfl) rfl
    | none =>
      refine iff_of_false (fun hsafe => ?_) nofun
      obtain ⟨result,after,hrun,-⟩ := hsafe (some default)
      obtain ⟨p,hp,-⟩ := FullMessage.build_eq_some_iff.mp hrun
      simp [bind] at hp
  case send channel pPacket length =>
    refine iff_of_true ?_ trivial
    cases pPacket with
    | none => exact safe_of_refuse rfl fun _ => rfl
    | some => exact safe_of_build rfl (fun _ => rfl) storeSend_bodySafe
  case sendRaw channel pPacket length fcs =>
    refine iff_of_true ?_ trivial
    cases pPacket with
    | none => exact safe_of_refuse rfl fun _ => rfl
    | some => exact safe_of_build rfl (fun _ => rfl) storeSend_bodySafe
  case rawPduReceived pPacket =>
    cases pPacket with
    | none => exact iff_of_true (safe_of_refuse rfl fun _ => rfl) nofun
    | some packet =>
      refine Iff.trans (safe_build_iff ?_ fun _ => rfl) ?_
      · rfl
      exact (bodySafe_fill_iff (by decide) (by exact fun _ _ => rfl)).trans (by simp [Dot15d4Builder.WithinCapacity])
  case pduReceived pPacket =>
    cases pPacket with
    | none => exact iff_of_true (safe_of_refuse rfl fun _ => rfl) nofun
    | some packet =>
      refine Iff.trans (safe_build_iff ?_ fun _ => rfl) ?_
      · rfl
      exact (bodySafe_fill_iff (by decide) (by exact fun _ _ => rfl)).trans (by simp [Dot15d4Builder.WithinCapacity])
  all_goals exact iff_of_true (dot15d4Builder_plain _ rfl).safe trivial

end Dot15d4

namespace DomainBuilder

/-- What a call must store when it succeeds. -/
def Stored : DomainBuilder → FullMessage → FullMessage → Prop
  | .ble b => b.Stored
  | .phy b => b.Stored
  | .esb b => b.Stored
  | .unifying b => b.Stored
  | .dot15d4 b => b.Stored

/-- The lengths that a builder handles. -/
def WithinCapacity : DomainBuilder → Prop
  | .ble b => b.WithinCapacity
  | .phy b => b.WithinCapacity
  | .esb b => b.WithinCapacity
  | .unifying b => b.WithinCapacity
  | .dot15d4 b => b.WithinCapacity

/-- The same call with other arrays. Each agrees with the one it stands for up to the cut of what is copied. -/
def Varies (cut : ℤ → ℤ) : DomainBuilder → DomainBuilder → Prop
  | .ble b, .ble b' => b.Varies cut b'
  | .phy b, .phy b' => b.Varies cut b'
  | .esb b, .esb b' => b.Varies cut b'
  | .unifying b, .unifying b' => b.Varies cut b'
  | .dot15d4 b, .dot15d4 b' => b.Varies cut b'
  | _, _ => False

/-- The member without the arrays that the builder copies to. -/
def hideArrays : (b : DomainBuilder) → b.kind.Struct → b.kind.Struct
  | .ble b => b.hideArrays
  | .phy b => b.hideArrays
  | .esb b => b.hideArrays
  | .unifying b => b.hideArrays
  | .dot15d4 b => b.hideArrays

/-- A call fails, or stores what it is given within the capacity. It depends on no more of its arrays than it copies,
and nothing but the arrays of the member depends on them. -/
structure KeepsBounds (b : DomainBuilder) : Prop where
  safe : Safe b.run b.Stored
  reads : ∀ b', b.Varies id b' → b'.run = b.run
  besides : ∀ b', b.Varies (fun _ => 0) b' → ∀ message,
    (b'.run message).besides b.hideArrays = (b.run message).besides b.hideArrays

theorem safe_iff (b : DomainBuilder) : Safe b.run b.Stored ↔ b.WithinCapacity := by
  cases b with
  | ble b => exact Ble.bleBuilder_safe_iff b
  | phy b => exact Phy.phyBuilder_safe_iff b
  | esb b => exact Esb.esbBuilder_safe_iff b
  | unifying b => exact Unifying.unifyingBuilder_safe_iff b
  | dot15d4 b => exact Dot15d4.dot15d4Builder_safe_iff b

theorem run_eq_of_varies {b b' : DomainBuilder} (h : b.Varies id b') : b'.run = b.run := by
  cases b with
  | ble b =>
    cases b' with
    | ble b' => exact Ble.bleBuilder_reads (b := b) h
    | _ => exact h.elim
  | phy b =>
    cases b' with
    | phy b' => exact Phy.phyBuilder_reads (b := b) h
    | _ => exact h.elim
  | esb b =>
    cases b' with
    | esb b' => exact Esb.esbBuilder_reads (b := b) h
    | _ => exact h.elim
  | unifying b =>
    cases b' with
    | unifying b' => exact Unifying.unifyingBuilder_reads (b := b) h
    | _ => exact h.elim
  | dot15d4 b =>
    cases b' with
    | dot15d4 b' => exact Dot15d4.dot15d4Builder_reads (b := b) h
    | _ => exact h.elim

theorem besides_eq_of_varies {cut : ℤ → ℤ} {b b' : DomainBuilder} (hfits : b.WithinCapacity) (h : b.Varies cut b')
    (message : Option FullMessage) :
    (b'.run message).besides b.hideArrays = (b.run message).besides b.hideArrays := by
  cases b with
  | ble b =>
    cases b' with
    | ble b' => exact Ble.bleBuilder_besides hfits h message
    | _ => exact h.elim
  | phy b =>
    cases b' with
    | phy b' => exact Phy.phyBuilder_besides h message
    | _ => exact h.elim
  | esb b =>
    cases b' with
    | esb b' => exact Esb.esbBuilder_besides h message
    | _ => exact h.elim
  | unifying b =>
    cases b' with
    | unifying b' => exact Unifying.unifyingBuilder_besides h message
    | _ => exact h.elim
  | dot15d4 b =>
    cases b' with
    | dot15d4 b' => exact Dot15d4.dot15d4Builder_besides h message
    | _ => exact h.elim

/-- Exactly these calls do. -/
theorem keepsBounds_iff_withinCapacity (b : DomainBuilder) : b.KeepsBounds ↔ b.WithinCapacity := by
  constructor
  · intro h
    exact b.safe_iff.mp h.safe
  · intro hfits
    exact ⟨b.safe_iff.mpr hfits,fun _ h => run_eq_of_varies h,fun _ h => besides_eq_of_varies hfits h⟩

/-- A synchronisation word of nine bytes is copied behind the eight bytes of its field. -/
theorem long_syncword_overflows :
    ¬(DomainBuilder.phy (.packetReceived 0 0 0 0 (some fun _ => 0) 1 (some fun _ => 0) 9 0 0 ⟨0⟩ ⟨0⟩)).KeepsBounds := by
  intro h
  have hfits := (safe_iff _).mp h.safe
  exact absurd (hfits rfl).2.2.1 (by decide)

end DomainBuilder
end WhadLib
