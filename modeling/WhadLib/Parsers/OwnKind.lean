import WhadLib.Ble.Parsers
import WhadLib.Dot15d4.Parsers
import WhadLib.Phy.Parsers
import WhadLib.Unifying.Parsers

/-! Which messages the parsers accept. A parser is for the messages of one kind. On a message of another
kind it reads whatever lies there, as few of the parsers look at the tags. -/
namespace WhadLib
open Library

/-- A parser stays within its output, and refuses a message that is not its own. -/
def OwnKindOnly (result : Option WhadResult) (own : Prop) : Prop :=
  ∃ r, result = some r ∧ (¬own → r = .error)

section
variable {S : Type} {m : FullMessage} {out : Option S} {own : Prop} {body : FullMessage → S → Option (WhadResult × S)}

theorem ownKindOnly_success_iff : OwnKindOnly (some .success) own ↔ own := by
  constructor
  · rintro ⟨r,hr,h⟩
    obtain rfl := Option.some.inj hr
    by_contra hown
    exact nomatch h hown
  · intro hown
    exact ⟨_,rfl,fun h => absurd hown h⟩

theorem ownKindOnly_error : OwnKindOnly (some .error) own := ⟨_,rfl,fun _ => rfl⟩

theorem not_ownKindOnly_none : ¬OwnKindOnly none own := by
  rintro ⟨_,h,-⟩
  exact nomatch h

/-- An output that is missing is refused; else the body decides. -/
theorem ownKindOnly_parse_iff {result : Option WhadResult} (h : ∀ s, (body m s).map Prod.fst = result) :
    OwnKindOnly ((parse (some m) out body).map Prod.fst) own ↔ OwnKindOnly result own ∨ out.isSome = false := by
  cases out with
  | none => exact iff_of_true ownKindOnly_error (.inr rfl)
  | some s =>
    have hresult : (parse (some m) (some s) body).map Prod.fst = result := by
      rw [← h s]
      simp only [parse, Option.map_map]
      rfl
    rw [hresult]
    simp

/-- A body that does not fail accepts whatever it is given. -/
theorem ownKindOnly_accepting_iff (h : ∀ s, (body m s).map Prod.fst = some .success) :
    OwnKindOnly ((parse (some m) out body).map Prod.fst) own ↔ own ∨ out.isSome = false ∨ False := by
  rw [ownKindOnly_parse_iff h, ownKindOnly_success_iff, or_false]

theorem ownKindOnly_fetch_iff {read : FullMessage → S → S} :
    OwnKindOnly ((fetch (some m) out read).map Prod.fst) own ↔ own ∨ out.isSome = false ∨ False :=
  ownKindOnly_accepting_iff fun _ => rfl

/-- A body with a check on a size refuses what fails it. -/
theorem ownKindOnly_checking_iff {refused : Prop} [Decidable refused]
    (h : ∀ s, (body m s).map Prod.fst = some (if refused then .error else .success)) :
    OwnKindOnly ((parse (some m) out body).map Prod.fst) own ↔ own ∨ out.isSome = false ∨ refused := by
  rw [ownKindOnly_parse_iff h]
  by_cases hrefused : refused
  · rw [if_pos hrefused]
    exact iff_of_true (.inl ownKindOnly_error) (.inr (.inr hrefused))
  · rw [if_neg hrefused, ownKindOnly_success_iff]
    simp [hrefused]

/-- A body without a check copies what fits in the messages of its own kind. -/
theorem ownKindOnly_copying_iff {fits : Prop} [Decidable fits]
    (h : ∀ s, (body m s).map Prod.fst = if fits then some .success else none) (hown : own → fits) :
    OwnKindOnly ((parse (some m) out body).map Prod.fst) own ↔ own ∨ out.isSome = false ∨ False := by
  rw [ownKindOnly_parse_iff h, or_false]
  by_cases hfits : fits
  · rw [if_pos hfits, ownKindOnly_success_iff]
  · rw [if_neg hfits]
    have hnot : ¬own := fun h => hfits (hown h)
    simp [hnot, not_ownKindOnly_none]

/-- A body behind a check on a tag. -/
theorem tagged_result {tagged refused : Prop} [Decidable tagged] [Decidable refused] {x : Option (WhadResult × S)}
    (s : S) (h : x.map Prod.fst = some (if refused then .error else .success)) :
    (if tagged then x else failed s).map Prod.fst = some (if ¬tagged ∨ refused then .error else .success) := by
  by_cases htag : tagged
  · rw [if_pos htag, h]
    simp [htag]
  · rw [if_neg htag, if_pos (.inl htag)]
    rfl

/-- `memcpy` from an array of the message, as far as its result goes. -/
theorem memcpy_size_isSome {n size : ℕ} (dst : Vector UInt8 n) (src : Buffer) :
    (∃ bytes, memcpy dst src size = some bytes) ↔ size ≤ n := by
  constructor
  · rintro ⟨bytes,h⟩
    have := (memcpy_eq_some_iff.mp h).1
    omega
  · intro h
    exact ⟨_,memcpy_of_le (by omega) (by omega)⟩

/-- A body that ends after one step accepts if the step succeeds. -/
theorem bind_done_fst {α β : Type} (x : Option α) (f : α → β) :
    (x.bind fun a => done (f a)).map Prod.fst = x.map fun _ => WhadResult.success := by
  cases x <;> rfl

theorem map_of_isSome {α : Type} {x : Option α} {r : WhadResult} (h : ∃ a, x = some a) : x.map (fun _ => r) = some r := by
  obtain ⟨a,rfl⟩ := h
  rfl

theorem memcpy_map {n size : ℕ} (dst : Vector UInt8 n) (src : Buffer) (r : WhadResult) :
    (memcpy dst src size).map (fun _ => r) = if size ≤ n then some r else none := by
  split
  · rename_i h
    exact map_of_isSome ((memcpy_size_isSome dst src).mpr h)
  · rename_i h
    rw [Option.map_eq_none_iff, memcpy_eq_none_iff]
    omega

end

namespace Ble
section
variable {m : FullMessage}

/-- The messages that a parser refuses, whatever their kind. -/
def BleParser.Rejects : BleParser → FullMessage → Prop
  | .setAdvData, _ => True
  | .reactiveJam _, m => 20 < (ReactiveJamCmd.pattern (m.msg (.ble .reactiveJam))).size
  | _, _ => False

theorem loadAdvData_isSome (data : Vector UInt8 31) (x : BytesArray 31) : ∃ loaded, loadAdvData data x = some loaded := by
  by_cases h : 0 < UInt8.ofNat x.size ∧ UInt8.ofNat x.size < 31
  · have hlt : (UInt8.ofNat x.size).toNat < 31 := UInt8.lt_iff_toNat_lt.mp h.2
    obtain ⟨bytes,hbytes⟩ := (memcpy_size_isSome data (bufferOf x.bytes)).mpr hlt.le
    exact ⟨_,by simp only [loadAdvData, if_pos h, hbytes]; rfl⟩
  · exact ⟨_,if_neg h⟩

theorem loadAdvMode_result (p : AdvModeCmd) (s : BleAdvModeParams) : (loadAdvMode p s).map Prod.fst = some .success := by
  obtain ⟨adv,hadv⟩ := loadAdvData_isSome s.advData p.scanData
  obtain ⟨scanrsp,hscanrsp⟩ := loadAdvData_isSome s.scanrspData p.scanrspData
  simp [loadAdvMode, hadv, hscanrsp, done]

theorem loadReactiveJam_result (p : ReactiveJamCmd) (s : BleReactiveJamParams) :
    (loadReactiveJam p s).map Prod.fst = some (if 20 < p.pattern.size then .error else .success) := by
  simp only [loadReactiveJam]
  by_cases hmax : 20 < p.pattern.size
  · rw [if_neg (by omega), if_pos (by omega), if_pos hmax]
    rfl
  · obtain ⟨bytes,hbytes⟩ := (memcpy_size_isSome s.pattern (bufferOf p.pattern.bytes)).mpr (not_lt.mp hmax)
    by_cases hpos : 0 < p.pattern.size
    · rw [if_pos (by omega), if_neg hmax, hbytes]
      rfl
    · rw [if_neg (by omega), if_neg (by omega), if_neg hmax]
      rfl

theorem loadSequence_result (p : PrepareSequenceCmd) (connEvt : UInt32) :
    (loadSequence p connEvt).map Prod.fst = if p.sequence.count ≤ 25 then some .success else none := by
  unfold loadSequence loadPackets
  split <;> rfl

theorem bleParser_ownKindOnly_iff (p : BleParser) (hm : Decoded m) :
    OwnKindOnly (p.result m) (m.Holds p.kind) ↔ m.Holds p.kind ∨ p.given = false ∨ p.Rejects m := by
  cases p
  case setAdvData => exact iff_of_true ownKindOnly_error (.inr (.inr trivial))
  case setBdaddress pAddrType pBdaddr =>
    refine ownKindOnly_fetch_iff.trans ?_
    cases pAddrType <;> cases pBdaddr <;> rfl
  case advMode => exact ownKindOnly_accepting_iff fun s => loadAdvMode_result _ s
  case peripheralMode => exact ownKindOnly_accepting_iff fun s => loadAdvMode_result _ s
  case reactiveJam =>
    change OwnKindOnly _ _ ↔ _ ∨ _ ∨ 20 < (ReactiveJamCmd.pattern (m.msg (.ble .reactiveJam))).size
    exact ownKindOnly_checking_iff fun s => loadReactiveJam_result _ s
  case prepareSequenceManual => exact ownKindOnly_copying_iff (fun _ => loadSequence_result _ _) (sequence_fits hm)
  case prepareSequenceConnEvt => exact ownKindOnly_copying_iff (fun _ => loadSequence_result _ _) (sequence_fits hm)
  all_goals exact ownKindOnly_fetch_iff

end
end Ble

namespace Phy
section
variable {m : FullMessage}

theorem syncWord_fits (hm : Decoded m) (hown : m.Holds (.phy .syncWord)) :
    (SetSyncWordCmd.syncWord (m.msg (.phy .syncWord))).size ≤ 10 :=
  (accepted_bytes_iff _).mp (hm.accepted _ hown).1

theorem loadPacket_isSome (x : BytesArray 255) (s : PhyPacket) : ∃ packet, loadPacket x s = some packet := by
  unfold loadPacket
  by_cases h : (x.size : ℤ) < 256
  · obtain ⟨bytes,hbytes⟩ := (memcpy_size_isSome s.payload (bufferOf x.bytes)).mpr (by omega : x.size ≤ 256)
    exact ⟨_,by simp only [if_pos h, hbytes]; rfl⟩
  · exact ⟨_,if_neg h⟩

/-- No parser refuses a message. -/
theorem phyParser_ownKindOnly_iff (p : PhyParser) (hm : Decoded m) :
    OwnKindOnly (p.result m) (m.Holds p.kind) ↔ m.Holds p.kind ∨ p.given = false ∨ False := by
  cases p
  case setSyncWord =>
    refine ownKindOnly_copying_iff (fun s => ?_) (syncWord_fits hm)
    exact (bind_done_fst _ _).trans (memcpy_map _ _ _)
  case send =>
    refine ownKindOnly_accepting_iff fun s => ?_
    exact (bind_done_fst _ _).trans (map_of_isSome (loadPacket_isSome _ _))
  case schedPacket =>
    refine ownKindOnly_accepting_iff fun s => ?_
    exact (bind_done_fst _ _).trans (map_of_isSome (loadPacket_isSome _ _))
  case packetReceived =>
    refine ownKindOnly_accepting_iff fun s => ?_
    dsimp only
    split
    · rename_i h
      exact (bind_done_fst _ _).trans (map_of_isSome ((memcpy_size_isSome _ _).mpr (by omega)))
    · rfl
  all_goals exact ownKindOnly_fetch_iff

end
end Phy

namespace Esb
section
variable {m : FullMessage}

theorem loadNodeAddress_result (p : SetNodeAddressCmd) (s : EsbAddress) :
    (loadNodeAddress p s).map Prod.fst = some (if 5 < p.address.size then .error else .success) := by
  unfold loadNodeAddress
  by_cases h : p.address.size ≤ 5
  · rw [if_pos h, if_neg (by omega)]
    exact (bind_done_fst _ _).trans (map_of_isSome ((memcpy_size_isSome _ _).mpr h))
  · rw [if_neg h, if_pos (by omega)]
    rfl

theorem loadSniff_result (p : SniffCmd) (s : EsbSniffParams) :
    (loadSniff p s).map Prod.fst = some (if 5 < p.address.size then .error else .success) := by
  have hmax : esbAddrMaxSize < (p.address.size : ℤ) ↔ 5 < p.address.size := by
    unfold esbAddrMaxSize
    omega
  unfold loadSniff
  by_cases h : 5 < p.address.size
  · rw [if_pos (hmax.mpr h), if_pos h]
    rfl
  · rw [if_neg (mt hmax.mp h), if_neg h]
    exact (bind_done_fst _ _).trans (map_of_isSome ((memcpy_size_isSome _ _).mpr (not_lt.mp h)))

theorem loadSend_result (p : SendCmd) (s : EsbSendParams) :
    (loadSend p s).map Prod.fst = if p.pdu.size ≤ 255 then some .success else none := by
  have hlength : ¬255 < (UInt8.ofNat p.pdu.size).toNat := Nat.not_lt.mpr (Nat.le_of_lt_succ (UInt8.toNat_lt _))
  unfold loadSend
  rw [if_neg hlength]
  exact (bind_done_fst _ _).trans (memcpy_map _ _ _)

theorem loadRecvdPacket_result (p : PduReceived) (s : EsbRecvdPacket) :
    (loadRecvdPacket p s).map Prod.fst =
      some (if p.address.has = true ∧ 5 < p.address.value.size then .error else .success) := by
  have hlength : (UInt8.ofNat p.pdu.size).toNat ≤ 255 := Nat.le_of_lt_succ (UInt8.toNat_lt _)
  obtain ⟨bytes,hbytes⟩ := (memcpy_size_isSome s.packet.bytes (bufferOf p.pdu.bytes)).mpr hlength
  simp only [loadRecvdPacket, hbytes]
  by_cases hhas : p.address.has = true
  · by_cases h : 5 < p.address.value.size
    · simp [hhas, h, failed]
    · obtain ⟨address,haddress⟩ :=
        (memcpy_size_isSome s.address.value.address (bufferOf p.address.value.bytes)).mpr (not_lt.mp h)
      simp [hhas, h, haddress, done]
  · simp [hhas, done]

theorem accepted_pdu {p : SendCmd} (h : (SendCmd.wire p).Accepted) : p.pdu.size ≤ 255 :=
  (accepted_bytes_iff _).mp h.2.2.1

/-- The tag of the member, and the sizes of addresses. -/
def EsbParser.Rejects : EsbParser → FullMessage → Prop
  | .setNodeAddress _, m =>
    m.whichDomainMsg ≠ EsbKind.tag .setNodeAddr ∨ 5 < (SetNodeAddressCmd.address (m.msg (.esb .setNodeAddr))).size
  | .sniff _, m => m.whichDomainMsg ≠ EsbKind.tag .sniff ∨ 5 < (SniffCmd.address (m.msg (.esb .sniff))).size
  | .rawPduReceived _, m =>
    let address := PduReceived.address (m.msg (.esb .rawPdu))
    address.has = true ∧ 5 < address.value.size
  | .pduReceived _, m =>
    let address := PduReceived.address (m.msg (.esb .pdu))
    address.has = true ∧ 5 < address.value.size
  | _, _ => False

/-- Only the parsers of addresses look at the tag, and not at that of the domain. -/
theorem esbParser_ownKindOnly_iff (p : EsbParser) (hm : Decoded m) :
    OwnKindOnly (p.result m) (m.Holds p.kind) ↔ m.Holds p.kind ∨ p.given = false ∨ p.Rejects m := by
  cases p
  case setNodeAddress pAddr =>
    change OwnKindOnly _ _ ↔ _ ∨ _ ∨
      (m.whichDomainMsg ≠ EsbKind.tag .setNodeAddr ∨ 5 < (SetNodeAddressCmd.address (m.msg (.esb .setNodeAddr))).size)
    exact ownKindOnly_checking_iff fun s => tagged_result s (loadNodeAddress_result _ s)
  case sniff pParams =>
    change OwnKindOnly _ _ ↔ _ ∨ _ ∨
      (m.whichDomainMsg ≠ EsbKind.tag .sniff ∨ 5 < (SniffCmd.address (m.msg (.esb .sniff))).size)
    exact ownKindOnly_checking_iff fun s => tagged_result s (loadSniff_result _ s)
  case send pParams =>
    exact ownKindOnly_copying_iff (fun s => loadSend_result _ s) fun hown => accepted_pdu (hm.accepted _ hown)
  case sendRaw pParams =>
    exact ownKindOnly_copying_iff (fun s => loadSend_result _ s) fun hown => accepted_pdu (hm.accepted _ hown)
  case rawPduReceived pPdu =>
    change OwnKindOnly _ _ ↔ _ ∨ _ ∨ ((PduReceived.address (m.msg (.esb .rawPdu))).has = true ∧
      5 < (PduReceived.address (m.msg (.esb .rawPdu))).value.size)
    exact ownKindOnly_checking_iff fun s => loadRecvdPacket_result _ s
  case pduReceived pPdu =>
    change OwnKindOnly _ _ ↔ _ ∨ _ ∨ ((PduReceived.address (m.msg (.esb .pdu))).has = true ∧
      5 < (PduReceived.address (m.msg (.esb .pdu))).value.size)
    exact ownKindOnly_checking_iff fun s => loadRecvdPacket_result _ s
  all_goals exact ownKindOnly_fetch_iff

end
end Esb

namespace Unifying
section
variable {m : FullMessage}

/-- The sizes of addresses alone. -/
def UnifyingParser.Rejects : UnifyingParser → FullMessage → Prop
  | .setNodeAddress _, m => 5 < (Esb.SetNodeAddressCmd.address (m.msg (.unifying .setNodeAddr))).size
  | .sniff _, m => 5 < (Esb.SniffCmd.address (m.msg (.unifying .sniff))).size
  | .rawPduReceived _, m =>
    let address := Esb.PduReceived.address (m.msg (.unifying .rawPdu))
    address.has = true ∧ 5 < address.value.size
  | .pduReceived _, m =>
    let address := Esb.PduReceived.address (m.msg (.unifying .pdu))
    address.has = true ∧ 5 < address.value.size
  | _, _ => False

theorem unifyingParser_ownKindOnly_iff (p : UnifyingParser) (hm : Decoded m) :
    OwnKindOnly (p.result m) (m.Holds p.kind) ↔ m.Holds p.kind ∨ p.given = false ∨ p.Rejects m := by
  cases p
  case setNodeAddress pAddr =>
    change OwnKindOnly _ _ ↔ _ ∨ _ ∨ 5 < (Esb.SetNodeAddressCmd.address (m.msg (.unifying .setNodeAddr))).size
    exact ownKindOnly_checking_iff fun s => Esb.loadNodeAddress_result _ s
  case sniff pParams =>
    change OwnKindOnly _ _ ↔ _ ∨ _ ∨ 5 < (Esb.SniffCmd.address (m.msg (.unifying .sniff))).size
    exact ownKindOnly_checking_iff fun s => Esb.loadSniff_result _ s
  case send pParams =>
    exact ownKindOnly_copying_iff (fun s => Esb.loadSend_result _ s) fun hown => Esb.accepted_pdu (hm.accepted _ hown)
  case sendRaw pParams =>
    exact ownKindOnly_copying_iff (fun s => Esb.loadSend_result _ s) fun hown => Esb.accepted_pdu (hm.accepted _ hown)
  case rawPduReceived pPdu =>
    change OwnKindOnly _ _ ↔ _ ∨ _ ∨ ((Esb.PduReceived.address (m.msg (.unifying .rawPdu))).has = true ∧
      5 < (Esb.PduReceived.address (m.msg (.unifying .rawPdu))).value.size)
    exact ownKindOnly_checking_iff fun s => Esb.loadRecvdPacket_result _ s
  case pduReceived pPdu =>
    change OwnKindOnly _ _ ↔ _ ∨ _ ∨ ((Esb.PduReceived.address (m.msg (.unifying .pdu))).has = true ∧
      5 < (Esb.PduReceived.address (m.msg (.unifying .pdu))).value.size)
    exact ownKindOnly_checking_iff fun s => Esb.loadRecvdPacket_result _ s
  all_goals exact ownKindOnly_fetch_iff

end
end Unifying

namespace Dot15d4
section
variable {m : FullMessage}

theorem loadSend_result (channel : UInt32) (x : BytesArray 255) (fcs : UInt32) (s : Dot15d4SendParams) :
    (loadSend channel x fcs s).map Prod.fst = some (if 255 < x.size then .error else .success) := by
  unfold loadSend
  by_cases h : 255 < x.size
  · rw [if_pos h, if_pos h]
    rfl
  · rw [if_neg h, if_neg h]
    exact (bind_done_fst _ _).trans (map_of_isSome ((memcpy_size_isSome _ _).mpr (not_lt.mp h)))

theorem loadRecvdPacket_result (p : RawPduReceived) (s : Dot15d4RecvdPacket) :
    (loadRecvdPacket p s).map Prod.fst = if p.pdu.size ≤ 255 then some .success else none :=
  (bind_done_fst _ _).trans (memcpy_map _ _ _)

theorem rawPdu_fits (hm : Decoded m) (hown : m.Holds (.dot15d4 .rawPdu)) :
    (RawPduReceived.pdu (m.msg (.dot15d4 .rawPdu))).size ≤ 255 :=
  (accepted_bytes_iff _).mp (hm.accepted _ hown).2.2.2.2.1

theorem pdu_fits (hm : Decoded m) (hown : m.Holds (.dot15d4 .pdu)) :
    (RawPduReceived.pdu (m.msg (.dot15d4 .rawPdu))).size ≤ 255 := by
  rw [(hm.dot15d4).pdu]
  exact (accepted_bytes_iff _).mp (hm.accepted _ hown).2.2.2.2.1

/-- The sizes of the packets to send. -/
def Dot15d4Parser.Rejects : Dot15d4Parser → FullMessage → Prop
  | .send _, m => 255 < (SendCmd.pdu (m.msg (.dot15d4 .send))).size
  | .sendRaw _, m => 255 < (SendRawCmd.pdu (m.msg (.dot15d4 .sendRaw))).size
  | _, _ => False

theorem dot15d4Parser_ownKindOnly_iff (p : Dot15d4Parser) (hm : Decoded m) :
    OwnKindOnly (p.result m) (m.Holds p.kind) ↔ m.Holds p.kind ∨ p.given = false ∨ p.Rejects m := by
  cases p
  case send pParams =>
    change OwnKindOnly _ _ ↔ _ ∨ _ ∨ 255 < (SendCmd.pdu (m.msg (.dot15d4 .send))).size
    exact ownKindOnly_checking_iff fun s => loadSend_result _ _ _ s
  case sendRaw pParams =>
    change OwnKindOnly _ _ ↔ _ ∨ _ ∨ 255 < (SendRawCmd.pdu (m.msg (.dot15d4 .sendRaw))).size
    exact ownKindOnly_checking_iff fun s => loadSend_result _ _ _ s
  case rawPduReceived pPacket =>
    exact ownKindOnly_copying_iff (fun s => loadRecvdPacket_result _ _) (rawPdu_fits hm)
  case pduReceived pPacket =>
    exact ownKindOnly_copying_iff (fun s => loadRecvdPacket_result _ s) (pdu_fits hm)
  all_goals exact ownKindOnly_fetch_iff

end
end Dot15d4

/-- The calls of the parsers of all five domains. -/
inductive DomainParser
  | ble (p : Ble.BleParser)
  | phy (p : Phy.PhyParser)
  | esb (p : Esb.EsbParser)
  | unifying (p : Unifying.UnifyingParser)
  | dot15d4 (p : Dot15d4.Dot15d4Parser)

namespace DomainParser

def result : DomainParser → FullMessage → Option WhadResult
  | .ble p => p.result
  | .phy p => p.result
  | .esb p => p.result
  | .unifying p => p.result
  | .dot15d4 p => p.result

def kind : DomainParser → Kind
  | .ble p => p.kind
  | .phy p => p.kind
  | .esb p => p.kind
  | .unifying p => p.kind
  | .dot15d4 p => p.kind

def given : DomainParser → Bool
  | .ble p => p.given
  | .phy p => p.given
  | .esb p => p.given
  | .unifying p => p.given
  | .dot15d4 p => p.given

/-- The messages that a parser refuses, for what it reads there. -/
def Rejects : DomainParser → FullMessage → Prop
  | .ble p => p.Rejects
  | .phy _ => fun _ => False
  | .esb p => p.Rejects
  | .unifying p => p.Rejects
  | .dot15d4 p => p.Rejects

/-- A parser keeps to the messages of its kind where it is not asked to read another, has no output to
write, or finds a size too large in what it reads. -/
theorem ownKindOnly_iff (p : DomainParser) (m : FullMessage) (hm : Decoded m) :
    OwnKindOnly (p.result m) (m.Holds p.kind) ↔ m.Holds p.kind ∨ p.given = false ∨ p.Rejects m := by
  cases p with
  | ble p => exact Ble.bleParser_ownKindOnly_iff p hm
  | phy p => exact Phy.phyParser_ownKindOnly_iff p hm
  | esb p => exact Esb.esbParser_ownKindOnly_iff p hm
  | unifying p => exact Unifying.unifyingParser_ownKindOnly_iff p hm
  | dot15d4 p => exact Dot15d4.dot15d4Parser_ownKindOnly_iff p hm

/-- A command with a synchronisation word of four bytes, decoded into a cleared message. -/
def syncWordMessage : FullMessage :=
  FullMessage.put default (.phy .syncWord) (⟨⟨4,#v[0x8E,0x89,0xBE,0xD6,0,0,0,0,0,0]⟩⟩ : Phy.SetSyncWordCmd)

theorem decoded_syncWordMessage : Decoded syncWordMessage where
  accepted := by
    intro k hk
    obtain rfl : Kind.phy .syncWord = k :=
      Option.some.inj ((FullMessage.put_holds default (.phy .syncWord) _).kind.symm.trans hk.kind)
    exact ⟨(accepted_bytes_iff _).mpr (by decide),trivial⟩
  esb := rfl
  unifying := rfl
  dot15d4 := ⟨rfl,rfl,rfl,rfl,rfl⟩

theorem ownKindOnly_iff_syncWord :
    OwnKindOnly ((DomainParser.phy (.setSyncWord (some default))).result syncWordMessage)
        (syncWordMessage.Holds (.phy .syncWord)) ↔
      syncWordMessage.Holds (.phy .syncWord) ∨ (DomainParser.phy (.setSyncWord (some default))).given = false ∨
        (DomainParser.phy (.setSyncWord (some default))).Rejects syncWordMessage :=
  ownKindOnly_iff (.phy (.setSyncWord (some default))) syncWordMessage decoded_syncWordMessage

/-- A command to stop, decoded into a cleared message. -/
def stopMessage : FullMessage := FullMessage.put default (.ble .stop) default

theorem decoded_stopMessage : Decoded stopMessage where
  accepted := by
    intro k hk
    obtain rfl : Kind.ble .stop = k := by
      have hstop := (FullMessage.put_holds default (.ble .stop) default).kind
      exact Option.some.inj (hstop.symm.trans hk.kind)
    trivial
  esb := rfl
  unifying := rfl
  dot15d4 := ⟨rfl,rfl,rfl,rfl,rfl⟩

/-- The parser of a command to jam a channel takes the command to stop for its own. -/
theorem stop_read_as_channel : Decoded stopMessage ∧
    ¬OwnKindOnly ((DomainParser.ble (.jamAdvChannel (some 37))).result stopMessage)
      (stopMessage.Holds (DomainParser.ble (.jamAdvChannel (some 37))).kind) := by
  refine ⟨decoded_stopMessage,?_⟩
  rintro ⟨r,hr,h⟩
  obtain rfl : WhadResult.success = r := Option.some.inj hr
  exact nomatch h (by decide)

end DomainParser
end WhadLib
