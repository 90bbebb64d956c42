import WhadLib.Agreement
import WhadLib.Unifying.Parsers

/-! The parsers of the ESB and the Unifying domain look at the visible fields of their member only. Two of ESB
look at the tag of the member, too. -/
namespace WhadLib.Esb
open Library

theorem loadNodeAddress_congr {p q : SetNodeAddressCmd} (h : p.wire = q.wire) (hacc : p.wire.Accepted) (s : EsbAddress) :
    loadNodeAddress p s = loadNodeAddress q s := by
  simp [SetNodeAddressCmd.wire] at h
  obtain ⟨hsize,htake⟩ := value_bytes_eq h ((accepted_bytes_iff _).mp hacc.1)
  simp only [loadNodeAddress, hsize, memcpy_congr htake]

theorem loadSniff_congr {p q : SniffCmd} (h : p.wire = q.wire) (hacc : p.wire.Accepted) (s : EsbSniffParams) :
    loadSniff p s = loadSniff q s := by
  simp [SniffCmd.wire] at h
  obtain ⟨hchannel,haddress,hacks⟩ := h
  obtain ⟨hsize,htake⟩ := value_bytes_eq haddress ((accepted_bytes_iff _).mp hacc.2.1)
  simp only [loadSniff, hchannel, hacks, hsize, memcpy_congr htake]

theorem loadSend_congr {p q : SendCmd} (h : p.wire = q.wire) (hacc : p.wire.Accepted) (s : EsbSendParams) :
    loadSend p s = loadSend q s := by
  simp [SendCmd.wire] at h
  obtain ⟨hchannel,hcount,hpdu⟩ := h
  obtain ⟨hsize,htake⟩ := value_bytes_eq hpdu ((accepted_bytes_iff _).mp hacc.2.2.1)
  simp only [loadSend, hchannel, hcount, hsize, memcpy_congr htake]

/-- The address is copied only when it is there. -/
theorem loadRecvdPacket_congr {p q : PduReceived} (h : p.wire = q.wire) (hacc : p.wire.Accepted) (s : EsbRecvdPacket) :
    loadRecvdPacket p s = loadRecvdPacket q s := by
  simp [PduReceived.wire] at h
  obtain ⟨hchannel,hrssi,htimestamp,hcrc,haddress,hpdu⟩ := h
  obtain ⟨hsize,htake⟩ := value_bytes_eq hpdu ((accepted_bytes_iff _).mp hacc.2.2.2.2.2.1)
  have hlen : (UInt8.ofNat q.pdu.size).toNat ≤ q.pdu.size := by
    rw [UInt8.toNat_ofNat']
    exact Nat.mod_le _ _
  have hprefix : (bufferOf p.pdu.bytes).take (UInt8.ofNat q.pdu.size).toNat =
      (bufferOf q.pdu.bytes).take (UInt8.ofNat q.pdu.size).toNat :=
    Cpp.take_eq_iff.mpr fun i hi => Cpp.take_eq_iff.mp htake i (by omega)
  unfold loadRecvdPacket
  simp only [hchannel, hsize, memcpy_congr hprefix, loadOptional_congr value_int32_inj hrssi,
    loadOptional_congr value_uint64_inj htimestamp, loadOptional_congr value_bool_inj hcrc, value_optional_has haddress]
  by_cases hhas : q.address.has = true
  · have hp := (value_optional_has haddress).trans hhas
    have hvalue := value_optional_value haddress hp
    have hfits : p.address.value.size ≤ 5 := by
      have haddr := hacc.2.2.2.2.1
      cases haddress' : p.address with | mk has address =>
      obtain rfl : has = true := by simpa [haddress'] using hp
      rw [haddress'] at haddr
      exact (accepted_bytes_iff _).mp haddr
    obtain ⟨hsize',htake'⟩ := value_bytes_eq hvalue hfits
    simp only [hsize', memcpy_congr htake']
  · simp only [if_neg hhas]

/-- A parser says the same of two messages. -/
def EsbParser.ReadsAlike : EsbParser → FullMessage → FullMessage → Prop
  | .setNodeAddress pAddr => WhadLib.ReadsAlike (whadEsbSetNodeAddressParse · pAddr)
  | .sniff pParams => WhadLib.ReadsAlike (whadEsbSniffParse · pParams)
  | .jam pChannel => WhadLib.ReadsAlike (whadEsbJamParse · pChannel)
  | .send pParams => WhadLib.ReadsAlike (whadEsbSendParse · pParams)
  | .sendRaw pParams => WhadLib.ReadsAlike (whadEsbSendRawParse · pParams)
  | .prx pChannel => WhadLib.ReadsAlike (whadEsbPrxParse · pChannel)
  | .ptx pChannel => WhadLib.ReadsAlike (whadEsbPtxParse · pChannel)
  | .jammed pTimestamp => WhadLib.ReadsAlike (whadEsbJammedParse · pTimestamp)
  | .rawPduReceived pPdu => WhadLib.ReadsAlike (whadEsbRawPduReceivedParse · pPdu)
  | .pduReceived pPdu => WhadLib.ReadsAlike (whadEsbPduReceivedParse · pPdu)

section
variable {m m' : FullMessage}

theorem readsAlike_of_checking {S : Type} [Output S] {out : Option S} {member : ℕ}
    {body : FullMessage → S → Option (WhadResult × S)} (hmember : m.whichDomainMsg = m'.whichDomainMsg)
    (h : ∀ s, body m s = body m' s) :
    WhadLib.ReadsAlike (parse · out fun m s => if m.whichDomainMsg = member then body m s else failed s) m m' :=
  readsAlike_of_body fun s => by rw [hmember, h]

theorem esbParser_readsAlike (c : EsbParser) (hm : m.Holds c.kind) (hm' : m'.Holds c.kind)
    (h : c.kind.wire (m.msg c.kind) = c.kind.wire (m'.msg c.kind)) (hacc : (c.kind.wire (m.msg c.kind)).Accepted) :
    c.ReadsAlike m m' := by
  have hmember : m.whichDomainMsg = m'.whichDomainMsg := hm.tag.trans hm'.tag.symm
  cases c
  case setNodeAddress s => exact readsAlike_of_checking hmember (loadNodeAddress_congr h hacc)
  case sniff s => exact readsAlike_of_checking hmember (loadSniff_congr h hacc)
  case send s => exact readsAlike_of_body (loadSend_congr h hacc)
  case sendRaw s => exact readsAlike_of_body (loadSend_congr h hacc)
  case rawPduReceived s => exact readsAlike_of_body (loadRecvdPacket_congr h hacc)
  case pduReceived s => exact readsAlike_of_body (loadRecvdPacket_congr h hacc)
  all_goals
    simp [EsbParser.kind, Kind.wire, EsbKind.wire, ChannelCmd.wire, Jammed.wire] at h
    exact readsAlike_of_read fun s => by simp only [h]

end
end WhadLib.Esb

namespace WhadLib.Unifying
open Library
open Esb (loadNodeAddress_congr loadSniff_congr loadSend_congr loadRecvdPacket_congr)

/-- A parser says the same of two messages. -/
def UnifyingParser.ReadsAlike : UnifyingParser → FullMessage → FullMessage → Prop
  | .setNodeAddress pAddr => WhadLib.ReadsAlike (whadUnifyingSetNodeAddressParse · pAddr)
  | .sniff pParams => WhadLib.ReadsAlike (whadUnifyingSniffParse · pParams)
  | .jam pChannel => WhadLib.ReadsAlike (whadUnifyingJamParse · pChannel)
  | .send pParams => WhadLib.ReadsAlike (whadUnifyingSendParse · pParams)
  | .sendRaw pParams => WhadLib.ReadsAlike (whadUnifyingSendRawParse · pParams)
  | .dongleMode pChannel => WhadLib.ReadsAlike (whadUnifyingDongleModeParse · pChannel)
  | .keyboardMode pChannel => WhadLib.ReadsAlike (whadUnifyingKeyboardModeParse · pChannel)
  | .mouseMode pChannel => WhadLib.ReadsAlike (whadUnifyingMouseModeParse · pChannel)
  | .jammed pTimestamp => WhadLib.ReadsAlike (whadUnifyingJammedParse · pTimestamp)
  | .rawPduReceived pPdu => WhadLib.ReadsAlike (whadUnifyingRawPduReceivedParse · pPdu)
  | .pduReceived pPdu => WhadLib.ReadsAlike (whadUnifyingPduReceivedParse · pPdu)

section
variable {m m' : FullMessage}

theorem unifyingParser_readsAlike (c : UnifyingParser) (h : c.kind.wire (m.msg c.kind) = c.kind.wire (m'.msg c.kind))
    (hacc : (c.kind.wire (m.msg c.kind)).Accepted) : c.ReadsAlike m m' := by
  cases c
  case setNodeAddress s => exact readsAlike_of_body (loadNodeAddress_congr h hacc)
  case sniff s => exact readsAlike_of_body (loadSniff_congr h hacc)
  case send s => exact readsAlike_of_body (loadSend_congr h hacc)
  case sendRaw s => exact readsAlike_of_body (loadSend_congr h hacc)
  case rawPduReceived s => exact readsAlike_of_body (loadRecvdPacket_congr h hacc)
  case pduReceived s => exact readsAlike_of_body (loadRecvdPacket_congr h hacc)
  all_goals
    simp [UnifyingParser.kind, Kind.wire, UnifyingKind.wire, ChannelCmd.wire, Jammed.wire] at h
    exact readsAlike_of_read fun s => by simp only [h]

end
end WhadLib.Unifying
