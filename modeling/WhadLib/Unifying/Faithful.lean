import WhadLib.Esb.Faithful
import WhadLib.Unifying.Wrappers

/-! Which messages of the Unifying domain the wrapper classes leave as they were. -/
namespace WhadLib.Unifying
open Library Cpp
open Esb (EsbAddress EsbRecvdPacket PduReceived SetNodeAddressCmd SendCmd SniffCmd loadRecvdPacket)
open Esb.Wrapper (AddressClass Fits Loaded RawPacketReceived nodeAddress_faithful sniffing_faithful
  sending_faithful_iff fits_of_accepted loadRecvdPacket_spec)

/-- The wrapper classes. -/
inductive UnifyingWrapper
  | dongleMode | jamMode | jammed | keyboardMode | mouseMode | pduReceived | rawPduReceived | sendPdu | sendRawPdu
  | setNodeAddress | sniffMode
  deriving DecidableEq, Repr

namespace UnifyingWrapper

def wrapperClass : UnifyingWrapper → WrapperClass
  | .dongleMode => Wrapper.dongleMode
  | .jamMode => Wrapper.jamMode
  | .jammed => Wrapper.jammed
  | .keyboardMode => Wrapper.keyboardMode
  | .mouseMode => Wrapper.mouseMode
  | .pduReceived => Wrapper.pduReceived
  | .rawPduReceived => Wrapper.rawPduReceived
  | .sendPdu => Wrapper.sendPdu
  | .sendRawPdu => Wrapper.sendRawPdu
  | .setNodeAddress => Wrapper.setNodeAddress
  | .sniffMode => Wrapper.sniffMode

end UnifyingWrapper

/-- The messages that a class leaves as they were. -/
def UnifyingWrapper.Keeps : UnifyingWrapper → FullMessage → Prop
  | .sendPdu, m => (SendCmd.retransmissionCount (m.msg (.unifying .send))).toNat < 2^31
  | .sendRawPdu, m => (SendCmd.retransmissionCount (m.msg (.unifying .sendRaw))).toNat < 2^31
  | .jammed, _ => False
  | .pduReceived, _ => False
  | .rawPduReceived, _ => False
  | _, _ => True

namespace Wrapper
variable {m : FullMessage}

theorem toInt_toInt32_iff (v : UInt32) : v.toInt32.toInt = v.toNat ↔ v.toNat < 2^31 := by
  have hint := toInt_eq v.toInt32
  rw [show v.toInt32.toUInt32 = v from rfl] at hint
  have hlt := v.toNat_lt
  split at hint <;> omega

/-- An address without bytes is the one that is constructed. -/
theorem unifyingAddress_sets : unifyingAddress.Sets := by
  intro memory src n h
  by_cases hpos : 1 ≤ n
  · obtain ⟨bytes,hbytes,htake⟩ := exists_memcpy memory src h
    have hbounds : 1 ≤ (n : ℤ) ∧ (n : ℤ) ≤ 5 := by omega
    refine ⟨bytes,(if_pos hbounds).trans ?_,htake⟩
    change (memcpy memory src n).bind _ = _
    rw [hbytes]
    rfl
  · obtain rfl : n = 0 := by omega
    exact ⟨memory,rfl,rfl⟩

/-- The tag becomes that of a jamming command. -/
theorem jammed_not_faithful (hown : m.Holds (.unifying .jammed)) : ¬jammed.Faithful m :=
  WrapperClass.not_faithful_of_tag (c := jammed) (s := (0 : UInt32)) (k := .unifying .jam) hown rfl rfl (by decide)

/-- The members of an object as the class of the ESB domain has them, with a flag for the address. -/
def Received.withFlag (o : Received) (hasAddress : Bool) : RawPacketReceived where
  channel := o.packet.channel
  rssi := o.packet.rssi
  timestamp := o.packet.timestamp
  crcValidity := o.packet.crcValidity
  address := ⟨hasAddress,o.address⟩
  packet := o.packet.pdu

/-- An object that is constructed carries the packet, and the flag that lies in memory. -/
theorem receiving_construct {kind : Kind} {parser : Option FullMessage → Option EsbRecvdPacket → Parsed EsbRecvdPacket}
    {builder : Option FullMessage → Option EsbRecvdPacket → Outcome} {member : FullMessage → PduReceived}
    (hfits : Fits (member m))
    (hparser : ∀ s s', loadRecvdPacket (member m) s = done s' → parsedBy (parser (some m) (some s)) = some s')
    (s : (Bool × Vector UInt8 5) × EsbRecvdPacket) :
    ∃ o : Received, (receiving kind parser builder member).construct m s = some (m,o) ∧ o.hasAddress = s.1.1 ∧
      Loaded (member m) (o.withFlag (member m).address.has) := by
  obtain ⟨params,hparams,hfetched⟩ := loadRecvdPacket_spec hfits s.2
  obtain ⟨pdu,hpdu⟩ := Packet.setBytes_of_le (n := 255) (bufferOf params.packet.bytes)
    (show params.packet.length.toNat ≤ 255 by have := hfetched.packet.size; have := hfits.pdu; omega)
  have hreads := hfetched.packet.setBytes hpdu
  obtain ⟨copied,hcopied⟩ := Packet.setBytes_of_le (n := 255) pdu.getBytes hfits.pdu
  rw [← hreads.size] at hcopied
  -- what is the same with and without an address
  let o (address : EsbAddress) : Received :=
    ⟨⟨params.channel,copied,added params.timestamp 0,added params.rssi 0,added params.crcValidity false⟩,s.1.1,address⟩
  have hloaded {address : EsbAddress} (haddress : (member m).address.has = true →
      ReadsAs (member m).address.value (bufferOf address.address) address.size) :
      Loaded (member m) ((o address).withFlag (member m).address.has) := {
    channel := hfetched.channel
    rssi := same_trans (added_same _ 0) hfetched.rssi
    timestamp := same_trans (added_same _ 0) hfetched.timestamp
    crcValidity := same_trans (added_same _ false) hfetched.crcValidity
    hasAddress := rfl
    address := haddress
    packet := hreads.setBytes hcopied }
  cases hhas : (member m).address.has with
  | false =>
    have hnone : params.address.has = false := hfetched.hasAddress.trans hhas
    refine ⟨o (unifyingAddress.construct s.1.2),?_,rfl,?_⟩
    · simp only [receiving, hparser _ _ hparams, Option.bind_eq_bind, Option.bind_some, hpdu, hcopied, hnone]
      rfl
    · rw [← hhas]
      refine hloaded fun h => ?_
      rw [hhas] at h
      contradiction
  | true =>
    have hsome : params.address.has = true := hfetched.hasAddress.trans hhas
    have hread := hfetched.address hhas
    obtain ⟨bytes,hset,htake⟩ :=
      unifyingAddress_sets s.1.2 (bufferOf params.address.value.address) (hfits.address hhas)
    rw [← hread.size] at hset
    refine ⟨o ⟨bytes,params.address.value.size⟩,?_,rfl,?_⟩
    · simp only [receiving, hparser _ _ hparams, Option.bind_eq_bind, Option.bind_some, hpdu, hcopied, hsome,
        if_true, hset]
      rfl
    · rw [← hhas]
      exact hloaded fun _ => ⟨hread.size,hread.content.trans (congrArg some htake.symm)⟩

/-- The flag of the address that lies in memory is not that of the message. -/
theorem receiving_not_faithful {kind : Kind} {parser : Option FullMessage → Option EsbRecvdPacket → Parsed EsbRecvdPacket}
    {builder : Option FullMessage → Option EsbRecvdPacket → Outcome} {member : FullMessage → PduReceived}
    (haccepted : (member m).wire.Accepted)
    (hparser : ∀ s s', loadRecvdPacket (member m) s = done s' → parsedBy (parser (some m) (some s)) = some s') :
    ¬(receiving kind parser builder member).Faithful m := by
  let s : (Bool × Vector UInt8 5) × EsbRecvdPacket := ((!(member m).address.has,memset 0),default)
  obtain ⟨o,hc,hflag,-⟩ : ∃ o : Received, (receiving kind parser builder member).construct m s = some (m,o) ∧
      o.hasAddress = s.1.1 ∧ Loaded (member m) (o.withFlag (member m).address.has) :=
    receiving_construct (fits_of_accepted haccepted) hparser s
  refine WrapperClass.not_faithful_of_shows hc ?_
  rintro ⟨-,-,-,-,-,-,hshown,-⟩
  exact Bool.not_ne_self _ (hflag.symm.trans hshown)

end Wrapper

section
open Wrapper
variable {m : FullMessage}

/-- A class leaves the messages as they were that it keeps, and no others. -/
theorem unifyingWrapper_faithful_iff (w : UnifyingWrapper) (hm : Decoded m) (hown : m.Holds w.wrapperClass.kind) :
    w.wrapperClass.Faithful m ↔ w.Keeps m := by
  cases w
  case sendPdu =>
    have haccepted : (SendCmd.wire (m.msg (.unifying .send))).Accepted := hm.accepted _ hown
    refine (sending_faithful_iff hown haccepted rfl (fun _ _ h => parsedBy_parse h) ?_).trans (toInt_toInt32_iff _)
    intro channel retrCount src length q hq
    exact ⟨q,packed_build hq,rfl⟩
  case sendRawPdu =>
    have haccepted : (SendCmd.wire (m.msg (.unifying .sendRaw))).Accepted := hm.accepted _ hown
    refine (sending_faithful_iff hown haccepted rfl (fun _ _ h => parsedBy_parse h) ?_).trans (toInt_toInt32_iff _)
    intro channel retrCount src length q hq
    exact ⟨q,packed_build hq,rfl⟩
  -- classes that break every message
  case jammed => exact iff_of_false (jammed_not_faithful hown) id
  case pduReceived =>
    have haccepted : (PduReceived.wire (m.msg (.unifying .pdu))).Accepted := hm.accepted _ hown
    exact iff_of_false (receiving_not_faithful haccepted fun _ _ h => parsedBy_parse h) id
  case rawPduReceived =>
    have haccepted : (PduReceived.wire (m.msg (.unifying .rawPdu))).Accepted := hm.accepted _ hown
    exact iff_of_false (receiving_not_faithful haccepted fun _ _ h => parsedBy_parse h) id
  -- classes that break none
  all_goals refine iff_of_true ?_ trivial
  case setNodeAddress =>
    have haccepted : (SetNodeAddressCmd.wire (m.msg (.unifying .setNodeAddr))).Accepted := hm.accepted _ hown
    refine nodeAddress_faithful unifyingAddress_sets hown haccepted rfl (fun _ _ h => parsedBy_parse h) ?_
    intro addr q hq
    exact ⟨q,packed_build hq,rfl⟩
  case sniffMode =>
    have haccepted : (SniffCmd.wire (m.msg (.unifying .sniff))).Accepted := hm.accepted _ hown
    refine sniffing_faithful unifyingAddress_sets hown haccepted rfl (fun _ _ h => parsedBy_parse h) ?_
    intro addr channel showAck q haddr hq
    exact ⟨q,(congrArg packed (if_neg (by omega))).trans (packed_build hq),rfl⟩
  case dongleMode => exact WrapperClass.unpacking_faithful hown (fun _ => rfl) (fun _ => rfl) fun _ => ⟨rfl,rfl⟩
  case jamMode => exact WrapperClass.unpacking_faithful hown (fun _ => rfl) (fun _ => rfl) fun _ => ⟨rfl,rfl⟩
  case keyboardMode => exact WrapperClass.unpacking_faithful hown (fun _ => rfl) (fun _ => rfl) fun _ => ⟨rfl,rfl⟩
  case mouseMode => exact WrapperClass.unpacking_faithful hown (fun _ => rfl) (fun _ => rfl) fun _ => ⟨rfl,rfl⟩

end
end WhadLib.Unifying
