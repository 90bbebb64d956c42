import WhadLib.Exchange
import WhadLib.Unifying.Reception

/-! The commands and notifications of the ESB and the Unifying domain: the other side reads the arguments of the
builder, if the address among them fits. What the two domains share is stated on the member. -/
namespace WhadLib.Esb
open Library
open Unifying (AddressWithin SamePacket)

/-- An address of at most five bytes. -/
def EsbAddress.Fits (addr : EsbAddress) : Prop := 0 ≤ addr.size ∧ addr.size ≤ 5

/-- The bytes of an address, as many as there are. -/
def EsbAddress.Same (addr r : EsbAddress) : Prop :=
  SameBytes (bufferOf addr.address) addr.size.toNat (bufferOf r.address) r.size

/-- A packet to send. -/
structure SameSend (channel : UInt32) (retrCount : ℤ) (pPacket : Buffer) (packetLen : UInt8) (r : EsbSendParams) :
    Prop where
  channel : r.channel = channel
  retrCount : r.retrCount = UInt32.ofInt retrCount
  packet : SameBytes pPacket packetLen.toNat (bufferOf r.packet.bytes) r.packet.length.toNat

section
variable {addr : EsbAddress}

/-- An address that fits is stored and loaded as it was given. -/
theorem nodeAddress_stored (h : addr.Fits) (old : SetNodeAddressCmd) : ∃ p, storeNodeAddress addr old = done p ∧
    p.wire.Intact ∧ ∀ s, ∃ r, loadNodeAddress p s = done r ∧ addr.Same r := by
  obtain ⟨x,hx,hsame,hsize⟩ := exists_fill_of_bounds old.address (bufferOf addr.address) h (by decide)
  refine ⟨⟨x⟩,(if_pos h.2).trans ?_,?_,fun s => ?_⟩
  · rw [hx]
    rfl
  · simpa [SetNodeAddressCmd.wire] using hsize
  · obtain ⟨bytes,hload,htake⟩ := Wrapper.loadNodeAddress_spec s (p := ⟨x⟩) hsize
    exact ⟨_,hload,hsame.trans ⟨rfl,htake⟩⟩

theorem fits_of_storeNodeAddress {p q : SetNodeAddressCmd} (h : storeNodeAddress addr p = done q) : addr.Fits := by
  unfold storeNodeAddress at h
  split at h
  · cases hfill : p.address.fill (bufferOf addr.address) addr.size with
    | none => simp [hfill, done] at h
    | some x => exact bounds_of_fill hfill
  · simp [done, failed] at h

theorem sniff_stored (h : addr.Fits) (channel : UInt32) (showAck : Bool) (old : SniffCmd) :
    ∃ p, storeSniff addr channel showAck old = done p ∧ p.wire.Intact ∧
      ∀ s, ∃ r, loadSniff p s = done r ∧ r.channel = channel ∧ r.showAcks = showAck ∧ addr.Same r.address := by
  obtain ⟨x,hx,hsame,hsize⟩ := exists_fill_of_bounds old.address (bufferOf addr.address) h (by decide)
  refine ⟨⟨channel,x,showAck⟩,?_,?_,fun s => ?_⟩
  · rw [storeSniff, hx]
    rfl
  · simpa [SniffCmd.wire] using hsize
  · obtain ⟨bytes,hload,htake⟩ := Wrapper.loadSniff_spec s (p := ⟨channel,x,showAck⟩) hsize
    exact ⟨_,hload,rfl,rfl,hsame.trans ⟨rfl,htake⟩⟩

theorem fits_of_storeSniff {channel : UInt32} {showAck : Bool} {p q : SniffCmd}
    (h : storeSniff addr channel showAck p = done q) : addr.Fits := by
  unfold storeSniff at h
  cases hfill : p.address.fill (bufferOf addr.address) addr.size with
  | none => simp [hfill, done] at h
  | some x => exact bounds_of_fill hfill

/-- The length of a packet has eight bits, so that it always fits. -/
theorem send_stored (channel : UInt32) (retrCount : ℤ) (pPacket : Buffer) (packetLen : UInt8) (old : SendCmd) :
    ∃ p, storeSend channel retrCount pPacket packetLen old = done p ∧ p.wire.Intact ∧
      ∀ s, ∃ r, loadSend p s = done r ∧ SameSend channel retrCount pPacket packetLen r := by
  have hlength : packetLen.toNat ≤ 255 := Nat.le_of_lt_succ packetLen.toNat_lt
  obtain ⟨x,hx,hsame,hsize⟩ := exists_fill_sameBytes old.pdu pPacket hlength (by decide)
  refine ⟨⟨channel,UInt32.ofInt retrCount,x⟩,?_,?_,fun s => ?_⟩
  · rw [storeSend, hx]
    rfl
  · simpa [SendCmd.wire] using hsize
  · obtain ⟨bytes,hload,htake⟩ := Wrapper.loadSend_spec s (p := ⟨channel,UInt32.ofInt retrCount,x⟩) hsize
    have hlen : ((UInt8.ofNat x.size).toNat : ℤ) = x.size :=
      congrArg Nat.cast (UInt8.toNat_ofNat_of_lt' (show x.size < 256 by omega))
    exact ⟨_,hload,rfl,rfl,hsame.trans ⟨hlen,htake⟩⟩

theorem recvdPacket_stored {pdu : EsbRecvdPacket} (h : AddressWithin pdu) (old : PduReceived) :
    ∃ p, storeRecvdPacket pdu old = done p ∧ p.wire.Intact ∧
      ∀ s, ∃ r, loadRecvdPacket p s = done r ∧ SamePacket pdu r := by
  obtain ⟨p,hstore,hholds⟩ := Unifying.exists_storeRecvdPacket h old
  refine ⟨p,hstore,?_,Unifying.exists_loadRecvdPacket hholds⟩
  obtain ⟨hpdu,haddress⟩ := hholds.fits
  simpa [PduReceived.wire] using ⟨haddress,hpdu⟩

/-- A packet with an address that does not fit is not stored. -/
theorem within_of_storeRecvdPacket {pdu : EsbRecvdPacket} {p q : PduReceived} (h : storeRecvdPacket pdu p = done q) :
    AddressWithin pdu := by
  intro hhas
  have hlength : pdu.packet.length.toNat ≤ 255 := Nat.le_of_lt_succ pdu.packet.length.toNat_lt
  obtain ⟨stored,hstored,-⟩ := exists_fill_sameBytes p.pdu (bufferOf pdu.packet.bytes) hlength (by decide)
  simp only [storeRecvdPacket, hstored, hhas, if_true, Option.bind_eq_bind, Option.bind_some] at h
  split at h
  · simp [done, failed] at h
  · cases hfill : p.address.value.fill (bufferOf pdu.address.value.address) pdu.address.value.size with
    | none => simp [hfill, done] at h
    | some x => exact bounds_of_fill hfill

end

/-- The calls of the builders, with pointers that are not `NULL`. -/
inductive EsbCommand
  | setNodeAddress (addr : EsbAddress)
  | sniff (addr : EsbAddress) (channel : UInt32) (showAck : Bool)
  | jam (channel : UInt32)
  | send (channel : UInt32) (retrCount : ℤ) (pPacket : Buffer) (packetLen : UInt8)
  | sendRaw (channel : UInt32) (retrCount : ℤ) (pPacket : Buffer) (packetLen : UInt8)
  | prx (channel : UInt32)
  | ptx (channel : UInt32)
  | jammed (timestamp : UInt32)
  | rawPduReceived (pdu : EsbRecvdPacket)
  | pduReceived (pdu : EsbRecvdPacket)

namespace EsbCommand

def builder : EsbCommand → EsbBuilder
  | setNodeAddress addr => .setNodeAddress (some addr)
  | sniff addr channel showAck => .sniff (some addr) channel showAck
  | jam channel => .jam channel
  | send channel retrCount pPacket packetLen => .send channel retrCount (some pPacket) packetLen
  | sendRaw channel retrCount pPacket packetLen => .sendRaw channel retrCount (some pPacket) packetLen
  | prx channel => .prx channel
  | ptx channel => .ptx channel
  | jammed timestamp => .jammed timestamp
  | rawPduReceived pdu => .rawPduReceived (some pdu)
  | pduReceived pdu => .pduReceived (some pdu)

/-- The parser of the command returns its arguments. -/
def Returned : EsbCommand → FullMessage → Prop
  | setNodeAddress addr => Returns whadEsbSetNodeAddressParse addr.Same
  | sniff addr channel showAck =>
    Returns whadEsbSniffParse fun r => r.channel = channel ∧ r.showAcks = showAck ∧ addr.Same r.address
  | jam channel => Returns whadEsbJamParse (· = channel)
  | send channel retrCount pPacket packetLen => Returns whadEsbSendParse (SameSend channel retrCount pPacket packetLen)
  | sendRaw channel retrCount pPacket packetLen =>
    Returns whadEsbSendRawParse (SameSend channel retrCount pPacket packetLen)
  | prx channel => Returns whadEsbPrxParse (· = channel)
  | ptx channel => Returns whadEsbPtxParse (· = channel)
  | jammed timestamp => Returns whadEsbJammedParse (· = timestamp)
  | rawPduReceived pdu => Returns whadEsbRawPduReceivedParse (SamePacket pdu)
  | pduReceived pdu => Returns whadEsbPduReceivedParse (SamePacket pdu)

/-- The address among the arguments fits. -/
def Fits : EsbCommand → Prop
  | setNodeAddress addr => addr.Fits
  | sniff addr .. => addr.Fits
  | rawPduReceived pdu => AddressWithin pdu
  | pduReceived pdu => AddressWithin pdu
  | _ => True

end EsbCommand

theorem esbCommand_exchanged_iff (c : EsbCommand) (m : FullMessage) :
    Exchanged (.domain (.esb c.builder)) c.Returned m ↔ c.Fits := by
  cases c with
  | setNodeAddress addr =>
    refine exchanged_iff_of_stored (k := .esb .setNodeAddr) whadEsbSetNodeAddressParse (fun s => .esb (.setNodeAddress (some s)))
      (storeNodeAddress addr) loadNodeAddress (fun _ _ _ => ⟨rfl,trivial,id⟩) (fun built hbuilt => ?_) (fun _ => rfl)
      (fun p s r hload => parse_success ((if_pos rfl).trans hload)) fun h => nodeAddress_stored h
    obtain ⟨q,hq,-⟩ := FullMessage.build_eq_some_iff.mp hbuilt
    exact fits_of_storeNodeAddress hq
  | sniff addr channel showAck =>
    refine exchanged_iff_of_stored (k := .esb .sniff) whadEsbSniffParse (fun s => .esb (.sniff (some s)))
      (storeSniff addr channel showAck) loadSniff (fun _ _ _ => ⟨rfl,trivial,id⟩) (fun built hbuilt => ?_)
      (fun h => if_neg (not_lt.mpr h.2)) (fun p s r hload => parse_success ((if_pos rfl).trans hload))
      fun h => sniff_stored h channel showAck
    rcases ite_eq_iff.mp hbuilt with ⟨-,hrefused⟩ | ⟨-,hbuilt⟩
    · simp [refuse] at hrefused
    · obtain ⟨q,hq,-⟩ := FullMessage.build_eq_some_iff.mp hbuilt
      exact fits_of_storeSniff hq
  | jam =>
    exact iff_of_true ((exchanged_iff whadEsbJamParse (fun s => .esb (.jam (some s))) (fun _ _ => ⟨rfl,trivial,id⟩) rfl
      (by simp [Kind.wire, EsbKind.wire, ChannelCmd.wire]) fun _ => rfl).mpr fun _ => rfl) trivial
  | prx =>
    exact iff_of_true ((exchanged_iff whadEsbPrxParse (fun s => .esb (.prx (some s))) (fun _ _ => ⟨rfl,trivial,id⟩) rfl
      (by simp [Kind.wire, EsbKind.wire, ChannelCmd.wire]) fun _ => rfl).mpr fun _ => rfl) trivial
  | ptx =>
    exact iff_of_true ((exchanged_iff whadEsbPtxParse (fun s => .esb (.ptx (some s))) (fun _ _ => ⟨rfl,trivial,id⟩) rfl
      (by simp [Kind.wire, EsbKind.wire, ChannelCmd.wire]) fun _ => rfl).mpr fun _ => rfl) trivial
  | jammed =>
    exact iff_of_true ((exchanged_iff whadEsbJammedParse (fun s => .esb (.jammed (some s))) (fun _ _ => ⟨rfl,trivial,id⟩) rfl
      (by simp [Kind.wire, EsbKind.wire, Jammed.wire]) fun _ => rfl).mpr fun _ => UInt32.toUInt32_toUInt64 _) trivial
  | send channel retrCount pPacket packetLen =>
    exact exchanged_iff_of_stored (k := .esb .send) whadEsbSendParse (fun s => .esb (.send (some s)))
      (storeSend channel retrCount pPacket packetLen) loadSend (fun _ _ _ => ⟨rfl,trivial,id⟩) (fun _ _ => trivial)
      (fun _ => rfl) (fun p s r hload => parse_success hload) fun _ => send_stored channel retrCount pPacket packetLen
  | sendRaw channel retrCount pPacket packetLen =>
    exact exchanged_iff_of_stored (k := .esb .sendRaw) whadEsbSendRawParse (fun s => .esb (.sendRaw (some s)))
      (storeSend channel retrCount pPacket packetLen) loadSend (fun _ _ _ => ⟨rfl,trivial,id⟩) (fun _ _ => trivial)
      (fun _ => rfl) (fun p s r hload => parse_success hload) fun _ => send_stored channel retrCount pPacket packetLen
  | rawPduReceived pdu =>
    refine exchanged_iff_of_stored (k := .esb .rawPdu) whadEsbRawPduReceivedParse (fun s => .esb (.rawPduReceived (some s)))
      (storeRecvdPacket pdu) loadRecvdPacket (fun _ _ _ => ⟨rfl,trivial,id⟩) (fun built hbuilt => ?_) (fun _ => rfl)
      (fun p s r hload => parse_success hload) fun h => recvdPacket_stored h
    obtain ⟨q,hq,-⟩ := FullMessage.build_eq_some_iff.mp hbuilt
    exact within_of_storeRecvdPacket hq
  | pduReceived pdu =>
    refine exchanged_iff_of_stored (k := .esb .pdu) whadEsbPduReceivedParse (fun s => .esb (.pduReceived (some s)))
      (storeRecvdPacket pdu) loadRecvdPacket (fun _ _ _ => ⟨rfl,trivial,id⟩) (fun built hbuilt => ?_) (fun _ => rfl)
      (fun p s r hload => parse_success hload) fun h => recvdPacket_stored h
    obtain ⟨q,hq,-⟩ := FullMessage.build_eq_some_iff.mp hbuilt
    exact within_of_storeRecvdPacket hq

end WhadLib.Esb
