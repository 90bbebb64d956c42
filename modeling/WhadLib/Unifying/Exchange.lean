import WhadLib.Esb.Exchange

/-! The commands and notifications of the Unifying domain: the other side reads the arguments of the builder, if
the address among them fits. -/
namespace WhadLib.Unifying
open Library
open Esb (EsbAddress EsbRecvdPacket SameSend storeNodeAddress storeSniff storeSend storeRecvdPacket loadNodeAddress
  loadSniff loadSend loadRecvdPacket fits_of_storeNodeAddress fits_of_storeSniff within_of_storeRecvdPacket
  nodeAddress_stored sniff_stored send_stored recvdPacket_stored)

/-- The calls of the builders, with pointers that are not `NULL`. -/
inductive UnifyingCommand
  | setNodeAddress (addr : EsbAddress)
  | sniff (addr : EsbAddress) (channel : UInt32) (showAck : Bool)
  | jam (channel : UInt32)
  | send (channel : UInt32) (retrCount : ℤ) (pPacket : Buffer) (packetLen : UInt8)
  | sendRaw (channel : UInt32) (retrCount : ℤ) (pPacket : Buffer) (packetLen : UInt8)
  | dongleMode (channel : UInt32)
  | keyboardMode (channel : UInt32)
  | mouseMode (channel : UInt32)
  | jammed (timestamp : UInt32)
  | rawPduReceived (pdu : EsbRecvdPacket)
  | pduReceived (pdu : EsbRecvdPacket)

namespace UnifyingCommand

def builder : UnifyingCommand → UnifyingBuilder
  | setNodeAddress addr => .setNodeAddress (some addr)
  | sniff addr channel showAck => .sniff (some addr) channel showAck
  | jam channel => .jam channel
  | send channel retrCount pPacket packetLen => .send channel retrCount (some pPacket) packetLen
  | sendRaw channel retrCount pPacket packetLen => .sendRaw channel retrCount (some pPacket) packetLen
  | dongleMode channel => .dongleMode channel
  | keyboardMode channel => .keyboardMode channel
  | mouseMode channel => .mouseMode channel
  | jammed timestamp => .jammed timestamp
  | rawPduReceived pdu => .rawPduReceived (some pdu)
  | pduReceived pdu => .pduReceived (some pdu)

/-- The parser of the command returns its arguments. -/
def Returned : UnifyingCommand → FullMessage → Prop
  | setNodeAddress addr => Returns whadUnifyingSetNodeAddressParse addr.Same
  | sniff addr channel showAck =>
    Returns whadUnifyingSniffParse fun r => r.channel = channel ∧ r.showAcks = showAck ∧ addr.Same r.address
  | jam channel => Returns whadUnifyingJamParse (· = channel)
  | send channel retrCount pPacket packetLen =>
    Returns whadUnifyingSendParse (SameSend channel retrCount pPacket packetLen)
  | sendRaw channel retrCount pPacket packetLen =>
    Returns whadUnifyingSendRawParse (SameSend channel retrCount pPacket packetLen)
  | dongleMode channel => Returns whadUnifyingDongleModeParse (· = channel)
  | keyboardMode channel => Returns whadUnifyingKeyboardModeParse (· = channel)
  | mouseMode channel => Returns whadUnifyingMouseModeParse (· = channel)
  | jammed timestamp => Returns whadUnifyingJammedParse (· = timestamp)
  | rawPduReceived pdu => Returns whadUnifyingRawPduReceivedParse (SamePacket pdu)
  | pduReceived pdu => Returns whadUnifyingPduReceivedParse (SamePacket pdu)

/-- The address among the arguments fits. -/
def Fits : UnifyingCommand → Prop
  | setNodeAddress addr => addr.Fits
  | sniff addr .. => addr.Fits
  | rawPduReceived pdu => AddressWithin pdu
  | pduReceived pdu => AddressWithin pdu
  | _ => True

end UnifyingCommand

theorem unifyingCommand_exchanged_iff (c : UnifyingCommand) (m : FullMessage) :
    Exchanged (.domain (.unifying c.builder)) c.Returned m ↔ c.Fits := by
  cases c with
  | setNodeAddress addr =>
    refine exchanged_iff_of_stored (k := .unifying .setNodeAddr) whadUnifyingSetNodeAddressParse (fun s => .unifying (.setNodeAddress (some s)))
      (storeNodeAddress addr) loadNodeAddress (fun _ _ _ => ⟨rfl,trivial,id⟩) (fun built hbuilt => ?_) (fun _ => rfl)
      (fun p s r hload => parse_success hload) fun h => nodeAddress_stored h
    obtain ⟨q,hq,-⟩ := FullMessage.build_eq_some_iff.mp hbuilt
    exact fits_of_storeNodeAddress hq
  | sniff addr channel showAck =>
    refine exchanged_iff_of_stored (k := .unifying .sniff) whadUnifyingSniffParse (fun s => .unifying (.sniff (some s)))
      (storeSniff addr channel showAck) loadSniff (fun _ _ _ => ⟨rfl,trivial,id⟩) (fun built hbuilt => ?_)
      (fun h => if_neg (not_lt.mpr h.2)) (fun p s r hload => parse_success hload)
      fun h => sniff_stored h channel showAck
    rcases ite_eq_iff.mp hbuilt with ⟨-,hrefused⟩ | ⟨-,hbuilt⟩
    · simp [refuse] at hrefused
    · obtain ⟨q,hq,-⟩ := FullMessage.build_eq_some_iff.mp hbuilt
      exact fits_of_storeSniff hq
  | jam =>
    exact iff_of_true ((exchanged_iff whadUnifyingJamParse (fun s => .unifying (.jam (some s))) (fun _ _ => ⟨rfl,trivial,id⟩) rfl
      (by simp [Kind.wire, UnifyingKind.wire, ChannelCmd.wire]) fun _ => rfl).mpr fun _ => rfl) trivial
  | dongleMode =>
    exact iff_of_true ((exchanged_iff whadUnifyingDongleModeParse (fun s => .unifying (.dongleMode (some s))) (fun _ _ => ⟨rfl,trivial,id⟩) rfl
      (by simp [Kind.wire, UnifyingKind.wire, ChannelCmd.wire]) fun _ => rfl).mpr fun _ => rfl) trivial
  | keyboardMode =>
    exact iff_of_true ((exchanged_iff whadUnifyingKeyboardModeParse (fun s => .unifying (.keyboardMode (some s))) (fun _ _ => ⟨rfl,trivial,id⟩) rfl
      (by simp [Kind.wire, UnifyingKind.wire, ChannelCmd.wire]) fun _ => rfl).mpr fun _ => rfl) trivial
  | mouseMode =>
    exact iff_of_true ((exchanged_iff whadUnifyingMouseModeParse (fun s => .unifying (.mouseMode (some s))) (fun _ _ => ⟨rfl,trivial,id⟩) rfl
      (by simp [Kind.wire, UnifyingKind.wire, ChannelCmd.wire]) fun _ => rfl).mpr fun _ => rfl) trivial
  | jammed =>
    exact iff_of_true ((exchanged_iff whadUnifyingJammedParse (fun s => .unifying (.jammed (some s))) (fun _ _ => ⟨rfl,trivial,id⟩) rfl
      (by simp [Kind.wire, UnifyingKind.wire, Jammed.wire]) fun _ => rfl).mpr fun _ => UInt32.toUInt32_toUInt64 _) trivial
  | send channel retrCount pPacket packetLen =>
    exact exchanged_iff_of_stored (k := .unifying .send) whadUnifyingSendParse (fun s => .unifying (.send (some s)))
      (storeSend channel retrCount pPacket packetLen) loadSend (fun _ _ _ => ⟨rfl,trivial,id⟩) (fun _ _ => trivial)
      (fun _ => rfl) (fun p s r hload => parse_success hload) fun _ => send_stored channel retrCount pPacket packetLen
  | sendRaw channel retrCount pPacket packetLen =>
    exact exchanged_iff_of_stored (k := .unifying .sendRaw) whadUnifyingSendRawParse (fun s => .unifying (.sendRaw (some s)))
      (storeSend channel retrCount pPacket packetLen) loadSend (fun _ _ _ => ⟨rfl,trivial,id⟩) (fun _ _ => trivial)
      (fun _ => rfl) (fun p s r hload => parse_success hload) fun _ => send_stored channel retrCount pPacket packetLen
  | rawPduReceived pdu =>
    refine exchanged_iff_of_stored (k := .unifying .rawPdu) whadUnifyingRawPduReceivedParse (fun s => .unifying (.rawPduReceived (some s)))
      (storeRecvdPacket pdu) loadRecvdPacket (fun _ _ _ => ⟨rfl,trivial,id⟩) (fun built hbuilt => ?_) (fun _ => rfl)
      (fun p s r hload => parse_success hload) fun h => recvdPacket_stored h
    obtain ⟨q,hq,-⟩ := FullMessage.build_eq_some_iff.mp hbuilt
    exact within_of_storeRecvdPacket hq
  | pduReceived pdu =>
    refine exchanged_iff_of_stored (k := .unifying .pdu) whadUnifyingPduReceivedParse (fun s => .unifying (.pduReceived (some s)))
      (storeRecvdPacket pdu) loadRecvdPacket (fun _ _ _ => ⟨rfl,trivial,id⟩) (fun built hbuilt => ?_) (fun _ => rfl)
      (fun p s r hload => parse_success hload) fun h => recvdPacket_stored h
    obtain ⟨q,hq,-⟩ := FullMessage.build_eq_some_iff.mp hbuilt
    exact within_of_storeRecvdPacket hq

end WhadLib.Unifying
