import WhadLib.Dot15d4.Reception
import WhadLib.Dot15d4.RoundTrip
import WhadLib.Exchange

/-! The commands and notifications of the 802.15.4 domain whose builder and parser agree on their member: the other
side reads the arguments of the builder. -/
namespace WhadLib.Dot15d4
open Library
open Esb.Wrapper (storeOptional_shows)

/-- The calls of the builders, with pointers that are not `NULL`. -/
inductive Dot15d4Command
  | sniff (channel : UInt32)
  | jam (channel : UInt32)
  | energyDetect (channel : UInt32)
  | send (channel : UInt32) (pPacket : Buffer) (length : ℤ)
  | endDeviceMode (channel : UInt32)
  | routerMode (channel : UInt32)
  | coordMode (channel : UInt32)
  | mitmMode (role : EnumField Dot15d4MitmRole)
  | jammed (timestamp : UInt32)
  | energyDetectSample (timestamp sample : UInt32)
  | rawPduReceived (packet : Dot15d4RecvdPacket)

namespace Dot15d4Command

def builder : Dot15d4Command → Dot15d4Builder
  | sniff channel => .sniff channel
  | jam channel => .jam channel
  | energyDetect channel => .energyDetect channel
  | send channel pPacket length => .send channel (some pPacket) length
  | endDeviceMode channel => .endDeviceMode channel
  | routerMode channel => .routerMode channel
  | coordMode channel => .coordMode channel
  | mitmMode role => .mitmMode role
  | jammed timestamp => .jammed timestamp
  | energyDetectSample timestamp sample => .energyDetectSample timestamp sample
  | rawPduReceived packet => .rawPduReceived (some packet)

/-- The parser of the command returns its arguments. -/
def Returned : Dot15d4Command → FullMessage → Prop
  | sniff channel => Returns whadDot15d4SniffParse (· = channel)
  | jam channel => Returns whadDot15d4JamParse (· = channel)
  | energyDetect channel => Returns whadDot15d4EnergyDetectParse (· = channel)
  | send channel pPacket length => Returns whadDot15d4SendParse fun r =>
      r.channel = channel ∧ SameBytes pPacket length.toNat (bufferOf r.packet.bytes) r.packet.length
  | endDeviceMode channel => Returns whadDot15d4EndDeviceModeParse (· = channel)
  | routerMode channel => Returns whadDot15d4RouterModeParse (· = channel)
  | coordMode channel => Returns whadDot15d4CoordModeParse (· = channel)
  | mitmMode role => Returns whadDot15d4MitmModeParse (· = role)
  | jammed timestamp => Returns whadDot15d4JammedParse (· = timestamp)
  | energyDetectSample timestamp sample => Returns whadDot15d4EnergyDetectSampleParse (· = ⟨timestamp,sample⟩)
  | rawPduReceived packet => Returns whadDot15d4RawPduReceivedParse (Reception.rawPdu.Returned packet)

/-- The numbers of the enumerations among the arguments have their 32 bits. -/
def Narrow : Dot15d4Command → Prop
  | mitmMode role => role.Narrow
  | _ => True

/-- The packet among the arguments fits. -/
def Fits : Dot15d4Command → Prop
  | send _ _ length => 0 ≤ length ∧ length ≤ 255
  | rawPduReceived packet => 0 ≤ packet.packet.length ∧ packet.packet.length ≤ 255
  | _ => True

end Dot15d4Command

theorem send_stored {length : ℤ} (h : 0 ≤ length ∧ length ≤ 255) (channel : UInt32) (pPacket : Buffer) (old : SendCmd) :
    ∃ p : SendCmd, storeSend channel pPacket length old = done p ∧ p.wire.Intact ∧
      ∀ s, ∃ r, loadSend p.channel p.pdu 0 s = done r ∧ r.channel = channel ∧
        SameBytes pPacket length.toNat (bufferOf r.packet.bytes) r.packet.length := by
  obtain ⟨hzero,hmax⟩ := h
  obtain ⟨x,hx,hsame,hsize⟩ := exists_storeSend channel pPacket old (show length.toNat ≤ 255 by omega)
  rw [Int.toNat_of_nonneg hzero] at hx
  refine ⟨⟨channel,x⟩,hx,by simpa [SendCmd.wire] using hsize,fun s => ?_⟩
  obtain ⟨bytes,hload,htake⟩ := Wrapper.loadSend_spec channel 0 s hsize
  exact ⟨_,hload,rfl,hsame.trans ⟨rfl,htake⟩⟩

/-- What the builder of raw notifications stores. -/
def storeRawPdu (packet : Dot15d4RecvdPacket) (p : RawPduReceived) : Option (WhadResult × RawPduReceived) := do
  let pdu ← p.pdu.fill (bufferOf packet.packet.bytes) packet.packet.length
  done { p with
    channel := packet.channel, pdu := pdu, fcs := packet.fcs
    rssi := Esb.storeOptional packet.rssi id p.rssi
    timestamp := Esb.storeOptional packet.timestamp UInt32.toUInt64 p.timestamp
    fcsValidity := Esb.storeOptional packet.fcsValidity id p.fcsValidity
    lqi := storeLqi packet.lqi }

theorem fits_of_storeRawPdu {packet : Dot15d4RecvdPacket} {p q : RawPduReceived} (h : storeRawPdu packet p = done q) :
    0 ≤ packet.packet.length ∧ packet.packet.length ≤ 255 := by
  cases hfill : p.pdu.fill (bufferOf packet.packet.bytes) packet.packet.length with
  | none => simp [storeRawPdu, hfill, done] at h
  | some x => exact bounds_of_fill hfill

theorem rawPdu_stored {packet : Dot15d4RecvdPacket} (h : 0 ≤ packet.packet.length ∧ packet.packet.length ≤ 255)
    (old : RawPduReceived) : ∃ p, storeRawPdu packet old = done p ∧ p.wire.Intact ∧
      ∀ s : Dot15d4RecvdPacket, ∃ r, loadRecvdPacket p { s with fcs := p.fcs } = done r ∧ Reception.rawPdu.Returned packet r := by
  obtain ⟨y,hy,hsame,hsize⟩ := exists_fill old.pdu h.1 h.2
  let p : RawPduReceived := {
    channel := packet.channel, pdu := y, fcs := packet.fcs, rssi := Esb.storeOptional packet.rssi id old.rssi
    timestamp := Esb.storeOptional packet.timestamp UInt32.toUInt64 old.timestamp
    fcsValidity := Esb.storeOptional packet.fcsValidity id old.fcsValidity, lqi := storeLqi packet.lqi }
  have hholds : Holds packet p :=
    ⟨rfl,hsame,hsize,storeOptional_shows _ id _,storeOptional_shows _ UInt32.toUInt64 _,storeOptional_shows _ id _⟩
  refine ⟨p,congrArg (fun filled => Option.bind filled _) hy,?_,fun s => ?_⟩
  · simpa [RawPduReceived.wire] using hsize
  · obtain ⟨r,hload,hfetched,hfcs⟩ := Wrapper.loadRecvdPacket_spec (p := p) hsize { s with fcs := p.fcs }
    exact ⟨r,hload,(samePacket_iff hholds hfetched).mpr (Wrapper.storeLqi_same ⟨rfl,fun _ => rfl⟩),fun _ => hfcs⟩

theorem dot15d4Command_exchanged_iff (c : Dot15d4Command) (h : c.Narrow) (m : FullMessage) :
    Exchanged (.domain (.dot15d4 c.builder)) c.Returned m ↔ c.Fits := by
  cases c with
  | send channel pPacket length =>
    refine exchanged_iff_of_stored (k := .dot15d4 .send) whadDot15d4SendParse (fun s => .dot15d4 (.send (some s)))
      (storeSend channel pPacket length) (fun p => loadSend p.channel p.pdu 0) (fun _ _ _ => ⟨rfl,trivial,id⟩)
      (fun built hbuilt => ?_) (fun _ => rfl) (fun p s r hload => parse_success hload)
      fun h => send_stored h channel pPacket
    obtain ⟨q,hq,-⟩ := FullMessage.build_eq_some_iff.mp hbuilt
    by_contra hfits
    have hfailed : storeSend channel pPacket length (m.msg (.dot15d4 .send)) = failed _ := if_neg hfits
    simp [hfailed, failed] at hq
  | rawPduReceived packet =>
    refine exchanged_iff_of_stored (k := .dot15d4 .rawPdu) whadDot15d4RawPduReceivedParse
      (fun s => .dot15d4 (.rawPduReceived (some s))) (storeRawPdu packet)
      (fun p s => loadRecvdPacket p { s with fcs := RawPduReceived.fcs p }) (fun _ _ _ => ⟨rfl,trivial,id⟩) (fun built hbuilt => ?_)
      (fun _ => rfl) (fun p s r hload => parse_success hload) fun h => rawPdu_stored h
    have hbuilt : m.build (.dot15d4 .rawPdu) (storeRawPdu packet) = some (.success, some built) := hbuilt
    obtain ⟨q,hq,-⟩ := FullMessage.build_eq_some_iff.mp hbuilt
    exact fits_of_storeRawPdu hq
  | mitmMode role =>
    have hnarrow : role.Narrow := h
    exact iff_of_true ((exchanged_iff whadDot15d4MitmModeParse (fun s => .dot15d4 (.mitmMode (some s)))
      (fun _ _ => ⟨rfl,trivial,id⟩) rfl (by simpa [Kind.wire, Dot15d4Kind.wire, ManInTheMiddleCmd.wire] using hnarrow)
      fun _ => rfl).mpr fun _ => rfl) trivial
  | sniff =>
    exact iff_of_true ((exchanged_iff whadDot15d4SniffParse (fun s => .dot15d4 (.sniff (some s)))
      (fun _ _ => ⟨rfl,trivial,id⟩) rfl (by simp [Kind.wire, Dot15d4Kind.wire, ChannelCmd.wire]) fun _ => rfl).mpr
      fun _ => rfl) trivial
  | jam =>
    exact iff_of_true ((exchanged_iff whadDot15d4JamParse (fun s => .dot15d4 (.jam (some s)))
      (fun _ _ => ⟨rfl,trivial,id⟩) rfl (by simp [Kind.wire, Dot15d4Kind.wire, ChannelCmd.wire]) fun _ => rfl).mpr
      fun _ => rfl) trivial
  | energyDetect =>
    exact iff_of_true ((exchanged_iff whadDot15d4EnergyDetectParse (fun s => .dot15d4 (.energyDetect (some s)))
      (fun _ _ => ⟨rfl,trivial,id⟩) rfl (by simp [Kind.wire, Dot15d4Kind.wire, ChannelCmd.wire]) fun _ => rfl).mpr
      fun _ => rfl) trivial
  | endDeviceMode =>
    exact iff_of_true ((exchanged_iff whadDot15d4EndDeviceModeParse (fun s => .dot15d4 (.endDeviceMode (some s)))
      (fun _ _ => ⟨rfl,trivial,id⟩) rfl (by simp [Kind.wire, Dot15d4Kind.wire, ChannelCmd.wire]) fun _ => rfl).mpr
      fun _ => rfl) trivial
  | routerMode =>
    exact iff_of_true ((exchanged_iff whadDot15d4RouterModeParse (fun s => .dot15d4 (.routerMode (some s)))
      (fun _ _ => ⟨rfl,trivial,id⟩) rfl (by simp [Kind.wire, Dot15d4Kind.wire, ChannelCmd.wire]) fun _ => rfl).mpr
      fun _ => rfl) trivial
  | coordMode =>
    exact iff_of_true ((exchanged_iff whadDot15d4CoordModeParse (fun s => .dot15d4 (.coordMode (some s)))
      (fun _ _ => ⟨rfl,trivial,id⟩) rfl (by simp [Kind.wire, Dot15d4Kind.wire, ChannelCmd.wire]) fun _ => rfl).mpr
      fun _ => rfl) trivial
  | jammed =>
    exact iff_of_true ((exchanged_iff whadDot15d4JammedParse (fun s => .dot15d4 (.jammed (some s)))
      (fun _ _ => ⟨rfl,trivial,id⟩) rfl (by simp [Kind.wire, Dot15d4Kind.wire, Jammed.wire]) fun _ => rfl).mpr
      fun _ => UInt32.toUInt32_toUInt64 _) trivial
  | energyDetectSample timestamp sample =>
    refine iff_of_true ((exchanged_iff whadDot15d4EnergyDetectSampleParse (fun s => .dot15d4 (.energyDetectSample (some s)))
      (fun _ _ => ⟨rfl,trivial,id⟩) rfl (by simp [Kind.wire, Dot15d4Kind.wire, EnergyDetectionSample.wire]) fun _ => rfl).mpr
      fun _ => ?_) trivial
    exact congrArg (Dot15d4EdSample.mk · sample) (UInt32.toUInt32_toUInt64 timestamp)

end WhadLib.Dot15d4
