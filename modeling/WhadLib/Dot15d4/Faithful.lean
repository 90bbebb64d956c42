import WhadLib.Dot15d4.Wrappers
import WhadLib.Esb.Faithful

/-! Which messages of the 802.15.4 domain the wrapper classes leave as they were. -/
namespace WhadLib.Dot15d4
open Library Cpp
open Esb.Wrapper (jammed_kept_iff storeOptional_same)

/-- The wrapper classes. -/
inductive Dot15d4Wrapper
  | coordMode | endDeviceMode | jamMode | jammed | mitmMode | energyDetect | energySample | pduReceived
  | rawPduReceived | routerMode | sendPdu | sendRawPdu | setNodeAddress | sniffMode
  deriving DecidableEq, Repr

namespace Dot15d4Wrapper

def wrapperClass : Dot15d4Wrapper → WrapperClass
  | .coordMode => Wrapper.coordMode
  | .endDeviceMode => Wrapper.endDeviceMode
  | .jamMode => Wrapper.jamMode
  | .jammed => Wrapper.jammed
  | .mitmMode => Wrapper.mitmMode
  | .energyDetect => Wrapper.energyDetect
  | .energySample => Wrapper.energySample
  | .pduReceived => Wrapper.pduReceived
  | .rawPduReceived => Wrapper.rawPduReceived
  | .routerMode => Wrapper.routerMode
  | .sendPdu => Wrapper.sendPdu
  | .sendRawPdu => Wrapper.sendRawPdu
  | .setNodeAddress => Wrapper.setNodeAddress
  | .sniffMode => Wrapper.sniffMode

end Dot15d4Wrapper

/-- The messages that a class leaves as they were. -/
def Dot15d4Wrapper.Keeps : Dot15d4Wrapper → FullMessage → Prop
  | .jammed, m => (Jammed.timestamp (m.msg (.dot15d4 .jammed))).toNat < 2^32
  | .energySample, m => (EnergyDetectionSample.timestamp (m.msg (.dot15d4 .edSample))).toNat < 2^32
  -- the link quality is read where that of a raw packet lies
  | .pduReceived, m =>
    let p : PduReceived := m.msg (.dot15d4 .pdu)
    (p.timestamp.has = true → p.timestamp.value.toNat < 2^32) ∧
      (RawPduReceived.lqi (m.msg (.dot15d4 .rawPdu))).Same p.lqi
  | .rawPduReceived, _ => False
  | .sendRawPdu, _ => False
  | _, _ => True

namespace Wrapper
variable {m : FullMessage}

theorem energySample_faithful_iff (hown : m.Holds (.dot15d4 .edSample)) :
    energySample.Faithful m ↔ Dot15d4Wrapper.energySample.Keeps m := by
  let p : EnergyDetectionSample := m.msg (.dot15d4 .edSample)
  refine (WrapperClass.unpacking_faithful_iff hown (fun _ => rfl) (fun _ => rfl)).trans ?_
  constructor
  · intro h
    exact (toUInt32_toUInt64_iff p.timestamp).mp (h default).2.1
  · intro h _
    have hback := (toUInt32_toUInt64_iff p.timestamp).mpr h
    refine ⟨?_,hback,rfl⟩
    simp only [Kind.wire, Dot15d4Kind.wire, EnergyDetectionSample.wire]
    rw [hback]

/-- The builder changes nothing. -/
theorem setNodeAddress_faithful : setNodeAddress.Faithful m := by
  rintro s m₁ o ⟨rfl⟩
  exact ⟨⟨m,rfl,sameWire_refl m⟩,rfl,rfl⟩

/-! Packets to send. -/

theorem loadSend_spec (channel fcs : UInt32) {x : BytesArray 255} (s : Dot15d4SendParams) (h : x.size ≤ 255) :
    ∃ bytes, loadSend channel x fcs s = done ⟨channel,⟨bytes,x.size⟩,fcs⟩ ∧
      (bufferOf bytes).take x.size = (bufferOf x.bytes).take x.size := by
  obtain ⟨bytes,hbytes,htake⟩ := exists_memcpy s.packet.bytes (bufferOf x.bytes) h
  have hmax : ¬255 < x.size := by omega
  refine ⟨bytes,(if_neg hmax).trans ?_,htake⟩
  rw [hbytes]
  rfl

/-- The builder stores a channel, and bytes that fit. -/
theorem storeSend_isSome (channel : UInt32) (src : Buffer) (length : ℤ) (p : SendCmd) :
    ∃ r q, storeSend channel src length p = some (r,q) := by
  by_cases h : 0 ≤ length ∧ length ≤ 255
  · obtain ⟨z,hz⟩ := p.pdu.exists_fill src h.1 h.2
    exact ⟨.success,_,(if_pos h).trans (congrArg (fun filled => Option.bind filled _) hz)⟩
  · exact ⟨.error,_,if_neg h⟩

section
attribute [local irreducible] FullMessage.build

theorem sendPdu_faithful (hm : Decoded m) (hown : m.Holds (.dot15d4 .send)) : sendPdu.Faithful m := by
  let p : SendCmd := m.msg (.dot15d4 .send)
  have hsize : p.pdu.size ≤ 255 := (accepted_bytes_iff _).mp (hm.accepted _ hown).2.1
  refine (WrapperClass.faithful_iff_of (c := sendPdu) hown (default : Dot15d4SendParams) fun s => ?_).mpr trivial
  obtain ⟨bytes,hloaded,htake⟩ := loadSend_spec p.channel 0 s hsize
  have hparsed : parsedBy (whadDot15d4SendParse (some m) (some s)) = some ⟨p.channel,⟨bytes,p.pdu.size⟩,0⟩ :=
    parsedBy_parse hloaded
  obtain ⟨pdu,hpdu⟩ := Packet.setBytes_of_le (n := 255) (bufferOf bytes) hsize
  have hreads : ReadsAs p.pdu pdu.getBytes pdu.getSize := (readsAs_of_take hsize htake).setBytes hpdu
  obtain ⟨z,hz,-,hvalue⟩ := hreads.fill (by omega) p.pdu
  refine ⟨⟨p.channel,pdu⟩,⟨p.channel,z⟩,?_,?_,iff_of_true ⟨?_,rfl,hreads⟩ trivial⟩
  · simp only [sendPdu, hparsed, Option.bind_eq_bind, Option.bind_some, hpdu]
  · have hbounds : 0 ≤ pdu.getSize ∧ pdu.getSize ≤ 255 := by
      rw [hreads.size]
      omega
    refine packed_build (r := .success) ((if_pos hbounds).trans ?_)
    exact congrArg (fun filled => Option.bind filled _) hz
  · simp only [sendPdu, Kind.wire, Dot15d4Kind.wire, SendCmd.wire, hvalue]
    rfl

/-- The tag becomes that of `send`. -/
theorem sendRawPdu_not_faithful (hm : Decoded m) (hown : m.Holds (.dot15d4 .sendRaw)) : ¬sendRawPdu.Faithful m := by
  let p : SendRawCmd := m.msg (.dot15d4 .sendRaw)
  have hsize : p.pdu.size ≤ 255 := (accepted_bytes_iff _).mp (hm.accepted _ hown).2.1
  obtain ⟨bytes,hloaded,htake⟩ := loadSend_spec p.channel p.fcs (default : Dot15d4SendParams) hsize
  have hparsed : parsedBy (whadDot15d4SendRawParse (some m) (some default)) = some ⟨p.channel,⟨bytes,p.pdu.size⟩,p.fcs⟩ :=
    parsedBy_parse hloaded
  obtain ⟨pdu,hpdu⟩ := Packet.setBytes_of_le (n := 255) (bufferOf bytes) hsize
  obtain ⟨r,q,hq⟩ := storeSend_isSome p.channel pdu.getBytes pdu.getSize (m.msg (.dot15d4 .send))
  have hc : sendRawPdu.construct m (default : Dot15d4SendParams) = some (m,⟨p.channel,pdu,p.fcs⟩) := by
    simp only [sendRawPdu, hparsed, Option.bind_eq_bind, Option.bind_some, hpdu]
  exact WrapperClass.not_faithful_of_tag (k := .dot15d4 .send) hown hc (packed_build hq) (by decide)

end

/-! Received packets. -/

/-- The members of an object carry what the parser reads, with the lower half of the timestamp. -/
structure Loaded (p : RawPduReceived) (o : Received) : Prop where
  channel : o.channel = p.channel
  pdu : ReadsAs p.pdu o.pdu.getBytes o.pdu.getSize
  rssi : o.rssi.Same p.rssi
  timestamp : o.timestamp.Same ⟨p.timestamp.has,p.timestamp.value.toUInt32⟩
  fcsValidity : o.fcsValidity.Same p.fcsValidity
  lqi : o.lqi.Same p.lqi

/-- What the parsers write carries a received packet, with the lower half of the timestamp. -/
structure Fetched (p : RawPduReceived) (params : Dot15d4RecvdPacket) : Prop where
  channel : params.channel = p.channel
  packet : ReadsAs p.pdu (bufferOf params.packet.bytes) params.packet.length
  rssi : params.rssi.Same p.rssi
  timestamp : params.timestamp.Same ⟨p.timestamp.has,p.timestamp.value.toUInt32⟩
  fcsValidity : params.fcsValidity.Same p.fcsValidity
  lqi : params.lqi.Same p.lqi

/-- The FCS is left to what lies in memory. -/
theorem loadRecvdPacket_spec {p : RawPduReceived} (h : p.pdu.size ≤ 255) (s : Dot15d4RecvdPacket) :
    ∃ params, loadRecvdPacket p s = done params ∧ Fetched p params ∧ params.fcs = s.fcs := by
  obtain ⟨bytes,hbytes,htake⟩ := exists_memcpy s.packet.bytes (bufferOf p.pdu.bytes) h
  let params : Dot15d4RecvdPacket := { s with
    channel := p.channel, packet := ⟨bytes,p.pdu.size⟩, rssi := loadOptional s.rssi p.rssi id
    timestamp := loadOptional s.timestamp p.timestamp UInt64.toUInt32
    fcsValidity := loadOptional s.fcsValidity p.fcsValidity id, lqi := loadOptional s.lqi p.lqi id }
  refine ⟨params,?_,?_,rfl⟩
  · simp only [loadRecvdPacket, hbytes]
    rfl
  · exact {
      channel := rfl
      packet := readsAs_of_take h htake
      rssi := loadOptional_same _ p.rssi id
      timestamp := loadOptional_same _ p.timestamp UInt64.toUInt32
      fcsValidity := loadOptional_same _ p.fcsValidity id
      lqi := loadOptional_same _ p.lqi id }

/-- An object takes all of it over. -/
theorem ofParams_spec {p : RawPduReceived} {params : Dot15d4RecvdPacket} (h : Fetched p params) :
    ∃ o, Received.ofParams params = some o ∧ Loaded p o ∧ o.fcs = params.fcs := by
  obtain ⟨pdu,hpdu⟩ := Packet.setBytes_of_le (n := 255) (bufferOf params.packet.bytes) h.packet.bounded
  rw [← h.packet.size] at hpdu
  have hreads := h.packet.setBytes hpdu
  obtain ⟨copied,hcopied⟩ := Packet.setBytes_of_le (n := 255) pdu.getBytes h.packet.bounded
  rw [← hreads.size] at hcopied
  refine ⟨⟨params.channel,copied,added params.timestamp 0,params.fcs,added params.rssi 0,
    added params.fcsValidity false,added params.lqi 0⟩,?_,?_,rfl⟩
  · simp only [Received.ofParams, hpdu, Option.bind_eq_bind, Option.bind_some, hcopied]
  · exact {
      channel := h.channel
      pdu := hreads.setBytes hcopied
      rssi := same_trans (added_same _ 0) h.rssi
      timestamp := same_trans (added_same _ 0) h.timestamp
      fcsValidity := same_trans (added_same _ false) h.fcsValidity
      lqi := same_trans (added_same _ 0) h.lqi }

/-- What an object holds after both. -/
theorem load_spec {p : RawPduReceived} (h : p.pdu.size ≤ 255) (s : Dot15d4RecvdPacket) :
    ∃ params o, loadRecvdPacket p s = done params ∧ Received.ofParams params = some o ∧ Loaded p o ∧ o.fcs = s.fcs := by
  obtain ⟨params,hparams,hfetched,hfcs⟩ := loadRecvdPacket_spec h s
  obtain ⟨o,ho,hloaded,hofcs⟩ := ofParams_spec hfetched
  exact ⟨params,o,hparams,ho,hloaded,hofcs.trans hfcs⟩

theorem rawPduReceived_not_faithful (hm : Decoded m) (hown : m.Holds (.dot15d4 .rawPdu)) : ¬rawPduReceived.Faithful m := by
  let p : RawPduReceived := m.msg (.dot15d4 .rawPdu)
  have hsize : p.pdu.size ≤ 255 := (accepted_bytes_iff _).mp (hm.accepted _ hown).2.2.2.2.1
  let s : Dot15d4RecvdPacket := { (default : Dot15d4RecvdPacket) with fcs := p.fcs+1 }
  obtain ⟨params,o,hparams,ho,-,hfcs⟩ := load_spec hsize s
  have hparsed : parsedBy (whadDot15d4PduReceivedParse (some m) (some s)) = some params := parsedBy_parse hparams
  have hc : rawPduReceived.construct m s = some (m,o) := by
    simp only [rawPduReceived, receiving, hparsed, Option.bind_eq_bind, Option.bind_some, ho]
  refine WrapperClass.not_faithful_of_shows hc ?_
  rintro ⟨-,-,-,-,-,-,-,hshown⟩
  exact absurd (show p.fcs+1 = p.fcs from hfcs.symm.trans hshown) (by simp)

theorem storeLqi_same {given x : OptionalField UInt32} (h : given.Same x) : (storeLqi given).Same x :=
  same_trans (added_same given 0) h

theorem same_iff_value (x y : OptionalField UInt32) : x.Same y ↔ value x = value y := by
  rw [value_optional_iff]
  simp only [value_uint32_inj, OptionalField.Same, OptionalField.Shown]

section
attribute [local irreducible] FullMessage.build

theorem pduReceived_faithful_iff (hm : Decoded m) (hown : m.Holds (.dot15d4 .pdu)) :
    pduReceived.Faithful m ↔ Dot15d4Wrapper.pduReceived.Keeps m := by
  let p : PduReceived := m.msg (.dot15d4 .pdu)
  let raw : RawPduReceived := m.msg (.dot15d4 .rawPdu)
  have hhead : SameHead raw p := hm.dot15d4
  have hsize : raw.pdu.size ≤ 255 := by
    rw [hhead.pdu]
    exact (accepted_bytes_iff _).mp (hm.accepted _ hown).2.2.2.2.1
  refine WrapperClass.faithful_iff_of (c := pduReceived) hown (default : Dot15d4RecvdPacket) fun s => ?_
  obtain ⟨params,o,hparams,ho,hloaded,-⟩ := load_spec hsize s
  have hparsed : parsedBy (whadDot15d4PduReceivedParse (some m) (some s)) = some params := parsedBy_parse hparams
  obtain ⟨z,hz,-,hvalue⟩ := hloaded.pdu.copyOf.fill (by omega) p.pdu
  let q : PduReceived := {
    channel := o.channel, pdu := z, rssi := Esb.storeOptional o.rssi id p.rssi
    timestamp := Esb.storeOptional o.timestamp UInt32.toUInt64 p.timestamp
    fcsValidity := Esb.storeOptional o.fcsValidity id p.fcsValidity, lqi := storeLqi o.lqi }
  refine ⟨o,q,?_,?_,?_⟩
  · simp only [pduReceived, receiving, hparsed, Option.bind_eq_bind, Option.bind_some, ho]
  · exact packed_build (congrArg (fun filled => Option.bind filled _) hz)
  · obtain ⟨hchannel,hpdu,hrssi,htimestamp,hfcsValidity,hlqi⟩ := hloaded
    rw [hhead.channel] at hchannel
    rw [hhead.pdu] at hpdu hvalue
    rw [hhead.rssi] at hrssi
    rw [hhead.timestamp] at htimestamp
    rw [hhead.fcsValidity] at hfcsValidity
    have hrssiValue : value (Esb.storeOptional o.rssi id p.rssi) = value p.rssi :=
      value_of_same (storeOptional_same id _ hrssi)
    have hfcsValue : value (Esb.storeOptional o.fcsValidity id p.fcsValidity) = value p.fcsValidity :=
      value_of_same (storeOptional_same id _ hfcsValidity)
    have hwire : Kind.wire (.dot15d4 .pdu) q = Kind.wire (.dot15d4 .pdu) p ↔ Dot15d4Wrapper.pduReceived.Keeps m := by
      simp only [Kind.wire, Dot15d4Kind.wire, PduReceived.wire, q, hchannel, hvalue, hrssiValue, hfcsValue,
        value_of_same (storeLqi_same hlqi), Wire.field.injEq, true_and, and_true]
      rw [value_half_iff (storeOptional_same UInt32.toUInt64 p.timestamp htimestamp), ← same_iff_value]
      rfl
    constructor
    · rintro ⟨h,-⟩
      exact hwire.mp h
    · intro hkept
      refine ⟨hwire.mpr hkept,hchannel,hpdu,hrssi,hfcsValidity,same_trans hlqi hkept.2,htimestamp.1,fun hhas => ?_⟩
      have hback := (toUInt32_toUInt64_iff _).mpr (hkept.1 hhas)
      rw [htimestamp.2 hhas]
      exact hback

end
end Wrapper

section
open Wrapper
variable {m : FullMessage}

/-- A class leaves the messages as they were that it keeps, and no others. -/
theorem dot15d4Wrapper_faithful_iff (w : Dot15d4Wrapper) (hm : Decoded m) (hown : m.Holds w.wrapperClass.kind) :
    w.wrapperClass.Faithful m ↔ w.Keeps m := by
  cases w
  case jammed =>
    exact (WrapperClass.unpacking_faithful_iff hown (fun _ => rfl) (fun _ => rfl)).trans (jammed_kept_iff _)
  case energySample => exact energySample_faithful_iff hown
  case pduReceived => exact pduReceived_faithful_iff hm hown
  -- classes that break every message
  case rawPduReceived => exact iff_of_false (rawPduReceived_not_faithful hm hown) id
  case sendRawPdu => exact iff_of_false (sendRawPdu_not_faithful hm hown) id
  -- classes that break none
  all_goals refine iff_of_true ?_ trivial
  case sendPdu => exact sendPdu_faithful hm hown
  case setNodeAddress => exact setNodeAddress_faithful
  case coordMode => exact WrapperClass.unpacking_faithful hown (fun _ => rfl) (fun _ => rfl) fun _ => ⟨rfl,rfl⟩
  case endDeviceMode => exact WrapperClass.unpacking_faithful hown (fun _ => rfl) (fun _ => rfl) fun _ => ⟨rfl,rfl⟩
  case jamMode => exact WrapperClass.unpacking_faithful hown (fun _ => rfl) (fun _ => rfl) fun _ => ⟨rfl,rfl⟩
  case mitmMode => exact WrapperClass.unpacking_faithful hown (fun _ => rfl) (fun _ => rfl) fun _ => ⟨rfl,rfl⟩
  case energyDetect => exact WrapperClass.unpacking_faithful hown (fun _ => rfl) (fun _ => rfl) fun _ => ⟨rfl,rfl⟩
  case routerMode => exact WrapperClass.unpacking_faithful hown (fun _ => rfl) (fun _ => rfl) fun _ => ⟨rfl,rfl⟩
  case sniffMode => exact WrapperClass.unpacking_faithful hown (fun _ => rfl) (fun _ => rfl) fun _ => ⟨rfl,rfl⟩

end
end WhadLib.Dot15d4
