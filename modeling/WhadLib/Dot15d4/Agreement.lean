import WhadLib.Agreement
import WhadLib.Dot15d4.Parsers

/-! The parsers of the 802.15.4 domain look at the visible fields of their member only, but for the one of
received packets, which reads the member of raw packets. -/
namespace WhadLib.Dot15d4
open Library

/-- A parser says the same of two messages. -/
def Dot15d4Parser.ReadsAlike : Dot15d4Parser → FullMessage → FullMessage → Prop
  | .setNodeAddress pAddr => WhadLib.ReadsAlike (whadDot15d4SetNodeAddressParse · pAddr)
  | .sniff pChannel => WhadLib.ReadsAlike (whadDot15d4SniffParse · pChannel)
  | .jam pChannel => WhadLib.ReadsAlike (whadDot15d4JamParse · pChannel)
  | .energyDetect pChannel => WhadLib.ReadsAlike (whadDot15d4EnergyDetectParse · pChannel)
  | .send pParams => WhadLib.ReadsAlike (whadDot15d4SendParse · pParams)
  | .sendRaw pParams => WhadLib.ReadsAlike (whadDot15d4SendRawParse · pParams)
  | .endDeviceMode pChannel => WhadLib.ReadsAlike (whadDot15d4EndDeviceModeParse · pChannel)
  | .routerMode pChannel => WhadLib.ReadsAlike (whadDot15d4RouterModeParse · pChannel)
  | .coordMode pChannel => WhadLib.ReadsAlike (whadDot15d4CoordModeParse · pChannel)
  | .mitmMode pRole => WhadLib.ReadsAlike (whadDot15d4MitmModeParse · pRole)
  | .jammed pTimestamp => WhadLib.ReadsAlike (whadDot15d4JammedParse · pTimestamp)
  | .energyDetectSample pSample => WhadLib.ReadsAlike (whadDot15d4EnergyDetectSampleParse · pSample)
  | .rawPduReceived pPacket => WhadLib.ReadsAlike (whadDot15d4RawPduReceivedParse · pPacket)
  | .pduReceived pPacket => WhadLib.ReadsAlike (whadDot15d4PduReceivedParse · pPacket)

/-- The message shows all that a parser reads of it. -/
def Dot15d4Parser.Shown : Dot15d4Parser → Prop
  | .pduReceived _ => False
  | _ => True

theorem loadSend_congr {x y : BytesArray 255} (h : value x = value y) (hx : x.size ≤ 255) (channel fcs : UInt32)
    (s : Dot15d4SendParams) : loadSend channel x fcs s = loadSend channel y fcs s := by
  obtain ⟨hsize,htake⟩ := value_bytes_eq h hx
  simp only [loadSend, hsize, memcpy_congr htake]

theorem loadRecvdPacket_congr {p q : RawPduReceived} (h : p.wire = q.wire) (hacc : p.wire.Accepted)
    (s : Dot15d4RecvdPacket) : loadRecvdPacket p { s with fcs := p.fcs } = loadRecvdPacket q { s with fcs := q.fcs } := by
  simp [RawPduReceived.wire] at h
  obtain ⟨hchannel,hrssi,htimestamp,hvalidity,hpdu,hfcs,hlqi⟩ := h
  obtain ⟨hsize,htake⟩ := value_bytes_eq hpdu ((accepted_bytes_iff _).mp hacc.2.2.2.2.1)
  simp only [loadRecvdPacket, hchannel, hfcs, hsize, memcpy_congr htake, loadOptional_congr value_int32_inj hrssi,
    loadOptional_congr value_uint64_inj htimestamp, loadOptional_congr value_bool_inj hvalidity,
    loadOptional_congr value_uint32_inj hlqi]

section
variable {m m' : FullMessage}

theorem dot15d4Parser_readsAlike (c : Dot15d4Parser) (hshown : c.Shown)
    (h : c.kind.wire (m.msg c.kind) = c.kind.wire (m'.msg c.kind)) (hacc : (c.kind.wire (m.msg c.kind)).Accepted) :
    c.ReadsAlike m m' := by
  cases c
  case pduReceived => exact hshown.elim
  case send s =>
    simp [Dot15d4Parser.kind, Kind.wire, Dot15d4Kind.wire, SendCmd.wire] at h
    have hload := loadSend_congr h.2 ((accepted_bytes_iff _).mp hacc.2.1)
    exact readsAlike_of_body fun s => by simp only [h.1, hload]
  case sendRaw s =>
    simp [Dot15d4Parser.kind, Kind.wire, Dot15d4Kind.wire, SendRawCmd.wire] at h
    have hload := loadSend_congr h.2.1 ((accepted_bytes_iff _).mp hacc.2.1)
    exact readsAlike_of_body fun s => by simp only [h.1, h.2.2, hload]
  case rawPduReceived s => exact readsAlike_of_body (loadRecvdPacket_congr h hacc)
  -- the others read whole fields only
  all_goals
    simp [Dot15d4Parser.kind, Kind.wire, Dot15d4Kind.wire, SetNodeAddressCmd.wire, ChannelCmd.wire,
      ManInTheMiddleCmd.wire, Jammed.wire, EnergyDetectionSample.wire] at h
    exact readsAlike_of_read fun s => by simp only [h]

end
end WhadLib.Dot15d4
