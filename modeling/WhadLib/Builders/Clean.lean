import WhadLib.Ble.NoLeak

/-! What the builders of the other domains leave of the message they are given, and all of them. -/
namespace WhadLib
open Library

/- A builder is compared with its member and its body, not with what setting both comes to. -/
attribute [local irreducible] FullMessage.build

namespace Phy

/-- A copy from a pointer that need not be there hides the old bytes too. -/
theorem value_fillFrom {n : ℕ} {x x' y y' : BytesArray n} {src : Option Buffer} {length : ℤ}
    (h : fillFrom x src length = some y) (h' : fillFrom x' src length = some y') (hn : n < 65536) :
    value y = value y' := by
  cases src with
  | some src => rw [value_fill h hn, value_fill h' hn]
  | none =>
    simp only [fillFrom] at h h'
    split at h
    · rename_i hlen
      simp only [hlen, if_true, Option.some.injEq] at h h'
      obtain rfl := h
      obtain rfl := h'
      exact value_sized_iff.mpr (.inl rfl) x.bytes x'.bytes
    · exact nomatch h

theorem phyBuilder_noLeak (b : PhyBuilder) : NoLeak b.run := by
  cases b
  case setSyncWord pSyncword length =>
    cases pSyncword with
    | none => exact noLeak_of_refuse fun _ => rfl
    | some src =>
      by_cases h : 10 < length
      · exact noLeak_of_refuse fun _ => if_pos h
      · refine noLeak_of_fill (by decide) (fun _ => if_neg h) fun p q x y hxy => ?_
        simp only [Kind.wire, PhyKind.wire, SetSyncWordCmd.wire, hxy]
  case send pPacket length =>
    cases pPacket with
    | none => exact noLeak_of_refuse fun _ => rfl
    | some src =>
      by_cases h : 255 < length
      · exact noLeak_of_refuse fun _ => if_pos h
      · refine noLeak_of_fill (by decide) (fun _ => if_neg h) fun p q x y hxy => ?_
        simp only [Kind.wire, PhyKind.wire, SendCmd.wire, hxy]
  case sendRawIq pIqStream length =>
    cases pIqStream with
    | none => exact noLeak_of_refuse fun _ => rfl
    | some src =>
      by_cases h : 255 < length
      · exact noLeak_of_refuse fun _ => if_pos h
      · exact noLeak_of_never (fun _ => if_neg h) (by simp [failed])
  case supportedFrequencies allocated pRanges nbRanges =>
    cases pRanges with
    | none => exact noLeak_of_refuse fun _ => rfl
    | some =>
      cases allocated with
      | none => exact noLeak_of_refuse fun _ => rfl
      | some =>
        rw [noLeak_build_iff (fun _ => rfl)]
        simp only [bind, done, Option.bind_eq_some_iff, Option.some.injEq, Prod.mk.injEq, true_and]
        rintro p q p' q' ⟨_,-,rfl⟩ ⟨_,-,rfl⟩
        rfl
  case schedPacket pPacket length tsSec tsUsec =>
    cases pPacket with
    | none => exact noLeak_of_refuse fun _ => rfl
    | some src =>
      by_cases h : 255 < length
      · exact noLeak_of_refuse fun _ => if_pos h
      · refine noLeak_of_fill (by decide) (fun _ => if_neg h) fun p q x y hxy => ?_
        simp only [Kind.wire, PhyKind.wire, ScheduleSendCmd.wire, hxy]
  case packetReceived payload length syncword syncwordLength _ _ _ _ =>
    cases payload with
    | none => exact noLeak_of_refuse fun _ => rfl
    | some src =>
      rw [noLeak_build_iff (fun _ => rfl)]
      simp only [bind, done, Option.bind_eq_some_iff, Option.some.injEq, Prod.mk.injEq, true_and]
      rintro p q p' q' ⟨packet,hpacket,word,hword,rfl⟩ ⟨packet',hpacket',word',hword',rfl⟩
      simp only [Kind.wire, PhyKind.wire, PacketReceived.wire, value_fill hpacket (by decide),
        value_fill hpacket' (by decide), value_fillFrom hword hword' (by decide)]
  case packetScheduled id full =>
    refine noLeak_of_assign (fun _ => rfl) ?_
    intro p q
    cases full <;> rfl
  all_goals exact noLeak_of_assign (fun _ => rfl) (by exact fun _ _ => rfl)

/-- The fields of the optional arguments that are not given. -/
def PhyBuilder.absent : PhyBuilder → List ℕ
  | .packetReceived _ _ tsSec tsUsec _ _ _ _ _ _ _ _ => missing (0 < tsSec ∨ 0 < tsUsec) 3
  | .packetScheduled _ full => missing full 2
  | _ => []

theorem phyBuilder_clean (b : PhyBuilder) : Clean b.run b.absent := by
  have hno := phyBuilder_noLeak b
  cases b
  case packetReceived rssi tsSec tsUsec payload _ _ _ _ _ _ _ =>
    cases payload with
    | none => exact clean_of_refuse fun _ => rfl
    | some src =>
      refine hno.clean_build (fun _ => rfl) fun p p' hp tag htag => ?_
      simp only [bind, done, Option.bind_eq_some_iff, Option.some.injEq, Prod.mk.injEq, true_and] at hp
      obtain ⟨packet,-,word,-,rfl⟩ := hp
      obtain ⟨hts,rfl⟩ := mem_missing.mp htag
      rw [decide_eq_false_iff_not] at hts
      simp [Kind.wire, PhyKind.wire, PacketReceived.wire, Wire.Hides, hts]
  case packetScheduled id full =>
    refine hno.clean_build (fun _ => rfl) fun p p' hp tag htag => ?_
    simp only [done, Option.some.injEq, Prod.mk.injEq, true_and] at hp
    obtain rfl := hp
    obtain ⟨rfl,rfl⟩ := mem_missing.mp htag
    simp [Kind.wire, PhyKind.wire, SchedulePacketResp.wire, Wire.Hides]
  all_goals exact hno.clean

end Phy

namespace Esb

/-- A value that is not given is not visible. -/
theorem value_storeOptional {α β : Type} [FieldValue β] (given : OptionalField α) (convert : α → β)
    (x y : OptionalField β) : value (storeOptional given convert x) = value (storeOptional given convert y) := by
  unfold storeOptional
  split <;> rfl

section
variable {run : Option FullMessage → Outcome}

theorem wire_storeNodeAddress {addr : EsbAddress} {p q p' q' : SetNodeAddressCmd}
    (hp : storeNodeAddress addr p = some (.success, p')) (hq : storeNodeAddress addr q = some (.success, q')) :
    p'.wire = q'.wire := by
  unfold storeNodeAddress at hp hq
  split at hp
  · rename_i h
    simp only [h, if_true, bind, done, Option.bind_eq_some_iff, Option.some.injEq, Prod.mk.injEq, true_and] at hp hq
    obtain ⟨x,hx,rfl⟩ := hp
    obtain ⟨y,hy,rfl⟩ := hq
    simp only [SetNodeAddressCmd.wire, value_fill hx (by decide), value_fill hy (by decide)]
  · simp [failed] at hp

theorem wire_storeSniff {addr : EsbAddress} {channel : UInt32} {showAck : Bool} {p q p' q' : SniffCmd}
    (hp : storeSniff addr channel showAck p = some (.success, p'))
    (hq : storeSniff addr channel showAck q = some (.success, q')) : p'.wire = q'.wire := by
  simp only [storeSniff, bind, done, Option.bind_eq_some_iff, Option.some.injEq, Prod.mk.injEq, true_and] at hp hq
  obtain ⟨x,hx,rfl⟩ := hp
  obtain ⟨y,hy,rfl⟩ := hq
  simp only [SniffCmd.wire, value_fill hx (by decide), value_fill hy (by decide)]

theorem wire_storeSend {channel : UInt32} {retrCount : ℤ} {src : Buffer} {packetLen : UInt8} {p q p' q' : SendCmd}
    (hp : storeSend channel retrCount src packetLen p = some (.success, p'))
    (hq : storeSend channel retrCount src packetLen q = some (.success, q')) : p'.wire = q'.wire := by
  simp only [storeSend, bind, done, Option.bind_eq_some_iff, Option.some.injEq, Prod.mk.injEq, true_and] at hp hq
  obtain ⟨x,hx,rfl⟩ := hp
  obtain ⟨y,hy,rfl⟩ := hq
  simp only [SendCmd.wire, value_fill hx (by decide), value_fill hy (by decide)]

theorem wire_storeRecvdPacket {pdu : EsbRecvdPacket} {p q p' q' : PduReceived}
    (hp : storeRecvdPacket pdu p = some (.success, p')) (hq : storeRecvdPacket pdu q = some (.success, q')) :
    p'.wire = q'.wire := by
  simp only [storeRecvdPacket, bind, Option.bind_eq_some_iff] at hp hq
  obtain ⟨x,hx,hp⟩ := hp
  obtain ⟨y,hy,hq⟩ := hq
  have hpdu : value x = value y := by rw [value_fill hx (by decide), value_fill hy (by decide)]
  have hrssi := value_storeOptional pdu.rssi id p.rssi q.rssi
  have htimestamp := value_storeOptional pdu.timestamp UInt32.toUInt64 p.timestamp q.timestamp
  have hcrc := value_storeOptional pdu.crcValidity id p.crcValidity q.crcValidity
  by_cases haddr : pdu.address.has = true
  · by_cases hsize : 5 < pdu.address.value.size
    · simp [haddr, hsize, failed] at hp
    · simp only [haddr, hsize, if_true, if_false, done, Option.bind_eq_some_iff, Option.some.injEq,
        Prod.mk.injEq, true_and] at hp hq
      obtain ⟨a,ha,rfl⟩ := hp
      obtain ⟨b,hb,rfl⟩ := hq
      simp only [PduReceived.wire, hpdu, hrssi, htimestamp, hcrc, value_optional_some, value_fill ha (by decide),
        value_fill hb (by decide)]
  · simp only [haddr, Bool.false_eq_true, if_false, done, Option.some.injEq, Prod.mk.injEq, true_and] at hp hq
    obtain rfl := hp
    obtain rfl := hq
    simp only [PduReceived.wire, hpdu, hrssi, htimestamp, hcrc]

theorem esbBuilder_noLeak (b : EsbBuilder) : NoLeak b.run := by
  cases b
  case setNodeAddress pAddr =>
    cases pAddr with
    | none => exact noLeak_of_refuse fun _ => rfl
    | some => exact (noLeak_build_iff fun _ => rfl).mpr fun _ _ _ _ => wire_storeNodeAddress
  case sniff pAddr channel showAck =>
    cases pAddr with
    | none => exact noLeak_of_refuse fun _ => rfl
    | some addr =>
      by_cases h : 5 < addr.size
      · exact noLeak_of_refuse fun _ => if_pos h
      · exact (noLeak_build_iff fun _ => if_neg h).mpr fun _ _ _ _ => wire_storeSniff
  case send channel retrCount pPacket packetLen =>
    cases pPacket with
    | none => exact noLeak_of_refuse fun _ => rfl
    | some => exact (noLeak_build_iff fun _ => rfl).mpr fun _ _ _ _ => wire_storeSend
  case sendRaw channel retrCount pPacket packetLen =>
    cases pPacket with
    | none => exact noLeak_of_refuse fun _ => rfl
    | some => exact (noLeak_build_iff fun _ => rfl).mpr fun _ _ _ _ => wire_storeSend
  case rawPduReceived pPdu =>
    cases pPdu with
    | none => exact noLeak_of_refuse fun _ => rfl
    | some => exact (noLeak_build_iff fun _ => rfl).mpr fun _ _ _ _ => wire_storeRecvdPacket
  case pduReceived pPdu =>
    cases pPdu with
    | none => exact noLeak_of_refuse fun _ => rfl
    | some => exact (noLeak_build_iff fun _ => rfl).mpr fun _ _ _ _ => wire_storeRecvdPacket
  all_goals exact noLeak_of_assign (fun _ => rfl) (by exact fun _ _ => rfl)

/-- The fields of what a received packet lacks. -/
def EsbRecvdPacket.absent (pdu : EsbRecvdPacket) : List ℕ :=
  missing pdu.rssi.has 2 ++ missing pdu.timestamp.has 3 ++ missing pdu.crcValidity.has 4 ++ missing pdu.address.has 5

theorem storeOptional_absent {α β : Type} [FieldValue β] {given : OptionalField α} (h : given.has = false)
    (convert : α → β) (x : OptionalField β) : value (storeOptional given convert x) = .absent := by
  simp [storeOptional, h, value]

theorem hides_storeRecvdPacket {pdu : EsbRecvdPacket} {p p' : PduReceived} {tag : ℕ}
    (hp : storeRecvdPacket pdu p = some (.success, p')) (htag : tag ∈ pdu.absent) : p'.wire.Hides tag := by
  simp only [storeRecvdPacket, bind, Option.bind_eq_some_iff] at hp
  obtain ⟨x,-,hp⟩ := hp
  simp only [EsbRecvdPacket.absent, List.mem_append, mem_missing] at htag
  by_cases haddr : pdu.address.has = true
  · by_cases hsize : 5 < pdu.address.value.size
    · simp [haddr, hsize, failed] at hp
    · simp only [haddr, hsize, if_true, if_false, done, Option.bind_eq_some_iff, Option.some.injEq,
        Prod.mk.injEq, true_and] at hp
      obtain ⟨a,-,rfl⟩ := hp
      rcases htag with ((⟨h,rfl⟩ | ⟨h,rfl⟩) | ⟨h,rfl⟩) | ⟨h,rfl⟩
      · simp [PduReceived.wire, Wire.Hides, storeOptional_absent h]
      · simp [PduReceived.wire, Wire.Hides, storeOptional_absent h]
      · simp [PduReceived.wire, Wire.Hides, storeOptional_absent h]
      · exact absurd haddr (by simp [h])
  · simp only [haddr, Bool.false_eq_true, if_false, done, Option.some.injEq, Prod.mk.injEq, true_and] at hp
    obtain rfl := hp
    rcases htag with ((⟨h,rfl⟩ | ⟨h,rfl⟩) | ⟨h,rfl⟩) | ⟨h,rfl⟩
    · simp [PduReceived.wire, Wire.Hides, storeOptional_absent h]
    · simp [PduReceived.wire, Wire.Hides, storeOptional_absent h]
    · simp [PduReceived.wire, Wire.Hides, storeOptional_absent h]
    · simp [PduReceived.wire, Wire.Hides]

/-- The fields of the optional arguments that are not given. -/
def EsbBuilder.absent : EsbBuilder → List ℕ
  | .rawPduReceived (some pdu) => pdu.absent
  | .pduReceived (some pdu) => pdu.absent
  | _ => []

theorem esbBuilder_clean (b : EsbBuilder) : Clean b.run b.absent := by
  have hno := esbBuilder_noLeak b
  cases b
  case rawPduReceived pPdu =>
    cases pPdu with
    | none => exact clean_of_refuse fun _ => rfl
    | some => exact hno.clean_build (fun _ => rfl) fun _ _ hp _ htag => hides_storeRecvdPacket hp htag
  case pduReceived pPdu =>
    cases pPdu with
    | none => exact clean_of_refuse fun _ => rfl
    | some => exact hno.clean_build (fun _ => rfl) fun _ _ hp _ htag => hides_storeRecvdPacket hp htag
  all_goals exact hno.clean

end
end Esb

namespace Unifying
open Esb (wire_storeNodeAddress wire_storeSniff wire_storeSend wire_storeRecvdPacket hides_storeRecvdPacket)

theorem unifyingBuilder_noLeak (b : UnifyingBuilder) : NoLeak b.run := by
  cases b
  case setNodeAddress pAddr =>
    cases pAddr with
    | none => exact noLeak_of_refuse fun _ => rfl
    | some => exact (noLeak_build_iff fun _ => rfl).mpr fun _ _ _ _ => wire_storeNodeAddress
  case sniff pAddr channel showAck =>
    cases pAddr with
    | none => exact noLeak_of_refuse fun _ => rfl
    | some addr =>
      by_cases h : 5 < addr.size
      · exact noLeak_of_refuse fun _ => if_pos h
      · exact (noLeak_build_iff fun _ => if_neg h).mpr fun _ _ _ _ => wire_storeSniff
  case send channel retrCount pPacket packetLen =>
    cases pPacket with
    | none => exact noLeak_of_refuse fun _ => rfl
    | some => exact (noLeak_build_iff fun _ => rfl).mpr fun _ _ _ _ => wire_storeSend
  case sendRaw channel retrCount pPacket packetLen =>
    cases pPacket with
    | none => exact noLeak_of_refuse fun _ => rfl
    | some => exact (noLeak_build_iff fun _ => rfl).mpr fun _ _ _ _ => wire_storeSend
  case rawPduReceived pPdu =>
    cases pPdu with
    | none => exact noLeak_of_refuse fun _ => rfl
    | some => exact (noLeak_build_iff fun _ => rfl).mpr fun _ _ _ _ => wire_storeRecvdPacket
  case pduReceived pPdu =>
    cases pPdu with
    | none => exact noLeak_of_refuse fun _ => rfl
    | some => exact (noLeak_build_iff fun _ => rfl).mpr fun _ _ _ _ => wire_storeRecvdPacket
  all_goals exact noLeak_of_assign (fun _ => rfl) (by exact fun _ _ => rfl)

/-- The fields of the optional arguments that are not given. -/
def UnifyingBuilder.absent : UnifyingBuilder → List ℕ
  | .rawPduReceived (some pdu) => pdu.absent
  | .pduReceived (some pdu) => pdu.absent
  | _ => []

theorem unifyingBuilder_clean (b : UnifyingBuilder) : Clean b.run b.absent := by
  have hno := unifyingBuilder_noLeak b
  cases b
  case rawPduReceived pPdu =>
    cases pPdu with
    | none => exact clean_of_refuse fun _ => rfl
    | some => exact hno.clean_build (fun _ => rfl) fun _ _ hp _ htag => hides_storeRecvdPacket hp htag
  case pduReceived pPdu =>
    cases pPdu with
    | none => exact clean_of_refuse fun _ => rfl
    | some => exact hno.clean_build (fun _ => rfl) fun _ _ hp _ htag => hides_storeRecvdPacket hp htag
  all_goals exact hno.clean

end Unifying

namespace Dot15d4

theorem wire_storeSend {channel : UInt32} {src : Buffer} {length : ℤ} {p q p' q' : SendCmd}
    (hp : storeSend channel src length p = some (.success, p'))
    (hq : storeSend channel src length q = some (.success, q')) : p'.wire = q'.wire := by
  by_cases h : 0 ≤ length ∧ length ≤ 255
  · simp only [storeSend, h, and_self, if_true, bind, done, Option.bind_eq_some_iff, Option.some.injEq,
      Prod.mk.injEq, true_and] at hp hq
    obtain ⟨x,hx,rfl⟩ := hp
    obtain ⟨y,hy,rfl⟩ := hq
    simp only [SendCmd.wire, value_fill hx (by decide), value_fill hy (by decide)]
  · simp [storeSend, h, failed] at hp

theorem dot15d4Builder_noLeak (b : Dot15d4Builder) : NoLeak b.run := by
  cases b
  case setNodeAddress pAddr =>
    cases pAddr with
    | some => exact noLeak_of_refuse fun _ => rfl
    | none => exact noLeak_of_never (fun _ => rfl) (by simp [bind])
  case send channel pPacket length =>
    cases pPacket with
    | none => exact noLeak_of_refuse fun _ => rfl
    | some => exact (noLeak_build_iff fun _ => rfl).mpr fun _ _ _ _ => wire_storeSend
  case sendRaw channel pPacket length fcs =>
    cases pPacket with
    | none => exact noLeak_of_refuse fun _ => rfl
    | some => exact (noLeak_build_iff fun _ => rfl).mpr fun _ _ _ _ => wire_storeSend
  case rawPduReceived pPacket =>
    cases pPacket with
    | none => exact noLeak_of_refuse fun _ => rfl
    | some packet =>
      refine noLeak_of_fill (by decide) (fun _ => rfl) fun p q x y hxy => ?_
      simp only [Kind.wire, Dot15d4Kind.wire, RawPduReceived.wire, hxy, Esb.value_storeOptional _ _ p.rssi q.rssi,
        Esb.value_storeOptional _ _ p.timestamp q.timestamp, Esb.value_storeOptional _ _ p.fcsValidity q.fcsValidity]
  case pduReceived pPacket =>
    cases pPacket with
    | none => exact noLeak_of_refuse fun _ => rfl
    | some packet =>
      refine noLeak_of_fill (by decide) (fun _ => rfl) fun p q x y hxy => ?_
      simp only [Kind.wire, Dot15d4Kind.wire, PduReceived.wire, hxy, Esb.value_storeOptional _ _ p.rssi q.rssi,
        Esb.value_storeOptional _ _ p.timestamp q.timestamp, Esb.value_storeOptional _ _ p.fcsValidity q.fcsValidity]
  all_goals exact noLeak_of_assign (fun _ => rfl) (by exact fun _ _ => rfl)

/-- The fields of the optional arguments that are not given. -/
def Dot15d4Builder.absent : Dot15d4Builder → List ℕ
  | .rawPduReceived (some packet) => missing packet.rssi.has 2 ++ missing packet.timestamp.has 3 ++
      missing packet.fcsValidity.has 4 ++ missing packet.lqi.has 7
  | .pduReceived (some packet) => missing packet.rssi.has 2 ++ missing packet.timestamp.has 3 ++
      missing packet.fcsValidity.has 4 ++ missing packet.lqi.has 6
  | _ => []

theorem dot15d4Builder_clean (b : Dot15d4Builder) : Clean b.run b.absent := by
  have hno := dot15d4Builder_noLeak b
  cases b
  case rawPduReceived pPacket =>
    cases pPacket with
    | none => exact clean_of_refuse fun _ => rfl
    | some packet =>
      refine hno.clean_build (fun _ => rfl) fun p p' hp tag htag => ?_
      simp only [bind, done, Option.bind_eq_some_iff, Option.some.injEq, Prod.mk.injEq, true_and] at hp
      obtain ⟨x,-,rfl⟩ := hp
      simp only [Dot15d4Builder.absent, List.mem_append, mem_missing] at htag
      rcases htag with ((⟨h,rfl⟩ | ⟨h,rfl⟩) | ⟨h,rfl⟩) | ⟨h,rfl⟩
      · simp [Kind.wire, Dot15d4Kind.wire, RawPduReceived.wire, Wire.Hides, Esb.storeOptional_absent h]
      · simp [Kind.wire, Dot15d4Kind.wire, RawPduReceived.wire, Wire.Hides, Esb.storeOptional_absent h]
      · simp [Kind.wire, Dot15d4Kind.wire, RawPduReceived.wire, Wire.Hides, Esb.storeOptional_absent h]
      · simp [Kind.wire, Dot15d4Kind.wire, RawPduReceived.wire, Wire.Hides, storeLqi, h]
  case pduReceived pPacket =>
    cases pPacket with
    | none => exact clean_of_refuse fun _ => rfl
    | some packet =>
      refine hno.clean_build (fun _ => rfl) fun p p' hp tag htag => ?_
      simp only [bind, done, Option.bind_eq_some_iff, Option.some.injEq, Prod.mk.injEq, true_and] at hp
      obtain ⟨x,-,rfl⟩ := hp
      simp only [Dot15d4Builder.absent, List.mem_append, mem_missing] at htag
      rcases htag with ((⟨h,rfl⟩ | ⟨h,rfl⟩) | ⟨h,rfl⟩) | ⟨h,rfl⟩
      · simp [Kind.wire, Dot15d4Kind.wire, PduReceived.wire, Wire.Hides, Esb.storeOptional_absent h]
      · simp [Kind.wire, Dot15d4Kind.wire, PduReceived.wire, Wire.Hides, Esb.storeOptional_absent h]
      · simp [Kind.wire, Dot15d4Kind.wire, PduReceived.wire, Wire.Hides, Esb.storeOptional_absent h]
      · simp [Kind.wire, Dot15d4Kind.wire, PduReceived.wire, Wire.Hides, storeLqi, h]
  all_goals exact hno.clean

end Dot15d4

/-- Nothing is visible that the arguments do not say, but for the identifier of a device. -/
def DeviceBuilder.Fresh : DeviceBuilder → Prop
  | .discoveryDeviceInfoResp _ devid _ _ _ _ _ _ _ _ => devid = none
  | _ => True

/-- Its last byte is not written. -/
theorem whadDiscoveryDeviceInfoResp_noLeak_iff {deviceType : EnumField DeviceType} {devid : Option (List UInt8)}
    {protoMinVer maxSpeed : UInt32} {fwAuthor fwUrl : Option (List UInt8)}
    {fwVersionMajor fwVersionMinor fwVersionRev : UInt32} {capabilities : List DomainDesc} :
    NoLeak (whadDiscoveryDeviceInfoResp · deviceType devid protoMinVer maxSpeed fwAuthor fwUrl fwVersionMajor
      fwVersionMinor fwVersionRev capabilities) ↔ devid = none := by
  cases devid with
  | none => exact iff_of_true (noLeak_of_never (fun _ => rfl) (by simp [bind])) rfl
  | some devid =>
    refine iff_of_false (fun hleak => ?_) nofun
    let p (b : UInt8) : DeviceInfoResp := { (default : DeviceInfoResp) with devid := Vector.replicate 16 b }
    have hwire := (noLeak_build_iff (fun _ => rfl)).mp hleak (p 0) (p 1) _ _ rfl rfl
    simp only [Kind.wire, DiscoveryKind.wire, DeviceInfoResp.wire, p, value, Wire.field.injEq, true_and, and_true,
      WireValue.fixed.injEq] at hwire
    have hlast := congrArg (fun l => l[15]?) hwire
    simp [strncpy, Vector.get] at hlast

theorem deviceBuilder_noLeak_iff (b : DeviceBuilder) : NoLeak b.run ↔ b.Fresh := by
  cases b
  case discoveryDeviceInfoResp => exact whadDiscoveryDeviceInfoResp_noLeak_iff
  case discoveryDomainInfoResp domain pCapabilities =>
    refine iff_of_true ?_ trivial
    rw [noLeak_build_iff (fun _ => rfl)]
    rintro p q p' q' hp hq
    simp only [bind, done, Option.bind_eq_some_iff, Option.some.injEq, Prod.mk.injEq, true_and] at hp hq
    obtain ⟨c,hc,rfl⟩ := hp
    obtain ⟨c',hc',rfl⟩ := hq
    obtain rfl := Option.some.inj (hc.symm.trans hc')
    rfl
  all_goals exact iff_of_true (noLeak_of_assign (fun _ => rfl) (by exact fun _ _ => rfl)) trivial

/-- The arguments leave nothing of the prior message visible. -/
def Builder.Fresh : Builder → Prop
  | .domain (.ble b) => b.Fresh
  | .device b => b.Fresh
  | _ => True

/-- The fields of the optional arguments that are not given. -/
def DomainBuilder.absent : DomainBuilder → List ℕ
  | .ble b => b.absent
  | .phy b => b.absent
  | .esb b => b.absent
  | .unifying b => b.absent
  | .dot15d4 b => b.absent

def Builder.absent : Builder → List ℕ
  | .domain b => b.absent
  | .device _ => []

namespace Builder

/-- Exactly the calls with fresh arguments show nothing of the prior message, and no absent field. -/
theorem shows_arguments_only_iff (b : Builder) : Clean b.run b.absent ↔ b.Fresh := by
  cases b with
  | domain b =>
    cases b with
    | ble b => exact Ble.bleBuilder_clean_iff b
    | phy b => exact iff_of_true (Phy.phyBuilder_clean b) trivial
    | esb b => exact iff_of_true (Esb.esbBuilder_clean b) trivial
    | unifying b => exact iff_of_true (Unifying.unifyingBuilder_clean b) trivial
    | dot15d4 b => exact iff_of_true (Dot15d4.dot15d4Builder_clean b) trivial
  | device b =>
    constructor
    · intro h
      exact (deviceBuilder_noLeak_iff b).mp h.noLeak
    · intro h
      exact ((deviceBuilder_noLeak_iff b).mpr h).clean

/-- A message reused for a connection keeps the parameters that the new call does not give. -/
theorem connect_keeps_parameters : ¬Clean
    (Builder.domain (.ble (.connectTo (some fun _ => 0) ⟨0⟩ 0 none 0 0 0))).run
    (Builder.domain (.ble (.connectTo (some fun _ => 0) ⟨0⟩ 0 none 0 0 0))).absent := by
  intro h
  have hfresh := (Ble.bleBuilder_noLeak_iff (.connectTo (some fun _ => 0) ⟨0⟩ 0 none 0 0 0)).mp h.noLeak
  exact (hfresh rfl).1 rfl

end Builder
end WhadLib
