import WhadLib.Builders.Kinds

/-! What a builder takes from the arrays it is given. Calls whose arrays are alike as far as they are copied do
the same, and calls whose arrays are of the same lengths differ in what they store of them only. -/
namespace WhadLib
open Library

/-- What a message holds besides a part of one member: its tags, and what is left of that member. The other members
share its memory. -/
def FullMessage.besides (m : FullMessage) {k : Kind} (hide : k.Struct → k.Struct) : ℕ × ℕ × k.Struct :=
  (m.whichMsg,m.whichDomainMsg,hide (m.msg k))

/-- An outcome as far as it leaves this. -/
def Outcome.besides (outcome : Outcome) {k : Kind} (hide : k.Struct → k.Struct) :
    Option (WhadResult × Option (ℕ × ℕ × k.Struct)) :=
  outcome.map fun written => (written.1,written.2.map (·.besides hide))

/-- The same for the body of a builder. -/
def Alike {α : Type} (hide : α → α) (written written' : Option (WhadResult × α)) : Prop :=
  written'.map (Prod.map id hide) = written.map (Prod.map id hide)

section
variable {α β : Type} {hide : α → α}

/-- Both copies have a result or neither has. -/
theorem alike_bind {x x' : Option β} {rest rest' : β → Option (WhadResult × α)} (hx : x'.isSome = x.isSome)
    (h : ∀ y y', Alike hide (rest y) (rest' y')) : Alike hide (x >>= rest) (x' >>= rest') := by
  match x, x' with
  | none, none => rfl
  | some y, some y' => exact h y y'

end

section
variable {k : Kind} {hide : k.Struct → k.Struct} {m : FullMessage} {body body' : k.Struct → Option (WhadResult × k.Struct)}

theorem FullMessage.put_besides (m : FullMessage) (p : k.Struct) :
    (m.put k p).besides hide = (k.domainTag,k.tag,hide p) := by
  rw [besides, put_msg_self]
  rfl

theorem build_congr (h : ∀ p, body' p = body p) : m.build k body' = m.build k body :=
  congrArg (m.build k) (funext h)

theorem besides_ite {c : Prop} [Decidable c] {x x' y y' : Outcome} (hx : c → x'.besides hide = x.besides hide)
    (hy : ¬c → y'.besides hide = y.besides hide) :
    (if c then x' else y').besides hide = (if c then x else y).besides hide := by
  by_cases hc : c
  · simpa only [if_pos hc] using hx hc
  · simpa only [if_neg hc] using hy hc

theorem build_besides (h : ∀ p, Alike hide (body p) (body' p)) :
    (m.build k body').besides hide = (m.build k body).besides hide := by
  have hbuild (body : k.Struct → Option (WhadResult × k.Struct)) : (m.build k body).besides hide =
      ((body (m.msg k)).map (Prod.map id hide)).map fun written => (written.1,some (k.domainTag,k.tag,written.2)) := by
    simp only [FullMessage.build, Outcome.besides, Option.map_map]
    congr 1
    funext written
    simp only [Function.comp_apply, Option.map_some, FullMessage.put_besides, Prod.map_fst, Prod.map_snd, id_eq]
  rw [hbuild, hbuild, h]

end

/- A builder is compared with its member and its body, not with what setting both comes to. -/
attribute [local irreducible] FullMessage.build

namespace Phy
section
variable {n : ℕ} {x : BytesArray n} {src src' : Option Buffer} {length : ℤ}

theorem fillFrom_of_agree (h : Option.Rel (Agree length) src src') : fillFrom x src' length = fillFrom x src length := by
  cases h with
  | none => rfl
  | some h => exact BytesArray.fill_of_agree h

theorem fillFrom_isSome {cut : ℤ} (h : Option.Rel (Agree cut) src src') :
    (fillFrom x src' length).isSome = (fillFrom x src length).isSome := by
  cases h with
  | none => rfl
  | some => exact BytesArray.fill_isSome

end

/-- The block is filled with these ranges. -/
theorem storeRanges_congr {ranges ranges' : ℕ → FrequencyRange} {nbRanges : ℤ} (h : Agree nbRanges ranges ranges') :
    storeRanges ranges' nbRanges = storeRanges ranges nbRanges := by
  have hmap : (List.range nbRanges.toNat).map ranges' = (List.range nbRanges.toNat).map ranges := by
    refine List.map_congr_left fun i hi => h i ?_
    rw [List.mem_range] at hi
    omega
  rw [storeRanges, storeRanges, hmap]

theorem storeRanges_isSome {ranges ranges' : ℕ → FrequencyRange} {nbRanges : ℤ} :
    (storeRanges ranges' nbRanges).isSome = (storeRanges ranges nbRanges).isSome := by
  unfold storeRanges
  split <;> rfl

/-- The same call with other arrays. Each agrees with the one it stands for up to the cut of what is copied. -/
def PhyBuilder.Varies (cut : ℤ → ℤ) : PhyBuilder → PhyBuilder → Prop
  | .setSyncWord pSyncword length, b => ∃ pSyncword',
    Option.Rel (Agree (cut length)) pSyncword pSyncword' ∧ b = .setSyncWord pSyncword' length
  | .send pPacket length, b => ∃ pPacket', Option.Rel (Agree (cut length)) pPacket pPacket' ∧ b = .send pPacket' length
  | .sendRawIq pIqStream length, b => ∃ pIqStream',
    Option.Rel (Agree (cut length)) pIqStream pIqStream' ∧ b = .sendRawIq pIqStream' length
  | .supportedFrequencies allocated pRanges nbRanges, b => ∃ pRanges',
    Option.Rel (Agree (cut nbRanges)) pRanges pRanges' ∧ b = .supportedFrequencies allocated pRanges' nbRanges
  | .schedPacket pPacket length tsSec tsUsec, b => ∃ pPacket',
    Option.Rel (Agree (cut length)) pPacket pPacket' ∧ b = .schedPacket pPacket' length tsSec tsUsec
  | .packetReceived frequency rssi tsSec tsUsec payload length syncword syncwordLength deviation datarate endianness
      modulation, b => ∃ payload' syncword',
    Option.Rel (Agree (cut (min length 255))) payload payload' ∧
      Option.Rel (Agree (cut syncwordLength)) syncword syncword' ∧
      b = .packetReceived frequency rssi tsSec tsUsec payload' length syncword' syncwordLength deviation datarate
        endianness modulation
  | b, b' => b' = b

/-- The member without the arrays that the builder copies to. -/
def PhyBuilder.hideArrays : (b : PhyBuilder) → (Kind.phy b.kind).Struct → (Kind.phy b.kind).Struct
  | .setSyncWord .. => fun (p : SetSyncWordCmd) => { p with syncWord := default }
  | .send .. => fun (p : SendCmd) => { p with packet := default }
  | .schedPacket .. => fun (p : ScheduleSendCmd) => { p with packet := default }
  | .packetReceived .. => fun (p : PacketReceived) => { p with packet := default, syncword := default }
  | _ => id

theorem phyBuilder_reads {b b' : PhyBuilder} (h : b.Varies id b') : b'.run = b.run := by
  funext message
  cases b <;> simp only [PhyBuilder.Varies, id_eq] at h
  case setSyncWord | send | schedPacket =>
    obtain ⟨_,hagree,rfl⟩ := h
    match message, hagree with
    | none, _ => rfl
    | some _, .none => rfl
    | some m, .some hagree =>
      exact ite_congr rfl (fun _ => rfl) fun _ => build_congr fun p => by rw [BytesArray.fill_of_agree hagree]
  case sendRawIq =>
    obtain ⟨_,hagree,rfl⟩ := h
    cases message <;> cases hagree <;> rfl
  case supportedFrequencies allocated pRanges nbRanges =>
    obtain ⟨_,hagree,rfl⟩ := h
    match message, hagree, allocated with
    | none, _, _ => rfl
    | some _, .none, _ => rfl
    | some _, .some _, none => rfl
    | some m, .some hagree, some a => exact build_congr fun p => by rw [storeRanges_congr hagree]
  case packetReceived payload length syncword syncwordLength _ _ _ _ =>
    obtain ⟨_,_,hagree,hword,rfl⟩ := h
    match message, hagree with
    | none, _ => rfl
    | some _, .none => rfl
    | some m, .some hagree =>
      have hcut : (if 255 < length then 255 else length) = min length 255 := by split <;> omega
      refine build_congr fun p => ?_
      rw [hcut, BytesArray.fill_of_agree hagree, fillFrom_of_agree hword]
  all_goals
    obtain rfl := h
    rfl

theorem phyBuilder_besides {cut : ℤ → ℤ} {b b' : PhyBuilder} (h : b.Varies cut b') (message : Option FullMessage) :
    (b'.run message).besides b.hideArrays = (b.run message).besides b.hideArrays := by
  cases b
  case setSyncWord | send | schedPacket =>
    obtain ⟨_,hagree,rfl⟩ := h
    match message, hagree with
    | none, _ => rfl
    | some _, .none => rfl
    | some m, .some _ =>
      refine besides_ite (fun _ => rfl) fun _ => build_besides fun p => ?_
      exact alike_bind BytesArray.fill_isSome fun _ _ => rfl
  case sendRawIq =>
    obtain ⟨_,hagree,rfl⟩ := h
    cases message <;> cases hagree <;> rfl
  case supportedFrequencies allocated pRanges nbRanges =>
    obtain ⟨_,hagree,rfl⟩ := h
    match message, hagree, allocated with
    | none, _, _ => rfl
    | some _, .none, _ => rfl
    | some _, .some _, none => rfl
    | some m, .some _, some a =>
      refine build_besides fun p => ?_
      exact alike_bind storeRanges_isSome fun _ _ => rfl
  case packetReceived =>
    obtain ⟨_,_,hagree,hword,rfl⟩ := h
    match message, hagree with
    | none, _ => rfl
    | some _, .none => rfl
    | some m, .some _ =>
      refine build_besides fun p => ?_
      exact alike_bind BytesArray.fill_isSome fun _ _ => alike_bind (fillFrom_isSome hword) fun _ _ => rfl
  all_goals
    obtain rfl := h
    rfl

end Phy

namespace Esb

/-- The same size, and bytes that agree up to its cut. -/
structure EsbAddress.Varies (cut : ℤ → ℤ) (addr addr' : EsbAddress) : Prop where
  size : addr'.size = addr.size
  bytes : Agree (cut addr.size) (bufferOf addr.address) (bufferOf addr'.address)

/-- The same packet with other bytes, and another address when it is not there. -/
structure EsbRecvdPacket.Varies (cut : ℤ → ℤ) (pdu pdu' : EsbRecvdPacket) : Prop where
  others : ∃ address packet, pdu' = { pdu with address := ⟨pdu.address.has,address⟩, packet := packet }
  length : pdu'.packet.length = pdu.packet.length
  bytes : Agree (cut pdu.packet.length.toNat) (bufferOf pdu.packet.bytes) (bufferOf pdu'.packet.bytes)
  address : pdu.address.has = true → pdu.address.value.Varies cut pdu'.address.value

section
variable {addr addr' : EsbAddress} {pdu pdu' : EsbRecvdPacket} {channel : UInt32} {retrCount : ℤ} {packetLen : UInt8}
  {src src' : Buffer} {showAck : Bool} {cut : ℤ → ℤ}

theorem storeNodeAddress_congr (h : addr.Varies id addr') (p : SetNodeAddressCmd) :
    storeNodeAddress addr' p = storeNodeAddress addr p := by
  have hbytes : Agree addr.size _ _ := h.bytes
  rw [storeNodeAddress, storeNodeAddress, h.size, BytesArray.fill_of_agree hbytes]

theorem storeSniff_congr (h : addr.Varies id addr') (p : SniffCmd) :
    storeSniff addr' channel showAck p = storeSniff addr channel showAck p := by
  have hbytes : Agree addr.size _ _ := h.bytes
  rw [storeSniff, storeSniff, h.size, BytesArray.fill_of_agree hbytes]

theorem storeSend_congr (h : Agree packetLen.toNat src src') (p : SendCmd) :
    storeSend channel retrCount src' packetLen p = storeSend channel retrCount src packetLen p := by
  rw [storeSend, storeSend, BytesArray.fill_of_agree h]

theorem storeRecvdPacket_congr (h : pdu.Varies id pdu') (p : PduReceived) :
    storeRecvdPacket pdu' p = storeRecvdPacket pdu p := by
  obtain ⟨⟨address,packet,rfl⟩,hlength,hbytes,haddress⟩ := h
  simp only [id_eq] at hlength hbytes haddress
  by_cases hhas : pdu.address.has = true
  · have haddr : Agree pdu.address.value.size _ _ := (haddress hhas).bytes
    simp only [storeRecvdPacket, hlength, BytesArray.fill_of_agree hbytes, hhas, if_true, (haddress hhas).size,
      BytesArray.fill_of_agree haddr]
  · simp only [storeRecvdPacket, hlength, BytesArray.fill_of_agree hbytes, hhas]
    rfl

theorem storeNodeAddress_alike (hsize : addr'.size = addr.size) (p : SetNodeAddressCmd) :
    Alike (fun p => { p with address := default }) (storeNodeAddress addr p) (storeNodeAddress addr' p) := by
  unfold storeNodeAddress
  rw [hsize]
  split
  · exact alike_bind BytesArray.fill_isSome fun _ _ => rfl
  · rfl

theorem storeSniff_alike (hsize : addr'.size = addr.size) (p : SniffCmd) :
    Alike (fun p => { p with address := default }) (storeSniff addr channel showAck p)
      (storeSniff addr' channel showAck p) := by
  unfold storeSniff
  rw [hsize]
  exact alike_bind BytesArray.fill_isSome fun _ _ => rfl

theorem storeSend_alike (p : SendCmd) : Alike (fun p => { p with pdu := default })
    (storeSend channel retrCount src packetLen p) (storeSend channel retrCount src' packetLen p) :=
  alike_bind BytesArray.fill_isSome fun _ _ => rfl

/-- The member without the two arrays of a received packet. -/
def hideRecvdArrays (p : PduReceived) : PduReceived :=
  { p with pdu := default, address := { p.address with value := default } }

theorem storeRecvdPacket_alike (h : pdu.Varies cut pdu') (p : PduReceived) :
    Alike hideRecvdArrays (storeRecvdPacket pdu p) (storeRecvdPacket pdu' p) := by
  obtain ⟨⟨address,packet,rfl⟩,hlength,-,haddress⟩ := h
  simp only at hlength haddress
  unfold storeRecvdPacket
  rw [hlength]
  refine alike_bind BytesArray.fill_isSome fun x x' => ?_
  by_cases hhas : pdu.address.has = true
  · simp only [hhas, if_true, (haddress hhas).size]
    split
    · rfl
    · exact alike_bind BytesArray.fill_isSome fun _ _ => rfl
  · simp only [hhas]
    rfl

/-- The same call with other arrays. Each agrees with the one it stands for up to the cut of what is copied. -/
def EsbBuilder.Varies (cut : ℤ → ℤ) : EsbBuilder → EsbBuilder → Prop
  | .setNodeAddress pAddr, b => ∃ pAddr', Option.Rel (EsbAddress.Varies cut) pAddr pAddr' ∧ b = .setNodeAddress pAddr'
  | .sniff pAddr channel showAck, b => ∃ pAddr',
    Option.Rel (EsbAddress.Varies cut) pAddr pAddr' ∧ b = .sniff pAddr' channel showAck
  | .send channel retrCount pPacket packetLen, b => ∃ pPacket',
    Option.Rel (Agree (cut packetLen.toNat)) pPacket pPacket' ∧ b = .send channel retrCount pPacket' packetLen
  | .sendRaw channel retrCount pPacket packetLen, b => ∃ pPacket',
    Option.Rel (Agree (cut packetLen.toNat)) pPacket pPacket' ∧ b = .sendRaw channel retrCount pPacket' packetLen
  | .rawPduReceived pPdu, b => ∃ pPdu', Option.Rel (EsbRecvdPacket.Varies cut) pPdu pPdu' ∧ b = .rawPduReceived pPdu'
  | .pduReceived pPdu, b => ∃ pPdu', Option.Rel (EsbRecvdPacket.Varies cut) pPdu pPdu' ∧ b = .pduReceived pPdu'
  | b, b' => b' = b

/-- The member without the arrays that the builder copies to. -/
def EsbBuilder.hideArrays : (b : EsbBuilder) → (Kind.esb b.kind).Struct → (Kind.esb b.kind).Struct
  | .setNodeAddress _ => fun (p : SetNodeAddressCmd) => { p with address := default }
  | .sniff .. => fun (p : SniffCmd) => { p with address := default }
  | .send .. => fun (p : SendCmd) => { p with pdu := default }
  | .sendRaw .. => fun (p : SendCmd) => { p with pdu := default }
  | .rawPduReceived _ => hideRecvdArrays
  | .pduReceived _ => hideRecvdArrays
  | _ => id

theorem esbBuilder_reads {b b' : EsbBuilder} (h : b.Varies id b') : b'.run = b.run := by
  funext message
  cases b
  case setNodeAddress =>
    obtain ⟨_,haddr,rfl⟩ := h
    match message, haddr with
    | none, _ => rfl
    | some _, .none => rfl
    | some m, .some haddr => exact build_congr fun p => storeNodeAddress_congr haddr p
  case sniff =>
    obtain ⟨_,haddr,rfl⟩ := h
    match message, haddr with
    | none, _ => rfl
    | some _, .none => rfl
    | some m, .some haddr =>
      exact ite_congr (by rw [haddr.size]) (fun _ => rfl) fun _ => build_congr fun p => storeSniff_congr haddr p
  case send | sendRaw =>
    obtain ⟨_,hagree,rfl⟩ := h
    match message, hagree with
    | none, _ => rfl
    | some _, .none => rfl
    | some m, .some hagree => exact build_congr fun p => storeSend_congr hagree p
  case rawPduReceived | pduReceived =>
    obtain ⟨_,hpdu,rfl⟩ := h
    match message, hpdu with
    | none, _ => rfl
    | some _, .none => rfl
    | some m, .some hpdu => exact build_congr fun p => storeRecvdPacket_congr hpdu p
  all_goals
    obtain rfl := h
    rfl

theorem esbBuilder_besides {b b' : EsbBuilder} (h : b.Varies cut b') (message : Option FullMessage) :
    (b'.run message).besides b.hideArrays = (b.run message).besides b.hideArrays := by
  cases b
  case setNodeAddress =>
    obtain ⟨_,haddr,rfl⟩ := h
    match message, haddr with
    | none, _ => rfl
    | some _, .none => rfl
    | some m, .some haddr => exact build_besides fun p => storeNodeAddress_alike haddr.size p
  case sniff =>
    obtain ⟨_,haddr,rfl⟩ := h
    match message, haddr with
    | none, _ => rfl
    | some _, .none => rfl
    | some m, .some haddr =>
      simp only [EsbBuilder.run, whadEsbSniff, haddr.size]
      exact besides_ite (fun _ => rfl) fun _ => build_besides fun p => storeSniff_alike haddr.size p
  case send | sendRaw =>
    obtain ⟨_,hagree,rfl⟩ := h
    match message, hagree with
    | none, _ => rfl
    | some _, .none => rfl
    | some m, .some _ => exact build_besides fun p => storeSend_alike p
  case rawPduReceived | pduReceived =>
    obtain ⟨_,hpdu,rfl⟩ := h
    match message, hpdu with
    | none, _ => rfl
    | some _, .none => rfl
    | some m, .some hpdu => exact build_besides fun p => storeRecvdPacket_alike hpdu p
  all_goals
    obtain rfl := h
    rfl

end
end Esb

namespace Unifying
open Esb (EsbAddress EsbRecvdPacket hideRecvdArrays)

/-- The same call with other arrays. Each agrees with the one it stands for up to the cut of what is copied. -/
def UnifyingBuilder.Varies (cut : ℤ → ℤ) : UnifyingBuilder → UnifyingBuilder → Prop
  | .setNodeAddress pAddr, b => ∃ pAddr', Option.Rel (EsbAddress.Varies cut) pAddr pAddr' ∧ b = .setNodeAddress pAddr'
  | .sniff pAddr channel showAck, b => ∃ pAddr',
    Option.Rel (EsbAddress.Varies cut) pAddr pAddr' ∧ b = .sniff pAddr' channel showAck
  | .send channel retrCount pPacket packetLen, b => ∃ pPacket',
    Option.Rel (Agree (cut packetLen.toNat)) pPacket pPacket' ∧ b = .send channel retrCount pPacket' packetLen
  | .sendRaw channel retrCount pPacket packetLen, b => ∃ pPacket',
    Option.Rel (Agree (cut packetLen.toNat)) pPacket pPacket' ∧ b = .sendRaw channel retrCount pPacket' packetLen
  | .rawPduReceived pPdu, b => ∃ pPdu', Option.Rel (EsbRecvdPacket.Varies cut) pPdu pPdu' ∧ b = .rawPduReceived pPdu'
  | .pduReceived pPdu, b => ∃ pPdu', Option.Rel (EsbRecvdPacket.Varies cut) pPdu pPdu' ∧ b = .pduReceived pPdu'
  | b, b' => b' = b

/-- The member without the arrays that the builder copies to. -/
def UnifyingBuilder.hideArrays : (b : UnifyingBuilder) → (Kind.unifying b.kind).Struct → (Kind.unifying b.kind).Struct
  | .setNodeAddress _ => fun (p : Esb.SetNodeAddressCmd) => { p with address := default }
  | .sniff .. => fun (p : Esb.SniffCmd) => { p with address := default }
  | .send .. => fun (p : Esb.SendCmd) => { p with pdu := default }
  | .sendRaw .. => fun (p : Esb.SendCmd) => { p with pdu := default }
  | .rawPduReceived _ => hideRecvdArrays
  | .pduReceived _ => hideRecvdArrays
  | _ => id

theorem unifyingBuilder_reads {b b' : UnifyingBuilder} (h : b.Varies id b') : b'.run = b.run := by
  funext message
  cases b
  case setNodeAddress =>
    obtain ⟨_,haddr,rfl⟩ := h
    match message, haddr with
    | none, _ => rfl
    | some _, .none => rfl
    | some m, .some haddr => exact build_congr fun p => Esb.storeNodeAddress_congr haddr p
  case sniff =>
    obtain ⟨_,haddr,rfl⟩ := h
    match message, haddr with
    | none, _ => rfl
    | some _, .none => rfl
    | some m, .some haddr =>
      exact ite_congr (by rw [haddr.size]) (fun _ => rfl) fun _ => build_congr fun p => Esb.storeSniff_congr haddr p
  case send | sendRaw =>
    obtain ⟨_,hagree,rfl⟩ := h
    match message, hagree with
    | none, _ => rfl
    | some _, .none => rfl
    | some m, .some hagree => exact build_congr fun p => Esb.storeSend_congr hagree p
  case rawPduReceived | pduReceived =>
    obtain ⟨_,hpdu,rfl⟩ := h
    match message, hpdu with
    | none, _ => rfl
    | some _, .none => rfl
    | some m, .some hpdu => exact build_congr fun p => Esb.storeRecvdPacket_congr hpdu p
  all_goals
    obtain rfl := h
    rfl

theorem unifyingBuilder_besides {cut : ℤ → ℤ} {b b' : UnifyingBuilder} (h : b.Varies cut b')
    (message : Option FullMessage) :
    (b'.run message).besides b.hideArrays = (b.run message).besides b.hideArrays := by
  cases b
  case setNodeAddress =>
    obtain ⟨_,haddr,rfl⟩ := h
    match message, haddr with
    | none, _ => rfl
    | some _, .none => rfl
    | some m, .some haddr => exact build_besides fun p => Esb.storeNodeAddress_alike haddr.size p
  case sniff =>
    obtain ⟨_,haddr,rfl⟩ := h
    match message, haddr with
    | none, _ => rfl
    | some _, .none => rfl
    | some m, .some haddr =>
      simp only [UnifyingBuilder.run, whadUnifyingSniff, haddr.size]
      exact besides_ite (fun _ => rfl) fun _ => build_besides fun p => Esb.storeSniff_alike haddr.size p
  case send | sendRaw =>
    obtain ⟨_,hagree,rfl⟩ := h
    match message, hagree with
    | none, _ => rfl
    | some _, .none => rfl
    | some m, .some _ => exact build_besides fun p => Esb.storeSend_alike p
  case rawPduReceived | pduReceived =>
    obtain ⟨_,hpdu,rfl⟩ := h
    match message, hpdu with
    | none, _ => rfl
    | some _, .none => rfl
    | some m, .some hpdu => exact build_besides fun p => Esb.storeRecvdPacket_alike hpdu p
  all_goals
    obtain rfl := h
    rfl

end Unifying

namespace Dot15d4

/-- The same packet with bytes that agree up to the cut of their length. -/
structure Dot15d4RecvdPacket.Varies (cut : ℤ → ℤ) (packet packet' : Dot15d4RecvdPacket) : Prop where
  others : ∃ bytes, packet' = { packet with packet := ⟨bytes,packet.packet.length⟩ }
  bytes : Agree (cut packet.packet.length) (bufferOf packet.packet.bytes) (bufferOf packet'.packet.bytes)

/-- The same call with other arrays. Each agrees with the one it stands for up to the cut of what is copied. -/
def Dot15d4Builder.Varies (cut : ℤ → ℤ) : Dot15d4Builder → Dot15d4Builder → Prop
  | .send channel pPacket length, b => ∃ pPacket',
    Option.Rel (Agree (cut length)) pPacket pPacket' ∧ b = .send channel pPacket' length
  | .sendRaw channel pPacket length fcs, b => ∃ pPacket',
    Option.Rel (Agree (cut length)) pPacket pPacket' ∧ b = .sendRaw channel pPacket' length fcs
  | .rawPduReceived pPacket, b => ∃ pPacket',
    Option.Rel (Dot15d4RecvdPacket.Varies cut) pPacket pPacket' ∧ b = .rawPduReceived pPacket'
  | .pduReceived pPacket, b => ∃ pPacket',
    Option.Rel (Dot15d4RecvdPacket.Varies cut) pPacket pPacket' ∧ b = .pduReceived pPacket'
  | b, b' => b' = b

/-- The member without the arrays that the builder copies to. -/
def Dot15d4Builder.hideArrays : (b : Dot15d4Builder) → (Kind.dot15d4 b.kind).Struct → (Kind.dot15d4 b.kind).Struct
  | .send .. => fun (p : SendCmd) => { p with pdu := default }
  | .sendRaw .. => fun (p : SendCmd) => { p with pdu := default }
  | .rawPduReceived _ => fun (p : RawPduReceived) => { p with pdu := default }
  | .pduReceived _ => fun (p : PduReceived) => { p with pdu := default }
  | _ => id

section
variable {channel : UInt32} {src src' : Buffer} {length : ℤ}

theorem storeSend_congr (h : Agree length src src') (p : SendCmd) :
    storeSend channel src' length p = storeSend channel src length p := by
  simp only [storeSend, BytesArray.fill_of_agree h]

theorem storeSend_alike (p : SendCmd) : Alike (fun p => { p with pdu := default })
    (storeSend channel src length p) (storeSend channel src' length p) := by
  unfold storeSend
  split
  · exact alike_bind BytesArray.fill_isSome fun _ _ => rfl
  · rfl

end

theorem dot15d4Builder_reads {b b' : Dot15d4Builder} (h : b.Varies id b') : b'.run = b.run := by
  funext message
  cases b
  case send | sendRaw =>
    obtain ⟨_,hagree,rfl⟩ := h
    match message, hagree with
    | none, _ => rfl
    | some _, .none => rfl
    | some m, .some hagree => exact build_congr fun p => storeSend_congr hagree p
  case rawPduReceived | pduReceived =>
    obtain ⟨_,hpacket,rfl⟩ := h
    match message, hpacket with
    | none, _ => rfl
    | some _, .none => rfl
    | some m, .some (a := packet) ⟨⟨bytes,rfl⟩,hbytes⟩ =>
      have hagree : Agree packet.packet.length _ _ := hbytes
      exact build_congr fun p => by rw [BytesArray.fill_of_agree hagree]
  all_goals
    obtain rfl := h
    rfl

theorem dot15d4Builder_besides {cut : ℤ → ℤ} {b b' : Dot15d4Builder} (h : b.Varies cut b')
    (message : Option FullMessage) :
    (b'.run message).besides b.hideArrays = (b.run message).besides b.hideArrays := by
  cases b
  case send | sendRaw =>
    obtain ⟨_,hagree,rfl⟩ := h
    match message, hagree with
    | none, _ => rfl
    | some _, .none => rfl
    | some m, .some _ => exact build_besides fun p => storeSend_alike p
  case rawPduReceived | pduReceived =>
    obtain ⟨_,hpacket,rfl⟩ := h
    match message, hpacket with
    | none, _ => rfl
    | some _, .none => rfl
    | some m, .some ⟨⟨bytes,rfl⟩,_⟩ =>
      refine build_besides fun p => ?_
      exact alike_bind BytesArray.fill_isSome fun _ _ => rfl
  all_goals
    obtain rfl := h
    rfl

end Dot15d4
end WhadLib
