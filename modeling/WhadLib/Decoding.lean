import WhadLib.Arrival
import WhadLib.Ble.Decoded
import WhadLib.Device.Decoded
import WhadLib.Dot15d4.Decoded
import WhadLib.Esb.Decoded
import WhadLib.MessageTypes
import WhadLib.Phy.Decoded
import WhadLib.Protobuf.Rewriting

/-! What is accepted is well formed: whatever bytes a reader accepts, there is a message that shows what was
read, and it can be sent on. -/
namespace WhadLib
open Library

section
variable {κ : Type} {tag : κ → ℕ} {descriptor : κ → Descriptor} {ks : List κ} {good : Wire → Prop}

/-- A union is covered member by member. -/
theorem Descriptor.Covers.union (hnil : good .nil) (h : ∀ k ∈ ks, (descriptor k).Covers fun b => good (.message (tag k) b .nil)) :
    (Descriptor.union tag descriptor ks).Covers good := by
  induction ks with
  | nil => exact .nil hnil
  | cons k ks ih =>
    obtain ⟨hk,hks⟩ := List.forall_mem_cons.mp h
    exact .oneofMessage hk (ih hks)

theorem Descriptor.Covers.imp {d : Descriptor} {good' : Wire → Prop} (h : d.Covers good) (himp : ∀ w, good w → good' w) :
    d.Covers good' := fun w hw => himp w (h w hw)

end

/-- The messages of a domain: without a member, or with one of the kinds of the domain. -/
def ShownInDomain (tag : ℕ) (w : Wire) : Prop := w = .nil ∨ ∃ k : Kind, k.domainTag = tag ∧ ∃ p : k.Struct, k.member p = w

section
variable {κ : Type} {descriptor : κ → Descriptor} {tag : κ → ℕ} {ks : List κ}

/-- The same for the message of a domain. -/
theorem covers_domain (domainTag : ℕ) (kind : κ → Kind) (hdomain : ∀ k, (kind k).domainTag = domainTag)
    (hmember : ∀ k (p : (kind k).Struct), (kind k).member p = .message (tag k) ((kind k).wire p) .nil)
    (h : ∀ k, (descriptor k).Covers fun w => ∃ p : (kind k).Struct, (kind k).wire p = w) :
    (Descriptor.union tag descriptor ks).Covers (ShownInDomain domainTag) := by
  refine .union (.inl rfl) fun k _ => (h k).imp ?_
  rintro w ⟨p,rfl⟩
  exact .inr ⟨kind k,hdomain k,p,hmember k p⟩

end

theorem genericDescriptor_covers : genericDescriptor.Covers (ShownInDomain Message.genericTag) := by
  have hmember (k : GenericKind) {w : Wire} (h : ∃ p : k.Struct, (Kind.generic k).member p = w) :
      ShownInDomain Message.genericTag w := .inr ⟨.generic k,rfl,h⟩
  refine .oneof .uenum (fun result => hmember .result ⟨result,rfl⟩) (.oneofMessage (CmdResult.covers.imp ?_)
    (.oneofMessage (Progress.covers.imp ?_) (.oneofMessage (GenericDebugMsg.covers.imp ?_)
    (.oneofMessage (VerboseMsg.covers.imp ?_) (.nil (.inl rfl))))))
  · rintro w ⟨p,rfl⟩
    exact hmember .cmdResult ⟨p,rfl⟩
  · rintro w ⟨p,rfl⟩
    exact hmember .progress ⟨p,rfl⟩
  · rintro w ⟨p,rfl⟩
    exact hmember .debug ⟨p,rfl⟩
  · rintro w ⟨p,rfl⟩
    exact hmember .verbose ⟨p,rfl⟩

theorem domainDescriptors_cover : ∀ d ∈ domainDescriptors, d.2.Covers (ShownInDomain d.1) := by
  simp only [domainDescriptors, List.forall_mem_cons, List.not_mem_nil, false_implies, implies_true, and_true]
  exact ⟨genericDescriptor_covers,
    covers_domain _ .discovery (fun _ => rfl) (fun _ _ => rfl) DiscoveryKind.covers,
    covers_domain _ .ble (fun _ => rfl) (fun _ _ => rfl) Ble.BleKind.covers,
    covers_domain _ .dot15d4 (fun _ => rfl) (fun _ _ => rfl) Dot15d4.Dot15d4Kind.covers,
    covers_domain _ .esb (fun _ => rfl) (fun _ _ => rfl) Esb.EsbKind.covers,
    covers_domain _ .unifying (fun _ => rfl) (fun _ _ => rfl) Unifying.UnifyingKind.covers,
    covers_domain _ .phy (fun _ => rfl) (fun _ _ => rfl) Phy.PhyKind.covers⟩

namespace FullMessage

/-- A message of a domain without a member. -/
theorem exists_tree_nil {tag : ℕ} (h : tag ∈ domainDescriptors.map Prod.fst) :
    ∃ m : FullMessage, m.tree = .message tag .nil .nil := by
  let m : FullMessage := { (default : FullMessage) with whichMsg := tag, whichDomainMsg := 0 }
  have hkind : m.kind = none := by
    cases hk : m.kind with
    | none => rfl
    | some k => exact absurd (kind_eq_some_iff.mp hk).tag.symm k.tag_ne_zero
  refine ⟨m,?_⟩
  rw [tree, if_pos h, domainMessage, hkind]

/-- Every tree that a reader makes is that of a message. -/
theorem exists_tree : messageDescriptor.Covers fun w => ∃ m : FullMessage, m.tree = w := by
  refine .union ⟨default,rfl⟩ fun d hd => (domainDescriptors_cover d hd).imp ?_
  rintro w (rfl | ⟨k,htag,p,rfl⟩)
  · exact exists_tree_nil (List.mem_map_of_mem hd)
  · refine ⟨(default : FullMessage).put k p,?_⟩
    rw [((default : FullMessage).put_holds k p).tree, put_msg_self, htag]

end FullMessage

/-- There is no byte array of a fixed length in a prepared sequence. -/
theorem Ble.PrepareSequenceCmd.omittable (p : PrepareSequenceCmd) : p.wire.Omittable := by
  have hpackets (packets : List PendingPacket) :
      (packets.foldr (fun a r => Wire.message 4 (PendingPacket.wire a) r) .nil).Omittable := by
    induction packets with
    | nil => trivial
    | cons a packets ih => exact ⟨trivial,ih⟩
  have hsequence : (Wire.repeated 4 p.sequence PendingPacket.wire .nil).Omittable := by
    unfold Wire.repeated
    split
    · trivial
    · exact hpackets _
  have htrigger : p.trigger.value.wire.Omittable := by
    unfold Trigger.wire
    split <;> first | exact ⟨trivial,trivial⟩ | exact trivial
  unfold wire Wire.optional
  split
  · exact ⟨htrigger,hsequence⟩
  · exact hsequence

section
variable {bytes : List UInt8} {w : Wire} {m : FullMessage} {k : Kind}

/-- What was read is all there, and is read again as it is. -/
theorem intact_of_readMessageBytes (h : readMessageBytes bytes = some w) : w.Intact := by
  obtain ⟨rs,-,hread⟩ := Option.bind_eq_some_iff.mp h
  obtain ⟨haccepted,hreceived⟩ := (Descriptor.yields_of_read hread).received
  exact ⟨haccepted,hreceived⟩

/-- The member of a message that shows what was read. -/
theorem FullMessage.Holds.wire_intact (hk : m.Holds k) (h : m.tree.Intact) : (k.wire (m.msg k)).Intact := by
  have haccepted := h.accepted
  have hreceived := h.received
  rw [hk.tree] at haccepted hreceived
  exact ⟨(k.member_accepted_iff _).mp haccepted.1,(Kind.wire_of_member (Wire.message.inj hreceived).2.1.symm).symm⟩

/-- What was read from the payload of a frame is written into the payload of one. -/
theorem FullMessage.Holds.length_le (hk : m.Holds k) (h : readMessageBytes bytes = some m.tree)
    (hlen : bytes.length ≤ maxEncodedMessageSize) {heap : Heap} {rs : List Record} (hrs : m.tree.records heap = some rs) :
    (recordBytes rs).length ≤ maxEncodedMessageSize := by
  by_cases hprepare : k = .ble .prepare
  · subst hprepare
    obtain ⟨rs',hrs',hread⟩ := Option.bind_eq_some_iff.mp h
    have homittable : m.tree.Omittable := by
      rw [hk.tree]
      exact ⟨⟨(m.msg (.ble .prepare) : Ble.PrepareSequenceCmd).omittable,trivial⟩,trivial⟩
    calc (recordBytes rs).length ≤ messageDescriptor.weight rs' :=
          Descriptor.rewrites messageDescriptor_wellFormed heap rs' rs m.tree hread homittable hrs
      _ ≤ (recordBytes rs').length := messageDescriptor.weight_le rs'
      _ ≤ bytes.length := length_recordBytes_le hrs'
      _ ≤ maxEncodedMessageSize := hlen
  · have hsilent : m.tree.Silent := by
      rw [← (intact_of_readMessageBytes h).received]
      exact Wire.silent_received _
    exact (hk.describes.length_le hsilent hrs).trans (Kind.limit_le k k.mem_all hprepare)

end

/-- What is received is well formed and can be sent on: the payload of a frame that a reader accepts is shown by a
message. Each message of a kind that shows it has sizes within the capacities and enumerations of 32 bits.
`whad_send_message` queues for it a payload that means the same, and succeeds on an empty queue. -/
theorem sent_on_of_read {pb : Nanopb} (hpb : pb.Documented) (boardFields : BoardMessage → Fields CallbackField)
    (heap : Heap) {bytes : List UInt8} {w : Wire} (h : readMessageBytes bytes = some w)
    (hlen : bytes.length ≤ maxEncodedMessageSize) :
    (∃ m : FullMessage, m.tree = w) ∧ ∀ (m : FullMessage) (k : Kind), m.tree = w → m.Holds k →
      (k.wire (m.msg k)).Intact ∧ ∃ again, readMessageBytes again = some w ∧ ∀ t : Transport,
        let sent := whadSendMessage pb boardFields heap m.toMessage t
        (sent.result,sent.transport) = t.sendMessage (some fun i => again.getD i 0) again.length ∧
          (t.txBuf.toList = [] → sent.result = .success) := by
  obtain ⟨rs,-,hread⟩ := Option.bind_eq_some_iff.mp h
  refine ⟨FullMessage.exists_tree w (Descriptor.yields_of_read hread),?_⟩
  rintro m k rfl hk
  have hintact := intact_of_readMessageBytes h
  have hown : m.tree.OwnCallbacks := by
    rw [← hintact.received]
    exact (Wire.silent_received _).ownCallbacks
  have hsome : (m.tree.records heap).isSome :=
    (m.describes.records_isSome messageDescriptor_wellFormed heap).mpr hintact.accepted
  obtain ⟨again,hagain⟩ := Option.isSome_iff_exists.mp hsome
  have hbytes : m.toMessage.encoding boardFields heap = some (recordBytes again) := by
    rw [m.toMessage_encoding hk.board_ne hown, hagain]
    rfl
  have hle := hk.length_le h hlen hagain
  have hne : recordBytes again ≠ [] := by
    rw [hk.tree] at hagain
    obtain ⟨b,rs',-,-,rfl⟩ := Wire.records_message hagain
    rw [recordBytes_cons]
    exact fun hnil => Record.bytes_ne_nil _ (List.append_eq_nil_iff.mp hnil).1
  have hmax : maxEncodedMessageSize < 2^64 := by decide
  refine ⟨hk.wire_intact hintact,recordBytes again,?_,fun t => ⟨?_,?_⟩⟩
  · have hread' := m.readMessageBytes_records hagain (hle.trans_lt hmax)
    rwa [hintact.received] at hread'
  · rw [whadSendMessage_of_fits boardFields hpb heap m.toMessage t hbytes hne hle]
  · exact whadSendMessage_of_empty boardFields hpb heap m.toMessage t hbytes hne hle

/-- A command to sniff advertisements without the address of a device. -/
theorem sent_on_of_read_sniffAdv :
    let bytes : List UInt8 := [0x1A,4,0x12,2,0x10,37]
    let m := (default : FullMessage).put (.ble .sniffAdv) ⟨false,37,Vector.replicate 6 0⟩
    ∃ again, readMessageBytes again = readMessageBytes bytes ∧
      (whadSendMessage Nanopb.plain (fun _ => .nil) Heap.empty m.toMessage gwTransport).result = .success := by
  intro bytes m
  have hread : readMessageBytes bytes = some m.tree := by decide +kernel
  obtain ⟨-,hall⟩ := sent_on_of_read Nanopb.plain_documented (fun _ => .nil) Heap.empty hread (by decide)
  obtain ⟨-,again,hagain,hsent⟩ := hall m (.ble .sniffAdv) rfl ⟨rfl,rfl⟩
  refine ⟨again,hagain.trans hread.symm,?_⟩
  exact (hsent gwTransport).2 (by decide +kernel)

end WhadLib
