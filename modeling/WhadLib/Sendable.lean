import WhadLib.MessageCodec
import WhadLib.Send

/-! Which messages `whad_send_message` accepts. The sizes of the arrays are chosen so that a message
without callbacks fits the transmit buffer whatever it holds; only a prepared sequence can be too long. -/
namespace WhadLib
open Library

namespace Kind

/-- The descriptor of a member. The result code has no message of its own. -/
def descriptor : Kind → Descriptor
  | .generic .result => .nil
  | .generic .cmdResult => CmdResult.descriptor
  | .generic .progress => Progress.descriptor
  | .generic .debug => GenericDebugMsg.descriptor
  | .generic .verbose => VerboseMsg.descriptor
  | .discovery k => k.descriptor
  | .ble k => k.descriptor
  | .dot15d4 k => k.descriptor
  | .esb k => k.descriptor
  | .unifying k => k.descriptor
  | .phy k => k.descriptor

/-- The descriptor of the messages of one kind. -/
def messageDescriptor : Kind → Descriptor
  | .generic .result => .oneofMessage Message.genericTag (.oneof GenericKind.result.tag .uenum .nil) .nil
  | k => .oneofMessage k.domainTag (.oneofMessage k.tag k.descriptor .nil) .nil

/-- The kinds with a field that a callback writes. -/
def withCallbacks : List Kind :=
  [.generic .debug,.generic .verbose,.discovery .infoResp,.ble .setAdvData,.phy .sendRaw,.phy .rawPacket,
    .phy .monitorReport,.phy .supportedFreq]

theorem callbackFree : ∀ k ∈ all, k ∉ withCallbacks → k.messageDescriptor.CallbackFree = true := by decide +kernel

/-- With silent callbacks only a prepared sequence can exceed the transmit buffer. -/
theorem limit_le : ∀ k ∈ all, k ≠ .ble .prepare → k.messageDescriptor.limit ≤ maxEncodedMessageSize := by
  decide +kernel

theorem mem_all (k : Kind) : k ∈ all := by
  cases k with
  | generic k => cases k <;> simp [all, GenericKind.all]
  | discovery k => simp [all, k.mem_all]
  | ble k => simp [all, k.mem_all]
  | dot15d4 k => simp [all, k.mem_all]
  | esb k => simp [all, k.mem_all]
  | unifying k => simp [all, k.mem_all]
  | phy k => simp [all, k.mem_all]

/-- A message of a kind is described by the descriptor of that kind. -/
theorem messageDescriptor_describes (k : Kind) (p : k.Struct) :
    k.messageDescriptor.Describes (.message k.domainTag (k.member p) .nil) := by
  cases k with
  | generic k =>
    cases k with
    | result => exact .messageMember (.member trivial)
    | cmdResult => exact .messageMember (.messageMember (.singular trivial .nil))
    | progress => exact .messageMember (.messageMember (.singular trivial .nil))
    | debug => exact .messageMember (.messageMember (.singular trivial (.singular rfl .nil)))
    | verbose => exact .messageMember (.messageMember (.singular rfl .nil))
  | discovery k => exact .messageMember (.messageMember (k.describes p))
  | ble k => exact .messageMember (.messageMember (k.describes p))
  | dot15d4 k => exact .messageMember (.messageMember (k.describes p))
  | esb k => exact .messageMember (.messageMember (k.describes p))
  | unifying k => exact .messageMember (.messageMember (k.describes p))
  | phy k => exact .messageMember (.messageMember (k.describes p))

theorem domainTag_ne_board (k : Kind) : k.domainTag ≠ Message.boardTag := by cases k <;> exact nofun

/-- The sizes that the runtime looks at are those of the member. -/
theorem member_accepted_iff (k : Kind) (p : k.Struct) : (k.member p).Accepted ↔ (k.wire p).Accepted := by
  cases k with
  | generic k => cases k <;> first | rfl | exact and_iff_left trivial
  | _ => exact and_iff_left trivial

end Kind

namespace FullMessage
variable {m : FullMessage} {k : Kind}

/-- A message can be encoded exactly when every size in its member is within the capacity. -/
theorem Holds.records_isSome (h : m.Holds k) (heap : Heap) : (m.tree.records heap).isSome ↔ m.wire.Accepted := by
  rw [m.describes.records_isSome messageDescriptor_wellFormed, h.tree, h.wire]
  exact (and_iff_left trivial).trans (k.member_accepted_iff (m.msg k))

end FullMessage

namespace FullMessage
variable {m : FullMessage} {k : Kind}

theorem Holds.describes (h : m.Holds k) : k.messageDescriptor.Describes m.tree := by
  rw [h.tree]
  exact k.messageDescriptor_describes (m.msg k)

/-- Without a callback field none can be set. -/
theorem Holds.silent (h : m.Holds k) (hk : k ∉ Kind.withCallbacks) : m.tree.Silent :=
  h.describes.silent (Kind.callbackFree k k.mem_all hk)

theorem Holds.board_ne (h : m.Holds k) : m.whichMsg ≠ Message.boardTag := by
  rw [h.domain]
  exact k.domainTag_ne_board

section
variable (boardFields : BoardMessage → Fields CallbackField) (heap : Heap)

/-- A message whose sizes are not accepted has no encoding. -/
theorem Holds.encoding_eq_none (h : m.Holds k) (hown : m.tree.OwnCallbacks) (hno : ¬m.wire.Accepted) :
    m.toMessage.encoding boardFields heap = none := by
  rw [m.toMessage_encoding h.board_ne hown, Option.map_eq_none_iff, ← Option.not_isSome_iff_eq_none, h.records_isSome]
  exact hno

/-- Every other one has an encoding, which is not empty. -/
theorem Holds.exists_encoding (h : m.Holds k) (hown : m.tree.OwnCallbacks) (haccepted : m.wire.Accepted) :
    ∃ bytes, m.toMessage.encoding boardFields heap = some bytes ∧ bytes ≠ [] ∧
      (m.tree.Silent → k ≠ .ble .prepare → bytes.length ≤ maxEncodedMessageSize) := by
  obtain ⟨rs,hrs⟩ := Option.isSome_iff_exists.mp ((h.records_isSome heap).mpr haccepted)
  refine ⟨recordBytes rs,?_,?_,fun hsilent hk => ?_⟩
  · rw [m.toMessage_encoding h.board_ne hown, hrs]
    rfl
  · rw [h.tree] at hrs
    obtain ⟨b,rs',-,-,rfl⟩ := Wire.records_message hrs
    rw [recordBytes_cons]
    exact fun hnil => Record.bytes_ne_nil _ (List.append_eq_nil_iff.mp hnil).1
  · exact (h.describes.length_le hsilent hrs).trans (Kind.limit_le k k.mem_all hk)

end
end FullMessage

/-- What `whad_send_message` makes of a message, whatever it holds and in every state of the queue. A size beyond its
array is an error. Otherwise the call succeeds exactly when the encoding fits the transmit buffer and the transport
takes it; when it does not fit the call is an error that changes nothing. Without callbacks it always fits, but for
a prepared sequence. -/
theorem whadSendMessage_iff_accepted {pb : Nanopb} (hpb : pb.Documented)
    (boardFields : BoardMessage → Fields CallbackField) (heap : Heap) {m : FullMessage} {k : Kind} (h : m.Holds k)
    (hown : m.tree.OwnCallbacks) (t : Transport) :
    let sent := whadSendMessage pb boardFields heap m.toMessage t
    (¬m.wire.Accepted → sent = ⟨.error,heap,m.toMessage,t⟩) ∧
      (m.wire.Accepted → ∃ bytes, m.toMessage.encoding boardFields heap = some bytes ∧ bytes ≠ [] ∧
        let queued := t.sendMessage (some fun i => bytes.getD i 0) bytes.length
        (sent.result = .success ↔ bytes.length ≤ maxEncodedMessageSize ∧ queued.1 = .success) ∧
          (bytes.length ≤ maxEncodedMessageSize → sent.transport = queued.2) ∧
          (maxEncodedMessageSize < bytes.length → sent = ⟨.error,heap,m.toMessage,t⟩) ∧
          (m.tree.Silent → k ≠ .ble .prepare → bytes.length ≤ maxEncodedMessageSize)) := by
  intro sent
  constructor
  · intro hno
    refine whadSendMessage_of_not_fits boardFields hpb heap _ t fun bytes hbytes => ?_
    rw [h.encoding_eq_none boardFields heap hown hno] at hbytes
    exact nomatch hbytes
  · intro haccepted
    obtain ⟨bytes,hbytes,hne,hshort⟩ := h.exists_encoding boardFields heap hown haccepted
    have hlong (hlt : maxEncodedMessageSize < bytes.length) : sent = ⟨.error,heap,m.toMessage,t⟩ := by
      refine whadSendMessage_of_not_fits boardFields hpb heap _ t fun bytes' hbytes' _ => ?_
      obtain rfl := Option.some.inj (hbytes.symm.trans hbytes')
      exact hlt
    refine ⟨bytes,hbytes,hne,?_,fun hfits => ?_,hlong,hshort⟩
    · by_cases hfits : bytes.length ≤ maxEncodedMessageSize
      · have hsent : sent = _ := whadSendMessage_of_fits boardFields hpb heap m.toMessage t hbytes hne hfits
        rw [hsent]
        exact (and_iff_right hfits).symm
      · rw [hlong (not_le.mp hfits)]
        exact iff_of_false nofun fun hboth => hfits hboth.1
    · have hsent : sent = _ := whadSendMessage_of_fits boardFields hpb heap m.toMessage t hbytes hne hfits
      rw [hsent]

/-- A PDU of 300 bytes, behind another message in the queue. -/
theorem whadSendMessage_iff_accepted_sendPdu :
    let m := (default : FullMessage).put (.ble .sendPdu) ⟨⟨1⟩,0,⟨300,Vector.replicate 300 0xA5⟩,false⟩
    let t := (gwTransport.sendMessage (some fun _ => 0x5A) 40).2
    (whadSendMessage Nanopb.plain (fun _ => .nil) Heap.empty m.toMessage t).result = .success := by
  intro m t
  have hholds := FullMessage.put_holds default (.ble .sendPdu) ⟨⟨1⟩,0,⟨300,Vector.replicate 300 0xA5⟩,false⟩
  have hsilent := hholds.silent (by decide)
  obtain ⟨-,haccepted⟩ := whadSendMessage_iff_accepted Nanopb.plain_documented (fun _ => .nil) Heap.empty hholds
    hsilent.ownCallbacks t
  obtain ⟨bytes,hbytes,-,hresult,-,-,hshort⟩ := haccepted (by
    rw [FullMessage.put_wire]
    exact ⟨trivial,trivial,(accepted_bytes_iff _).mpr (Nat.le_refl 300),trivial,trivial⟩)
  have hlength : (m.toMessage.encoding (fun _ => .nil) Heap.empty).map List.length = some 311 := by decide +kernel
  rw [hbytes, Option.map_some, Option.some.injEq] at hlength
  have hfree : t.txBuf.getFreeSize = 979 := by decide +kernel
  refine hresult.mpr ⟨hshort hsilent nofun,t.sendMessage_of_room ⟨?_,?_,nofun⟩ ?_⟩ <;> rw [hlength]
  · decide
  · decide
  · rw [hfree]
    decide

end WhadLib
