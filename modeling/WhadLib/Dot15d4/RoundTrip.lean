import WhadLib.Dot15d4.Faithful
import WhadLib.RoundTrip

/-! What is read back of addresses and packets that were put into a command of the 802.15.4 domain. -/
namespace WhadLib.Dot15d4
open Library Wrapper

/- A builder is compared with its member and its body, not with what setting both comes to. -/
attribute [local irreducible] FullMessage.build

/-- `whad_dot15d4_get_message_type`. The first tag is that of the domain, and `WHAD_DOT15D4_UNKNOWN` is zero. -/
def whadDot15d4GetMessageType (m : FullMessage) : ℕ :=
  if m.whichMsg = Message.dot15d4Tag then m.whichDomainMsg else 0

theorem getMessageType_put (m : FullMessage) (k : Dot15d4Kind) (p : k.Struct) :
    whadDot15d4GetMessageType (m.put (.dot15d4 k) p) = k.tag := if_pos rfl

/-- The commands with an address or a packet. -/
inductive Command
  | setNodeAddress (addr : Dot15d4Address)
  | send (channel : UInt32) (pPacket : Buffer) (length : ℕ)
  | sendRaw (channel : UInt32) (pPacket : Buffer) (length : ℕ) (fcs : UInt32)

namespace Command

def build (m : FullMessage) : Command → Outcome
  | .setNodeAddress addr => whadDot15d4SetNodeAddress (some m) (some addr)
  | .send channel pPacket length => whadDot15d4Send (some m) channel (some pPacket) length
  | .sendRaw channel pPacket length fcs => whadDot15d4SendRaw (some m) channel (some pPacket) length fcs

/-- The member that a command is for. -/
def kind : Command → Dot15d4Kind
  | .setNodeAddress .. => .setNodeAddr
  | .send .. => .send
  | .sendRaw .. => .sendRaw

/-- A packet has 255 bytes at most. -/
def Sized : Command → Prop
  | .setNodeAddress _ => True
  | .send _ _ length => length ≤ 255
  | .sendRaw _ _ length _ => length ≤ 255

/-- The parser returns what was given to the builder, whatever its output held. -/
def Returned (m : FullMessage) : Command → Prop
  | c@(.setNodeAddress addr) => ∀ s, ReadsBack (c.build m) whadDot15d4SetNodeAddressParse s fun r => r = addr
  | c@(.send channel pPacket length) => ∀ s, ReadsBack (c.build m) whadDot15d4SendParse s fun r =>
      r.channel = channel ∧ SameBytes pPacket length (bufferOf r.packet.bytes) r.packet.length
  | c@(.sendRaw channel pPacket length fcs) => ∀ s, ReadsBack (c.build m) whadDot15d4SendRawParse s fun r =>
      r.channel = channel ∧ SameBytes pPacket length (bufferOf r.packet.bytes) r.packet.length ∧ r.fcs = fcs

/-- A command succeeds, has its own type, and comes back. -/
def RoundTrips (c : Command) (m : FullMessage) : Prop :=
  (∃ m', c.build m = some (.success, some m') ∧ whadDot15d4GetMessageType m' = c.kind.tag) ∧ c.Returned m

/-- The only command without a slip. -/
def IsSend (c : Command) : Prop := c.kind = .send

end Command

section
variable {m : FullMessage} {channel fcs : UInt32} {pPacket : Buffer} {length : ℕ}

/-- What both builders of packets to send leave. -/
theorem exists_storeSend (channel : UInt32) (pPacket : Buffer) (p : SendCmd) (h : length ≤ 255) :
    ∃ x, storeSend channel pPacket length p = done ⟨channel,x⟩ ∧
      SameBytes pPacket length (bufferOf x.bytes) x.size ∧ x.size ≤ 255 := by
  obtain ⟨x,hx,hsame,hle⟩ := exists_fill_sameBytes p.pdu pPacket h (by decide)
  refine ⟨x,(if_pos ⟨by omega,by omega⟩).trans ?_,hsame,hle⟩
  exact congrArg (fun filled => Option.bind filled _) hx

theorem send_roundTrips (channel : UInt32) (pPacket : Buffer) (m : FullMessage) (h : length ≤ 255) :
    (Command.send channel pPacket length).RoundTrips m := by
  obtain ⟨x,hx,hsame,hle⟩ := exists_storeSend channel pPacket (m.msg (.dot15d4 .send)) h
  let q : SendCmd := ⟨channel,x⟩
  have hbuilt : whadDot15d4Send (some m) channel (some pPacket) length =
      some (.success, some (m.put (.dot15d4 .send) q)) := build_success hx
  refine ⟨⟨_,hbuilt,getMessageType_put m .send q⟩,fun s => ?_⟩
  obtain ⟨bytes,hloaded,htake⟩ := loadSend_spec channel 0 s hle
  have hparsed : whadDot15d4SendParse (some (m.put (.dot15d4 .send) q)) (some s) =
      some (.success, some ⟨channel,⟨bytes,x.size⟩,0⟩) := parse_success hloaded
  refine (readsBack_iff hbuilt hparsed).mpr ⟨rfl,hsame.trans ⟨rfl,htake⟩⟩

/-- The message is one of `send`. -/
theorem not_sendRaw_roundTrips (channel : UInt32) (pPacket : Buffer) (fcs : UInt32) (m : FullMessage)
    (h : length ≤ 255) : ¬(Command.sendRaw channel pPacket length fcs).RoundTrips m := by
  obtain ⟨x,hx,-⟩ := exists_storeSend channel pPacket (m.msg (.dot15d4 .send)) h
  let q : SendCmd := ⟨channel,x⟩
  have hbuilt : whadDot15d4SendRaw (some m) channel (some pPacket) length fcs =
      some (.success, some (m.put (.dot15d4 .send) q)) := build_success hx
  rintro ⟨⟨m',hm',htype⟩,-⟩
  obtain ⟨-,rfl⟩ := result_unique hbuilt hm'
  rw [getMessageType_put m .send q] at htype
  exact absurd (show Dot15d4Kind.send.tag = Dot15d4Kind.sendRaw.tag from htype) (by decide)

/-- An address that is there is refused. -/
theorem not_setNodeAddress_roundTrips (addr : Dot15d4Address) (m : FullMessage) :
    ¬(Command.setNodeAddress addr).RoundTrips m := by
  rintro ⟨⟨m',hm',-⟩,-⟩
  obtain ⟨hresult,-⟩ := Prod.mk.inj (Option.some.inj hm')
  exact absurd hresult (by decide)

end

/-- Of the commands with an address or a packet only `send` comes back. -/
theorem command_roundTrips_iff (c : Command) (m : FullMessage) (h : c.Sized) : c.RoundTrips m ↔ c.IsSend := by
  cases c with
  | setNodeAddress addr => exact iff_of_false (not_setNodeAddress_roundTrips addr m) (by simp [Command.IsSend, Command.kind])
  | send channel pPacket length => exact iff_of_true (send_roundTrips channel pPacket m h) rfl
  | sendRaw channel pPacket length fcs =>
    exact iff_of_false (not_sendRaw_roundTrips channel pPacket fcs m h) (by simp [Command.IsSend, Command.kind])

/-- A packet of three bytes. -/
theorem command_roundTrips_three : (Command.send 11 (fun i => UInt8.ofNat i) 3).RoundTrips default :=
  (command_roundTrips_iff (.send 11 (fun i => UInt8.ofNat i) 3) default (by simp [Command.Sized])).mpr rfl

/-- The same packet with its FCS. -/
theorem not_command_roundTrips : ¬(Command.sendRaw 11 (fun i => UInt8.ofNat i) 3 0xbeef).RoundTrips default :=
  not_sendRaw_roundTrips 11 (fun i => UInt8.ofNat i) 0xbeef default (by decide)

end WhadLib.Dot15d4
