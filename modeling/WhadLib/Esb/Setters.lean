import WhadLib.Esb.Faithful
import WhadLib.Library.StepSystem
import WhadLib.RoundTrip

/-! What an object with a received packet tells of its optional fields, after any calls of its setters and
through the message that it packs. The calls and what can be told of them are those of the Unifying domain,
too. -/
namespace WhadLib.Esb.Wrapper
open Library Cpp

/-- The address that an object of an address class holds. -/
abbrev NodeAddress := {address : EsbAddress // 0 ≤ address.size ∧ address.size ≤ 5}

/-- The bytes of an address. -/
def shownBytes (address : EsbAddress) : List UInt8 := (bufferOf address.address).take address.size.toNat

/-- The setters of an object with a received packet. -/
inductive SetterCall
  | setChannel (channel : UInt32)
  | setPacket (packet : Packet 255)
  | setRssi (rssi : Int32)
  | setTimestamp (timestamp : UInt32)
  | setAddress (address : NodeAddress)
  | setCrcValidity (validity : Bool)

namespace SetterCall

/-! What a call sets. -/

def channel : SetterCall → Option UInt32
  | .setChannel channel => some channel
  | _ => none

def packet : SetterCall → Option (Packet 255)
  | .setPacket packet => some packet
  | _ => none

def rssi : SetterCall → Option Int32
  | .setRssi rssi => some rssi
  | _ => none

def timestamp : SetterCall → Option UInt32
  | .setTimestamp timestamp => some timestamp
  | _ => none

def address : SetterCall → Option NodeAddress
  | .setAddress address => some address
  | _ => none

def crcValidity : SetterCall → Option Bool
  | .setCrcValidity validity => some validity
  | _ => none

end SetterCall

/-- What an object tells through its accessors: an optional field is what its getter returns if there is
one. -/
structure Told where
  channel : UInt32
  packet : List UInt8
  rssi : Option Int32
  timestamp : Option UInt32
  crcValidity : Option Bool
  address : Option (List UInt8)
  deriving DecidableEq

/-- What is to be told after some calls: the value of the last call of each setter, and without one what was
given at first. -/
def Told.after (given : Told) (calls : List SetterCall) : Told where
  channel := (latest SetterCall.channel calls).getD given.channel
  packet := ((latest SetterCall.packet calls).map Packet.bytes).getD given.packet
  rssi := (latest SetterCall.rssi calls).or given.rssi
  timestamp := (latest SetterCall.timestamp calls).or given.timestamp
  crcValidity := (latest SetterCall.crcValidity calls).or given.crcValidity
  address := ((latest SetterCall.address calls).map fun a => shownBytes a.val).or given.address

/-- An accessor of presence with its getter. -/
def told {α : Type} (x : OptionalField α) : Option α := if x.has then some x.value else none

/-- The message reads as this through a member of the union, too. -/
def readAlso (m : FullMessage) (k : Kind) (p : k.Struct) : FullMessage := { m with msg := Function.update m.msg k p }

/-- A class with a received packet: what its objects are created from, how they are set and what they tell. A
message is `shared` when the two notifications of its domain, which lie at the same place, read alike. -/
structure ReceivedClass where
  wrapper : WrapperClass
  Start : Type
  given : Start → Told
  create : Start → wrapper.Object
  set : wrapper.Object → SetterCall → wrapper.Object
  tells : wrapper.Object → Told
  shared : FullMessage → FullMessage

/-- After some calls an object tells what was set last, and so does another that is constructed from the
message it packs. -/
structure ReceivedClass.Keeps (c : ReceivedClass) (start : c.Start) (calls : List SetterCall) (m : FullMessage)
    (memory : c.wrapper.Memory) : Prop where
  object : c.tells (run c.set (c.create start) calls) = (c.given start).after calls
  rebuilt : ∃ m₁ m₂ o, c.wrapper.pack m (run c.set (c.create start) calls) = some m₁ ∧
    c.wrapper.construct (c.shared m₁) memory = some (m₂,o) ∧ c.tells o = (c.given start).after calls

/-! The classes of the ESB domain. -/

/-- A channel and a packet, and what lies in the memory of the object. -/
structure Creation where
  memory : RawPacketReceived
  channel : UInt32
  packet : Packet 255

namespace RawPacketReceived

/-- The flags are left as they lie in memory. -/
def create (c : Creation) : RawPacketReceived := { c.memory.init with channel := c.channel, packet := c.packet }

def set (o : RawPacketReceived) : SetterCall → RawPacketReceived
  | .setChannel channel => { o with channel := channel }
  | .setPacket packet => { o with packet := packet }
  | .setRssi rssi => { o with rssi := ⟨true,rssi⟩ }
  | .setTimestamp timestamp => { o with timestamp := ⟨true,timestamp⟩ }
  | .setAddress address => { o with address := ⟨true,address.val⟩ }
  | .setCrcValidity validity => { o with crcValidity := ⟨true,validity⟩ }

/-- `hasTimestamp()` returns the timestamp and not its flag. -/
def tells (o : RawPacketReceived) : Told where
  channel := o.channel
  packet := o.packet.bytes
  rssi := told o.rssi
  timestamp := told ⟨o.timestamp.value != 0,o.timestamp.value⟩
  crcValidity := told o.crcValidity
  address := (told o.address).map shownBytes

end RawPacketReceived

def rawPacketReceivedClass : ReceivedClass where
  wrapper := rawPacketReceived
  Start := Creation
  given c := ⟨c.channel,c.packet.bytes,none,none,none,none⟩
  create := RawPacketReceived.create
  set := RawPacketReceived.set
  tells := RawPacketReceived.tells
  shared m := readAlso m (.esb .pdu) (m.msg (.esb .rawPdu))

def packetReceivedClass : ReceivedClass where
  wrapper := packetReceived
  Start := Creation
  given c := ⟨c.channel,c.packet.bytes,none,none,none,none⟩
  create := RawPacketReceived.create
  set := RawPacketReceived.set
  tells := RawPacketReceived.tells
  shared m := readAlso m (.esb .rawPdu) (m.msg (.esb .pdu))

/-- What lies in memory does not show: a flag is clear unless its setter is called. A timestamp of zero is
not told when it is set; when it is not, the timestamp in memory must be zero, and so must be that of the
object that is constructed, unless the flag in memory says that it is packed. -/
structure Unseen (c : Creation) (calls : List SetterCall) (rebuilt : RawPacketReceived) : Prop where
  rssi : latest SetterCall.rssi calls = none → c.memory.rssi.has = false
  crcValidity : latest SetterCall.crcValidity calls = none → c.memory.crcValidity.has = false
  address : latest SetterCall.address calls = none → c.memory.address.has = false
  timestamp : latest SetterCall.timestamp calls ≠ some 0
  noTimestamp : latest SetterCall.timestamp calls = none → c.memory.timestamp.value = 0
  rebuilt : latest SetterCall.timestamp calls = none → c.memory.timestamp.has = false → rebuilt.timestamp.value = 0

/-- A class keeps its fields if the object that was set and the one that is constructed tell what they should. -/
theorem ReceivedClass.keeps_iff_tells {c : ReceivedClass} {start : c.Start} {calls : List SetterCall} {m m₁ m₂ : FullMessage}
    {memory : c.wrapper.Memory} {o : c.wrapper.Object}
    (hp : c.wrapper.pack m (run c.set (c.create start) calls) = some m₁)
    (hc : c.wrapper.construct (c.shared m₁) memory = some (m₂,o)) :
    c.Keeps start calls m memory ↔
      c.tells (run c.set (c.create start) calls) = (c.given start).after calls ∧
        c.tells o = (c.given start).after calls := by
  constructor
  · rintro ⟨hobject,m₁',m₂',o',hp',hc',htells⟩
    obtain rfl := Option.some.inj (hp.symm.trans hp')
    obtain ⟨-,rfl⟩ := Prod.mk.inj (Option.some.inj (hc.symm.trans hc'))
    exact ⟨hobject,htells⟩
  · rintro ⟨hobject,htells⟩
    exact ⟨hobject,m₁,m₂,o,hp,hc,htells⟩

section
variable {α : Type} {x : OptionalField α}

theorem told_eq_none_iff : told x = none ↔ x.has = false := by
  cases h : x.has <;> simp [told, h]

theorem told_of_same {y : OptionalField α} (h : x.Same y) : told x = told y := by
  obtain ⟨has,v⟩ := x
  obtain ⟨has',v'⟩ := y
  obtain ⟨rfl,hvalue⟩ := h
  cases has with
  | false => rfl
  | true => exact congrArg some (hvalue rfl)

/-- A field that a setter overwrites is told if the setter is called, or if it is absent in memory. -/
theorem told_written_iff (set : Option α) :
    told (set.elim x fun v => ⟨true,v⟩) = set ↔ (set = none → x.has = false) := by
  cases set with
  | none => exact told_eq_none_iff.trans (true_imp_iff.symm.trans (imp_congr_left (by simp)))
  | some v => simp [told]

theorem elim_id_eq_getD (set : Option α) (given : α) : set.elim given id = set.getD given := by
  cases set <;> rfl

theorem told_nonzero_eq_none_iff (v : UInt32) : told ⟨v != 0,v⟩ = none ↔ v = 0 := by
  rw [told_eq_none_iff]
  simp

theorem told_nonzero_eq_some_iff (v : UInt32) : told ⟨v != 0,v⟩ = some v ↔ v ≠ 0 := by
  by_cases h : v = 0 <;> simp [told, h]

end

/-- What the calls leave of every member. -/
structure Written (c : Creation) (calls : List SetterCall) (o : RawPacketReceived) : Prop where
  channel : o.channel = (latest SetterCall.channel calls).elim c.channel id
  packet : o.packet = (latest SetterCall.packet calls).elim c.packet id
  rssi : o.rssi = (latest SetterCall.rssi calls).elim c.memory.rssi fun v => ⟨true,v⟩
  timestamp : o.timestamp = (latest SetterCall.timestamp calls).elim c.memory.timestamp fun v => ⟨true,v⟩
  crcValidity : o.crcValidity = (latest SetterCall.crcValidity calls).elim c.memory.crcValidity fun v => ⟨true,v⟩
  address : o.address = (latest SetterCall.address calls).elim
    ⟨c.memory.address.has,esbAddress.construct (memset 0)⟩ fun a => ⟨true,a.val⟩

/-- Each call writes one member. -/
theorem written_run (c : Creation) (calls : List SetterCall) :
    Written c calls (run RawPacketReceived.set (.create c) calls) where
  channel := run_latest RawPacketReceived.channel (fun _ call => by cases call <;> rfl) _ calls
  packet := run_latest RawPacketReceived.packet (fun _ call => by cases call <;> rfl) _ calls
  rssi := run_latest RawPacketReceived.rssi (fun _ call => by cases call <;> rfl) _ calls
  timestamp := run_latest RawPacketReceived.timestamp (fun _ call => by cases call <;> rfl) _ calls
  crcValidity := run_latest RawPacketReceived.crcValidity (fun _ call => by cases call <;> rfl) _ calls
  address := run_latest RawPacketReceived.address (fun _ call => by cases call <;> rfl) _ calls

section
variable {c : Creation} {calls : List SetterCall} {o o' : RawPacketReceived}

theorem Written.bounded (h : Written c calls o) : 0 ≤ o.address.value.size ∧ o.address.value.size ≤ 5 := by
  rw [h.address]
  cases latest SetterCall.address calls with
  | none => exact ⟨le_rfl,show (0 : ℤ) ≤ 5 by decide⟩
  | some a => exact a.property

/-- An object tells what was set if nothing shows that lies in memory, and no timestamp of zero is set. -/
theorem Written.tells_iff (h : Written c calls o) :
    o.tells = Told.after ⟨c.channel,c.packet.bytes,none,none,none,none⟩ calls ↔
      (latest SetterCall.rssi calls = none → c.memory.rssi.has = false) ∧
      (latest SetterCall.timestamp calls ≠ some 0 ∧
        (latest SetterCall.timestamp calls = none → c.memory.timestamp.value = 0)) ∧
      (latest SetterCall.crcValidity calls = none → c.memory.crcValidity.has = false) ∧
      (latest SetterCall.address calls = none → c.memory.address.has = false) := by
  have hchannel : o.channel = (latest SetterCall.channel calls).getD c.channel := by
    rw [h.channel, elim_id_eq_getD]
  have hpacket : o.packet.bytes = ((latest SetterCall.packet calls).map Packet.bytes).getD c.packet.bytes := by
    rw [h.packet, elim_id_eq_getD, Option.getD_map]
  have hrssi := told_written_iff (x := c.memory.rssi) (latest SetterCall.rssi calls)
  rw [← h.rssi] at hrssi
  have hcrc := told_written_iff (x := c.memory.crcValidity) (latest SetterCall.crcValidity calls)
  rw [← h.crcValidity] at hcrc
  have htimestamp : told ⟨o.timestamp.value != 0,o.timestamp.value⟩ = latest SetterCall.timestamp calls ↔
      latest SetterCall.timestamp calls ≠ some 0 ∧
        (latest SetterCall.timestamp calls = none → c.memory.timestamp.value = 0) := by
    rw [h.timestamp]
    cases latest SetterCall.timestamp calls with
    | none => simp [told_nonzero_eq_none_iff]
    | some v => simp [told_nonzero_eq_some_iff]
  have haddress : (told o.address).map shownBytes =
      (latest SetterCall.address calls).map (fun a => shownBytes a.val) ↔
        (latest SetterCall.address calls = none → c.memory.address.has = false) := by
    rw [h.address]
    cases latest SetterCall.address calls with
    | none => simp [told_eq_none_iff]
    | some a => simp [told]
  simp only [RawPacketReceived.tells, Told.after, Told.mk.injEq, Option.or_none, hchannel, hpacket, hrssi, hcrc,
    htimestamp, haddress, true_and]

end

/-- Two objects have the same members, as far as they are there. -/
structure SameMembers (o o' : RawPacketReceived) : Prop where
  channel : o'.channel = o.channel
  packet : o'.packet.bytes = o.packet.bytes
  rssi : told o'.rssi = told o.rssi
  timestamp : told o'.timestamp = told o.timestamp
  crcValidity : told o'.crcValidity = told o.crcValidity
  address : (told o'.address).map shownBytes = (told o.address).map shownBytes

/-- The member of a message that an object stands for. -/
def memberOf (o : RawPacketReceived) : PduReceived where
  channel := o.channel
  rssi := o.rssi
  timestamp := ⟨o.timestamp.has,o.timestamp.value.toUInt64⟩
  crcValidity := o.crcValidity
  address := ⟨o.address.has,⟨o.address.value.size.toNat,o.address.value.address⟩⟩
  pdu := ⟨o.packet.bytes.length,copyOf o.packet.getBytes⟩

section
variable {o o' : RawPacketReceived} {p : PduReceived}

theorem loaded_memberOf (h : 0 ≤ o.address.value.size ∧ o.address.value.size ≤ 5) : Loaded (memberOf o) o where
  channel := rfl
  rssi := ⟨rfl,fun _ => rfl⟩
  timestamp := ⟨rfl,fun _ => (UInt32.toUInt32_toUInt64 _).symm⟩
  crcValidity := ⟨rfl,fun _ => rfl⟩
  hasAddress := rfl
  address := fun _ => by
    have hself := readsAs_self (x := (⟨o.address.value.size.toNat,o.address.value.address⟩ : BytesArray 5))
      (show o.address.value.size.toNat ≤ 5 by omega)
    rw [Int.toNat_of_nonneg h.1] at hself
    exact hself
  packet := readsAs_of_take o.packet.bounded (take_copyOf _ o.packet.bounded).symm

theorem fits_memberOf (h : 0 ≤ o.address.value.size ∧ o.address.value.size ≤ 5) : Fits (memberOf o) where
  pdu := o.packet.bounded
  address := fun _ => show o.address.value.size.toNat ≤ 5 by omega

/-- What carries one packet has the same members. -/
theorem Loaded.sameMembers (h : Loaded p o) (h' : Loaded p o') : SameMembers o o' where
  channel := h'.channel.trans h.channel.symm
  packet := by
    have hbytes {packet : Packet 255} (hreads : ReadsAs p.pdu packet.getBytes packet.getSize) :
        p.pdu.content = some packet.bytes := by
      rw [hreads.content, ← show packet.bytes.length = p.pdu.size from Int.ofNat.inj hreads.size]
      exact congrArg some (take_getD packet.bytes)
    exact Option.some.inj ((hbytes h'.packet).symm.trans (hbytes h.packet))
  rssi := (told_of_same h'.rssi).trans (told_of_same h.rssi).symm
  timestamp := (told_of_same h'.timestamp).trans (told_of_same h.timestamp).symm
  crcValidity := (told_of_same h'.crcValidity).trans (told_of_same h.crcValidity).symm
  address := by
    cases hhas : p.address.has with
    | false =>
      rw [told_eq_none_iff.mpr (h'.hasAddress.trans hhas), told_eq_none_iff.mpr (h.hasAddress.trans hhas)]
    | true =>
      have hbytes {address : EsbAddress} (hreads : ReadsAs p.address.value (bufferOf address.address) address.size) :
          p.address.value.content = some (shownBytes address) := by
        rw [hreads.content, shownBytes, hreads.size, Int.toNat_natCast]
      have hsame := (hbytes (h'.address hhas)).symm.trans (hbytes (h.address hhas))
      have hhas₁ : o.address.has = true := h.hasAddress.trans hhas
      have hhas₂ : o'.address.has = true := h'.hasAddress.trans hhas
      simpa only [told, hhas₁, hhas₂, if_true, Option.map_some] using hsame

/-- An object is stored in any member, and what is loaded from there has the members of the object. -/
theorem exists_stored (h : 0 ≤ o.address.value.size ∧ o.address.value.size ≤ 5) (p₀ : PduReceived) :
    ∃ q, storeRecvdPacket o.params p₀ = done q ∧ Fits q ∧ q.timestamp.has = o.timestamp.has ∧
      ∀ o', Loaded q o' → SameMembers o o' := by
  have hloaded := loaded_memberOf h
  obtain ⟨q,hq,hstored⟩ := store_spec p₀ hloaded
  exact ⟨q,hq,hstored.fits (fits_memberOf h),hstored.timestamp.1,fun o' ho' => hloaded.sameMembers (ho'.of_stored hstored)⟩

end

/-- An object that tells what was set is rebuilt as one that does, if the timestamp that lies in the memory of
the other one does not show. -/
theorem Written.rebuilt_iff {c : Creation} {calls : List SetterCall} {o o' : RawPacketReceived} {given : Told}
    {rebuilt : UInt32} (h : Written c calls o) (htells : o.tells = given.after calls)
    (hzero : latest SetterCall.timestamp calls = none → c.memory.timestamp.value = 0) (hsame : SameMembers o o')
    (hrebuilt : o.timestamp.has = false → o'.timestamp.value = rebuilt) :
    o'.tells = given.after calls ↔
      (latest SetterCall.timestamp calls = none → c.memory.timestamp.has = false → rebuilt = 0) := by
  have htold : o'.tells = o.tells ↔
      told ⟨o'.timestamp.value != 0,o'.timestamp.value⟩ = told ⟨o.timestamp.value != 0,o.timestamp.value⟩ := by
    simp only [RawPacketReceived.tells, Told.mk.injEq, hsame.channel, hsame.packet, hsame.rssi, hsame.crcValidity,
      hsame.address, true_and, and_true]
  rw [← htells, htold]
  cases hhas : o.timestamp.has with
  | true =>
    -- the timestamp is packed, whether it was set or not
    have hpacked : told o'.timestamp = some o.timestamp.value := by
      rw [hsame.timestamp, told, if_pos hhas]
    have hvalue : o'.timestamp.value = o.timestamp.value := by
      rw [told, Option.ite_none_right_eq_some] at hpacked
      exact Option.some.inj hpacked.2
    refine iff_of_true (by rw [hvalue]) fun hnone hclear => ?_
    rw [h.timestamp, hnone] at hhas
    exact absurd (hclear.symm.trans hhas) Bool.false_ne_true
  | false =>
    have hnone : latest SetterCall.timestamp calls = none := by
      rw [h.timestamp] at hhas
      cases hset : latest SetterCall.timestamp calls with
      | none => rfl
      | some v =>
        rw [hset] at hhas
        contradiction
    rw [h.timestamp, hnone] at hhas
    have hvalue : o.timestamp.value = 0 := by
      rw [h.timestamp, hnone]
      exact hzero hnone
    rw [hrebuilt (by rw [h.timestamp, hnone]; exact hhas), hvalue, (told_nonzero_eq_none_iff 0).mpr rfl,
      told_nonzero_eq_none_iff]
    exact ⟨fun hr _ _ => hr,fun hr => hr hnone hhas⟩

/-- Both objects tell what was set if nothing shows that lies in memory. -/
theorem Written.unseen_iff {c : Creation} {calls : List SetterCall} {o o' rebuilt : RawPacketReceived}
    (h : Written c calls o) (hsame : SameMembers o o')
    (hrebuilt : o.timestamp.has = false → o'.timestamp.value = rebuilt.timestamp.value) :
    (o.tells = Told.after ⟨c.channel,c.packet.bytes,none,none,none,none⟩ calls ∧
        o'.tells = Told.after ⟨c.channel,c.packet.bytes,none,none,none,none⟩ calls) ↔ Unseen c calls rebuilt := by
  constructor
  · rintro ⟨htells,htells'⟩
    obtain ⟨hrssi,⟨htimestamp,hzero⟩,hcrc,haddress⟩ := h.tells_iff.mp htells
    exact ⟨hrssi,hcrc,haddress,htimestamp,hzero,(h.rebuilt_iff htells hzero hsame hrebuilt).mp htells'⟩
  · rintro ⟨hrssi,hcrc,haddress,htimestamp,hzero,hkept⟩
    have htells := h.tells_iff.mpr ⟨hrssi,⟨htimestamp,hzero⟩,hcrc,haddress⟩
    exact ⟨htells,(h.rebuilt_iff htells hzero hsame hrebuilt).mpr hkept⟩

section
attribute [local irreducible] FullMessage.build
variable (start : Creation) (calls : List SetterCall) (m : FullMessage)

theorem rawPacketReceived_keeps_iff (memory : RawPacketReceived × EsbRecvdPacket) :
    rawPacketReceivedClass.Keeps start calls m memory ↔ Unseen start calls memory.1 := by
  have hwritten := written_run start calls
  obtain ⟨q,hq,hfits,hhas,hsame⟩ := exists_stored hwritten.bounded (m.msg (.esb .rawPdu))
  let stored := m.put (.esb .rawPdu) q
  have hraw : (rawPacketReceivedClass.shared stored).msg (.esb .rawPdu) = q := by
    simp [stored, rawPacketReceivedClass, readAlso]
  obtain ⟨o,ho,hloaded,htimestamp⟩ := rawPacketReceived_construct hraw hfits memory
  refine (ReceivedClass.keeps_iff_tells (c := rawPacketReceivedClass) (packed_build hq) ho).trans ?_
  exact hwritten.unseen_iff (hsame o hloaded) fun hclear => htimestamp (hhas.trans hclear)

theorem packetReceived_keeps_iff (memory : RawPacketReceived × EsbRecvdPacket × EsbRecvdPacket) :
    packetReceivedClass.Keeps start calls m memory ↔ Unseen start calls memory.1 := by
  have hwritten := written_run start calls
  obtain ⟨q,hq,hfits,hhas,hsame⟩ := exists_stored hwritten.bounded (m.msg (.esb .pdu))
  let stored := m.put (.esb .pdu) q
  have hraw : (packetReceivedClass.shared stored).msg (.esb .rawPdu) = q := by
    simp [stored, packetReceivedClass, readAlso]
  have hpdu : (packetReceivedClass.shared stored).msg (.esb .pdu) = q := by
    simp [stored, packetReceivedClass, readAlso]
  obtain ⟨q',o,ho,hloaded,htimestamp⟩ := packetReceived_construct hraw hpdu hfits memory
  refine (ReceivedClass.keeps_iff_tells (c := packetReceivedClass) (packed_build hq) ho).trans ?_
  exact hwritten.unseen_iff (hsame o hloaded) fun hclear => htimestamp (hhas.trans hclear)

end
end WhadLib.Esb.Wrapper
