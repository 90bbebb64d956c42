import WhadLib.Esb.Setters
import WhadLib.Unifying.Faithful

/-! What an object of the Unifying domain with a received packet tells of its optional fields, and with it what
those of both domains do. -/
namespace WhadLib.Unifying.Wrapper
open Library Cpp
open Esb (EsbAddress EsbRecvdPacket PduReceived loadRecvdPacket storeRecvdPacket)
open Esb.Wrapper (Fits Loaded NodeAddress RawPacketReceived ReceivedClass SameMembers SetterCall Told elim_id_eq_getD
  exists_stored readAlso shownBytes told told_eq_none_iff)

/-- The packet that an object is created from, and what lies in the memory of its address. -/
structure Creation where
  packet : UnifyingPacket
  memory : Vector UInt8 5

namespace Received

def create (c : Creation) : Received := ⟨c.packet,false,unifyingAddress.construct c.memory⟩

/-- The setters of the packet are called through `getPacket()`. An address is assigned as `set()` copies it,
which leaves the old one when the new one is empty. -/
def set (o : Received) : SetterCall → Received
  | .setChannel channel => { o with packet := { o.packet with channel := channel } }
  | .setPacket pdu => { o with packet := { o.packet with pdu := pdu } }
  | .setRssi rssi => { o with packet := { o.packet with rssi := ⟨true,rssi⟩ } }
  | .setTimestamp timestamp => { o with packet := { o.packet with timestamp := ⟨true,timestamp⟩ } }
  | .setCrcValidity valid => { o with packet := { o.packet with crcValidity := ⟨true,valid⟩ } }
  | .setAddress address => { o with
      hasAddress := true
      address := (unifyingAddress.set o.address (bufferOf address.val.address) address.val.size).getD o.address }

def tells (o : Received) : Told where
  channel := o.packet.channel
  packet := o.packet.pdu.bytes
  rssi := told o.packet.rssi
  timestamp := told o.packet.timestamp
  crcValidity := told o.packet.crcValidity
  address := (told ⟨o.hasAddress,o.address⟩).map shownBytes

/-- A packet tells of the fields that it has. -/
def given (c : Creation) : Told where
  channel := c.packet.channel
  packet := c.packet.pdu.bytes
  rssi := told c.packet.rssi
  timestamp := told c.packet.timestamp
  crcValidity := told c.packet.crcValidity
  address := none

end Received

def pduReceivedClass : ReceivedClass where
  wrapper := pduReceived
  Start := Creation
  given := Received.given
  create := Received.create
  set := Received.set
  tells := Received.tells
  shared m := readAlso m (.unifying .rawPdu) (m.msg (.unifying .pdu))

def rawPduReceivedClass : ReceivedClass where
  wrapper := rawPduReceived
  Start := Creation
  given := Received.given
  create := Received.create
  set := Received.set
  tells := Received.tells
  shared m := readAlso m (.unifying .pdu) (m.msg (.unifying .rawPdu))

/-- The flag of the address that the constructor leaves as it lies in memory is right, and the last address has
a byte unless none has. -/
structure Unseen (calls : List SetterCall) (memory : Bool × Vector UInt8 5) : Prop where
  hasAddress : memory.1 = (latest SetterCall.address calls).isSome
  assigned : ∀ address ∈ latest SetterCall.address calls, address.val.size = 0 →
    ∀ earlier, .setAddress earlier ∈ calls → earlier.val.size = 0

/-- The address of a call that is assigned. -/
def taken (call : SetterCall) : Option NodeAddress := call.address.filter fun a => a.val.size ≠ 0

theorem shownBytes_eq_nil_iff (address : NodeAddress) : shownBytes address.val = [] ↔ address.val.size = 0 := by
  have hnonneg := address.property.1
  rw [← List.length_eq_zero_iff]
  simp only [shownBytes, Buffer.take, List.length_map, List.length_range]
  omega

/-- An address without bytes is not assigned. -/
theorem exists_assigned (address : EsbAddress) (other : NodeAddress) :
    ∃ assigned, unifyingAddress.set address (bufferOf other.val.address) other.val.size = some assigned ∧
      (other.val.size = 0 → assigned = address) ∧
      (other.val.size ≠ 0 → assigned.size = other.val.size ∧ shownBytes assigned = shownBytes other.val) := by
  obtain ⟨hnonneg,hmax⟩ := other.property
  by_cases hzero : other.val.size = 0
  · exact ⟨address,if_neg (by omega),fun _ => rfl,fun h => absurd hzero h⟩
  · obtain ⟨bytes,hbytes,htake⟩ := exists_memcpy address.address (bufferOf other.val.address)
      (show other.val.size.toNat ≤ 5 by omega)
    rw [Int.toNat_of_nonneg hnonneg] at hbytes
    have hbounds : 1 ≤ other.val.size ∧ other.val.size ≤ 5 := by omega
    refine ⟨⟨bytes,other.val.size⟩,(if_pos hbounds).trans ?_,fun h => absurd h hzero,fun _ => ⟨rfl,htake⟩⟩
    rw [hbytes]
    rfl

/-- What the calls leave of every member. -/
structure Written (c : Creation) (calls : List SetterCall) (o : Received) : Prop where
  channel : o.packet.channel = (latest SetterCall.channel calls).elim c.packet.channel id
  pdu : o.packet.pdu = (latest SetterCall.packet calls).elim c.packet.pdu id
  rssi : o.packet.rssi = (latest SetterCall.rssi calls).elim c.packet.rssi fun v => ⟨true,v⟩
  timestamp : o.packet.timestamp = (latest SetterCall.timestamp calls).elim c.packet.timestamp fun v => ⟨true,v⟩
  crcValidity : o.packet.crcValidity = (latest SetterCall.crcValidity calls).elim c.packet.crcValidity fun v => ⟨true,v⟩
  hasAddress : o.hasAddress = (latest SetterCall.address calls).elim false fun _ => true
  size : o.address.size = (latest taken calls).elim 0 fun a => a.val.size
  address : shownBytes o.address = (latest taken calls).elim [] fun a => shownBytes a.val

/-- What is seen of the address that is there after a call, when it is seen of one that is assigned. -/
theorem shown_set {α : Type} (shown : EsbAddress → α) (hshown : ∀ (other : NodeAddress) (assigned : EsbAddress),
      assigned.size = other.val.size ∧ shownBytes assigned = shownBytes other.val → shown assigned = shown other.val)
    (o : Received) (call : SetterCall) :
    shown (o.set call).address = (taken call).elim (shown o.address) fun a => shown a.val := by
  cases call
  case setAddress other =>
    obtain ⟨assigned,hassigned,hempty,hfilled⟩ := exists_assigned o.address other
    have hnew : (o.set (.setAddress other)).address = assigned := by
      simp only [Received.set, hassigned, Option.getD_some]
    rw [hnew, taken, SetterCall.address]
    by_cases hzero : other.val.size = 0
    · rw [hempty hzero, Option.filter_some_neg (by simp [hzero])]
      rfl
    · rw [Option.filter_some_pos (by simp [hzero])]
      exact hshown other assigned (hfilled hzero)
  all_goals rfl

/-- A call writes one member, but an empty address is not assigned. -/
theorem written_run (c : Creation) (calls : List SetterCall) : Written c calls (run Received.set (.create c) calls) := by
  constructor
  case channel => exact run_latest (fun o : Received => o.packet.channel) (fun _ call => by cases call <;> rfl) _ calls
  case pdu => exact run_latest (fun o : Received => o.packet.pdu) (fun _ call => by cases call <;> rfl) _ calls
  case rssi => exact run_latest (fun o : Received => o.packet.rssi) (fun _ call => by cases call <;> rfl) _ calls
  case timestamp => exact run_latest (fun o : Received => o.packet.timestamp) (fun _ call => by cases call <;> rfl) _ calls
  case crcValidity => exact run_latest (fun o : Received => o.packet.crcValidity) (fun _ call => by cases call <;> rfl) _ calls
  case hasAddress => exact run_latest (fun o : Received => o.hasAddress) (fun _ call => by cases call <;> rfl) _ calls
  case size => exact run_latest (fun o : Received => o.address.size) (shown_set EsbAddress.size fun _ _ h => h.1) _ calls
  case address => exact run_latest (fun o : Received => shownBytes o.address) (shown_set shownBytes fun _ _ h => h.2) _ calls

theorem taken_eq_some_iff {call : SetterCall} {address : NodeAddress} :
    taken call = some address ↔ call = .setAddress address ∧ address.val.size ≠ 0 := by
  cases call <;> simp [taken, SetterCall.address, Option.filter_eq_some_iff]

/-- The last address is the one that is there unless it is empty and an earlier one is not. -/
theorem latest_taken_iff {calls : List SetterCall} {address : NodeAddress}
    (h : latest SetterCall.address calls = some address) :
    (latest taken calls).elim [] (fun a => shownBytes a.val) = shownBytes address.val ↔
      (address.val.size = 0 → ∀ earlier, .setAddress earlier ∈ calls → earlier.val.size = 0) := by
  by_cases hzero : address.val.size = 0
  · rw [(shownBytes_eq_nil_iff address).mpr hzero]
    cases htaken : latest taken calls with
    | none =>
      refine iff_of_true rfl fun _ earlier hcall => ?_
      by_contra hne
      have hnone := latest_eq_none_iff.mp htaken _ hcall
      rw [taken_eq_some_iff.mpr ⟨rfl,hne⟩] at hnone
      contradiction
    | some b =>
      obtain ⟨call,hmem,hcall⟩ := exists_of_latest htaken
      obtain ⟨rfl,hne⟩ := taken_eq_some_iff.mp hcall
      exact iff_of_false (fun h => hne ((shownBytes_eq_nil_iff b).mp h)) fun h => hne (h hzero b hmem)
  · have htaken : latest taken calls = some address := latest_filter h (by simpa using hzero)
    rw [htaken]
    exact iff_of_true rfl fun h => absurd h hzero

section
variable {c : Creation} {calls : List SetterCall} {o : Received}

theorem Written.bounded (h : Written c calls o) : 0 ≤ o.address.size ∧ o.address.size ≤ 5 := by
  rw [h.size]
  cases latest taken calls with
  | none => exact ⟨le_rfl,show (0 : ℤ) ≤ 5 by decide⟩
  | some a => exact a.property

theorem told_elim {α : Type} (x : OptionalField α) (set : Option α) :
    told (set.elim x fun v => ⟨true,v⟩) = set.or (told x) := by
  cases set <;> rfl

/-- An object tells what was set unless an empty address should have been assigned. -/
theorem Written.tells_iff (h : Written c calls o) :
    o.tells = (Received.given c).after calls ↔
      ∀ address ∈ latest SetterCall.address calls, address.val.size = 0 →
        ∀ earlier, .setAddress earlier ∈ calls → earlier.val.size = 0 := by
  have hchannel : o.packet.channel = (latest SetterCall.channel calls).getD c.packet.channel := by
    rw [h.channel, elim_id_eq_getD]
  have hpdu : o.packet.pdu.bytes = ((latest SetterCall.packet calls).map Packet.bytes).getD c.packet.pdu.bytes := by
    rw [h.pdu, elim_id_eq_getD, Option.getD_map]
  have haddress : (told ⟨o.hasAddress,o.address⟩).map shownBytes =
      (latest SetterCall.address calls).map (fun a => shownBytes a.val) ↔
        ∀ address ∈ latest SetterCall.address calls, address.val.size = 0 →
          ∀ earlier, .setAddress earlier ∈ calls → earlier.val.size = 0 := by
    rw [h.hasAddress]
    cases hlatest : latest SetterCall.address calls with
    | none => simp [told]
    | some address =>
      simp only [told, Option.elim_some, if_true, Option.map_some, Option.some.injEq, h.address,
        latest_taken_iff hlatest, Option.mem_def, forall_eq']
  simp only [Received.tells, Received.given, Told.after, Told.mk.injEq, Option.or_none, hchannel, hpdu, h.rssi,
    h.timestamp, h.crcValidity, told_elim, haddress, true_and]

/-- An object that tells what was set is rebuilt as one that does if its flag says whether there is an
address. -/
theorem Written.rebuilt_iff {o' : Received} {has : Bool} (h : Written c calls o)
    (htells : o.tells = (Received.given c).after calls)
    (hsame : SameMembers (o.withFlag o.hasAddress) (o'.withFlag has)) :
    o'.tells = (Received.given c).after calls ↔ o'.hasAddress = (latest SetterCall.address calls).isSome := by
  have htold (b : Bool) : ((told (⟨b,o'.address⟩ : OptionalField EsbAddress)).map shownBytes).isSome = b := by
    cases b <;> rfl
  have haddress : (told (⟨has,o'.address⟩ : OptionalField EsbAddress)).map shownBytes =
      (told ⟨o.hasAddress,o.address⟩).map shownBytes := hsame.address
  have hflag : has = (latest SetterCall.address calls).isSome := by
    have hsome := congrArg Option.isSome haddress
    rw [htold, h.hasAddress] at hsome
    rw [hsome]
    cases latest SetterCall.address calls <;> rfl
  have hpacket : o'.packet.pdu.bytes = o.packet.pdu.bytes := hsame.packet
  have hchannel : o'.packet.channel = o.packet.channel := hsame.channel
  have hrssi : told o'.packet.rssi = told o.packet.rssi := hsame.rssi
  have htimestamp : told o'.packet.timestamp = told o.packet.timestamp := hsame.timestamp
  have hcrc : told o'.packet.crcValidity = told o.packet.crcValidity := hsame.crcValidity
  rw [← htells, ← hflag]
  simp only [Received.tells, Told.mk.injEq, hchannel, hpacket, hrssi, htimestamp, hcrc, ← haddress, true_and]
  constructor
  · intro htells'
    have hsome := congrArg Option.isSome htells'
    rwa [htold, htold] at hsome
  · intro heq
    rw [heq]

end

section
attribute [local irreducible] FullMessage.build
variable (start : Creation) (calls : List SetterCall) (m : FullMessage)

/-- Both classes build on their own member, and are constructed from it. -/
theorem receiving_keeps_iff {kind : Kind} {parser : Option FullMessage → Option EsbRecvdPacket → Parsed EsbRecvdPacket}
    {builder : Option FullMessage → Option EsbRecvdPacket → Outcome} {member : FullMessage → PduReceived}
    {shared : FullMessage → FullMessage} (memory : (Bool × Vector UInt8 5) × EsbRecvdPacket)
    (hparser : ∀ m s s', loadRecvdPacket (member m) s = done s' → parsedBy (parser (some m) (some s)) = some s')
    (hbuilder : ∀ pdu q, storeRecvdPacket pdu (member m) = done q →
      ∃ m₁, packed (builder (some m) (some pdu)) = some m₁ ∧ member (shared m₁) = q) :
    ReceivedClass.Keeps ⟨receiving kind parser builder member,Creation,Received.given,Received.create,Received.set,
      Received.tells,shared⟩ start calls m memory ↔ Unseen calls memory.1 := by
  have hwritten := written_run start calls
  let o := run Received.set (.create start) calls
  obtain ⟨q,hq,hfits,-,hsame⟩ := exists_stored (o := o.withFlag o.hasAddress) hwritten.bounded (member m)
  obtain ⟨m₁,hm₁,hmember⟩ := hbuilder o.params q hq
  rw [← hmember] at hfits
  obtain ⟨o',ho',hflag,hloaded⟩ : ∃ o', (receiving kind parser builder member).construct (shared m₁) memory =
      some (shared m₁,o') ∧ o'.hasAddress = memory.1.1 ∧
      Loaded (member (shared m₁)) (o'.withFlag (member (shared m₁)).address.has) :=
    receiving_construct hfits (hparser _) memory
  refine (ReceivedClass.keeps_iff_tells hm₁ ho').trans ?_
  have hrebuilt (htells : o.tells = (Received.given start).after calls) :=
    hwritten.rebuilt_iff htells (hsame _ (by rw [← hmember]; exact hloaded))
  rw [hflag] at hrebuilt
  constructor
  · rintro ⟨htells,htells'⟩
    exact ⟨(hrebuilt htells).mp htells',hwritten.tells_iff.mp htells⟩
  · rintro ⟨hhas,hassigned⟩
    have htells := hwritten.tells_iff.mpr hassigned
    exact ⟨htells,(hrebuilt htells).mpr hhas⟩

theorem pduReceived_keeps_iff (memory : (Bool × Vector UInt8 5) × EsbRecvdPacket) :
    pduReceivedClass.Keeps start calls m memory ↔ Unseen calls memory.1 := by
  refine receiving_keeps_iff start calls m memory (fun _ _ _ h => parsedBy_parse h) fun pdu q hq => ?_
  exact ⟨m.put (.unifying .pdu) q,packed_build hq,by simp [readAlso]⟩

theorem rawPduReceived_keeps_iff (memory : (Bool × Vector UInt8 5) × EsbRecvdPacket) :
    rawPduReceivedClass.Keeps start calls m memory ↔ Unseen calls memory.1 := by
  refine receiving_keeps_iff start calls m memory (fun _ _ _ h => parsedBy_parse h) fun pdu q hq => ?_
  exact ⟨m.put (.unifying .rawPdu) q,packed_build hq,by simp [readAlso]⟩

end
end WhadLib.Unifying.Wrapper

namespace WhadLib
open Library Esb.Wrapper

/-- The classes of both domains. -/
inductive PacketObject
  | rawPacketReceived
  | packetReceived
  | rawPduReceived
  | pduReceived
  deriving DecidableEq, Repr

namespace PacketObject

abbrev receivedClass : PacketObject → ReceivedClass
  | .rawPacketReceived => rawPacketReceivedClass
  | .packetReceived => packetReceivedClass
  | .rawPduReceived => Unifying.Wrapper.rawPduReceivedClass
  | .pduReceived => Unifying.Wrapper.pduReceivedClass

/-- Nothing shows of what lies in memory, and no call sets a timestamp of zero or an empty address that an
object of the class does not take. -/
def Unseen : (k : PacketObject) → k.receivedClass.Start → List SetterCall → k.receivedClass.wrapper.Memory → Prop
  | .rawPacketReceived, start, calls, memory => Esb.Wrapper.Unseen start calls memory.1
  | .packetReceived, start, calls, memory => Esb.Wrapper.Unseen start calls memory.1
  | .rawPduReceived, _, calls, memory => Unifying.Wrapper.Unseen calls memory.1
  | .pduReceived, _, calls, memory => Unifying.Wrapper.Unseen calls memory.1

/-- An object keeps its optional fields, through any calls of its setters and through the message it packs,
if and only if nothing shows of what lies in memory. -/
theorem keeps_iff (k : PacketObject) (start : k.receivedClass.Start) (calls : List SetterCall) (m : FullMessage)
    (memory : k.receivedClass.wrapper.Memory) :
    k.receivedClass.Keeps start calls m memory ↔ k.Unseen start calls memory := by
  cases k with
  | rawPacketReceived => exact rawPacketReceived_keeps_iff start calls m memory
  | packetReceived => exact packetReceived_keeps_iff start calls m memory
  | rawPduReceived => exact Unifying.Wrapper.rawPduReceived_keeps_iff start calls m memory
  | pduReceived => exact Unifying.Wrapper.pduReceived_keeps_iff start calls m memory

/-- A timestamp of zero is not told although it was set in cleared memory, and the address that was added to
a notification of Unifying is gone from the object that is constructed, where its flag happens to be clear. -/
theorem zero_timestamp_and_address_are_lost :
    let cleared : RawPacketReceived := ⟨0,⟨false,0⟩,⟨false,0⟩,⟨false,false⟩,⟨false,default⟩,.empty⟩
    let packet : Unifying.Wrapper.UnifyingPacket := ⟨5,.empty,⟨false,0⟩,⟨false,0⟩,⟨false,false⟩⟩
    let address : NodeAddress := ⟨⟨memset 7,5⟩,by decide⟩
    ¬rawPacketReceivedClass.Keeps ⟨cleared,5,.empty⟩ [.setTimestamp 0] default (cleared,default) ∧
      ¬Unifying.Wrapper.rawPduReceivedClass.Keeps ⟨packet,memset 0⟩ [.setAddress address] default
        ((false,memset 0),default) := by
  intro cleared packet address
  constructor
  · intro h
    have htimestamp := congrArg Told.timestamp h.object
    exact absurd htimestamp (by decide)
  · intro h
    have hunseen := (Unifying.Wrapper.rawPduReceived_keeps_iff _ _ _ _).mp h
    exact absurd hunseen.hasAddress (by decide)

end PacketObject
end WhadLib
