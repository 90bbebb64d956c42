import WhadLib.RoundTrip
import WhadLib.Unifying.Faithful
import WhadLib.Unifying.Union

/-! What is read back of packets that were put into a notification of the ESB or the Unifying domain. -/
namespace WhadLib.Unifying
open Library Cpp
open Esb (EsbRecvdPacket PduReceived loadRecvdPacket storeOptional storeRecvdPacket whadEsbRawPduReceived
  whadEsbRawPduReceivedParse whadEsbPduReceived whadEsbPduReceivedParse)
open Esb.Wrapper (Fetched Fits loadRecvdPacket_spec storeOptional_shows)

/- A builder is compared with its member and its body, not with what setting both comes to. -/
attribute [local irreducible] FullMessage.build

/-- The notifications with a received packet. -/
inductive Reception
  | esbRawPdu
  | esbPdu
  | rawPdu
  | pdu

namespace Reception

/-- What a builder leaves of a message; that of raw packets of Unifying finds the given bytes there. -/
def build (m : FullMessage) (u : Buffer) (pdu : EsbRecvdPacket) : Reception → Outcome
  | .esbRawPdu => whadEsbRawPduReceived (some m) (some pdu)
  | .esbPdu => whadEsbPduReceived (some m) (some pdu)
  | .rawPdu => (storeReceived pdu u).map fun stored =>
      (stored.1,some (m.put (.unifying .rawPdu) (loadRawPdu stored.2)))
  | .pdu => whadUnifyingPduReceived (some m) (some pdu)

def parser : Reception → Option FullMessage → Option EsbRecvdPacket → Parsed EsbRecvdPacket
  | .esbRawPdu => whadEsbRawPduReceivedParse
  | .esbPdu => whadEsbPduReceivedParse
  | .rawPdu => whadUnifyingRawPduReceivedParse
  | .pdu => whadUnifyingPduReceivedParse

end Reception

/-- An address that is there has five bytes at most. -/
def AddressWithin (pdu : EsbRecvdPacket) : Prop :=
  pdu.address.has = true → 0 ≤ pdu.address.value.size ∧ pdu.address.value.size ≤ 5

def AddressTooLong (pdu : EsbRecvdPacket) : Prop := pdu.address.has = true ∧ 5 < pdu.address.value.size

/-- What was given to a builder. -/
structure SamePacket (pdu r : EsbRecvdPacket) : Prop where
  channel : r.channel = pdu.channel
  packet : SameBytes (bufferOf pdu.packet.bytes) pdu.packet.length.toNat (bufferOf r.packet.bytes) r.packet.length.toNat
  rssi : r.rssi.Same pdu.rssi
  timestamp : r.timestamp.Same pdu.timestamp
  crcValidity : r.crcValidity.Same pdu.crcValidity
  hasAddress : r.address.has = pdu.address.has
  address : pdu.address.has = true → SameBytes (bufferOf pdu.address.value.address) pdu.address.value.size.toNat
    (bufferOf r.address.value.address) r.address.value.size

/-- What a member holds of it. -/
structure Holds (pdu : EsbRecvdPacket) (p : PduReceived) : Prop where
  channel : p.channel = pdu.channel
  packet : SameBytes (bufferOf pdu.packet.bytes) pdu.packet.length.toNat (bufferOf p.pdu.bytes) p.pdu.size
  rssi : p.rssi.Same pdu.rssi
  timestamp : p.timestamp.Same ⟨pdu.timestamp.has,pdu.timestamp.value.toUInt64⟩
  crcValidity : p.crcValidity.Same pdu.crcValidity
  hasAddress : p.address.has = pdu.address.has
  address : pdu.address.has = true → SameBytes (bufferOf pdu.address.value.address) pdu.address.value.size.toNat
    (bufferOf p.address.value.bytes) p.address.value.size
  fits : Fits p

section
variable {pdu : EsbRecvdPacket} {p : PduReceived} {m : FullMessage} {u : Buffer}

/-- On the bytes that a member was read from, a builder does what that of the model does. -/
theorem build_rawPdu (pdu : EsbRecvdPacket) (h : loadRawPdu u = m.msg (.unifying .rawPdu)) :
    Reception.rawPdu.build m u pdu = whadUnifyingRawPduReceived (some m) (some pdu) := by
  have hrefines := storeReceived_refines pdu u
  rw [h] at hrefines
  simp only [whadUnifyingRawPduReceived, FullMessage.build, ← hrefines, Reception.build, Option.map_map]
  rfl

/-- A packet with an address that fits, or without one, is stored. -/
theorem exists_storeRecvdPacket (h : AddressWithin pdu) (p : PduReceived) :
    ∃ q, storeRecvdPacket pdu p = done q ∧ Holds pdu q := by
  have hlength : pdu.packet.length.toNat ≤ 255 := Nat.le_of_lt_succ pdu.packet.length.toNat_lt
  obtain ⟨stored,hstored,hsame,hsize⟩ := exists_fill_sameBytes p.pdu (bufferOf pdu.packet.bytes) hlength (by decide)
  let q (address : OptionalField (BytesArray 5)) : PduReceived := {
    channel := pdu.channel, pdu := stored, rssi := storeOptional pdu.rssi id p.rssi
    timestamp := storeOptional pdu.timestamp UInt32.toUInt64 p.timestamp
    crcValidity := storeOptional pdu.crcValidity id p.crcValidity, address := address }
  simp only [storeRecvdPacket, hstored, Option.bind_eq_bind, Option.bind_some]
  by_cases hhas : pdu.address.has = true
  · obtain ⟨hzero,hmax⟩ := h hhas
    have hfits : pdu.address.value.size.toNat ≤ 5 := by omega
    obtain ⟨address,haddress,hasame,hasize⟩ :=
      exists_fill_sameBytes p.address.value (bufferOf pdu.address.value.address) hfits (by decide)
    rw [Int.toNat_of_nonneg hzero] at haddress
    refine ⟨q ⟨true,address⟩,?_,rfl,hsame,storeOptional_shows _ id _,storeOptional_shows _ UInt32.toUInt64 _,
      storeOptional_shows _ id _,hhas.symm,fun _ => hasame,hsize,fun _ => hasize⟩
    rw [if_pos hhas, if_neg (by omega), haddress]
    rfl
  · refine ⟨q ⟨false,⟨0,memset 0⟩⟩,if_neg hhas,rfl,hsame,storeOptional_shows _ id _,
      storeOptional_shows _ UInt32.toUInt64 _,storeOptional_shows _ id _,(Bool.eq_false_iff.mpr hhas).symm,
      fun h => absurd h hhas,hsize,fun _ => Nat.zero_le _⟩

theorem storeRecvdPacket_tooLong (h : AddressTooLong pdu) (p : PduReceived) :
    ∃ q, storeRecvdPacket pdu p = failed q := by
  have hlength : pdu.packet.length.toNat ≤ 255 := Nat.le_of_lt_succ pdu.packet.length.toNat_lt
  obtain ⟨stored,hstored,-⟩ := exists_fill_sameBytes p.pdu (bufferOf pdu.packet.bytes) hlength (by decide)
  simp only [storeRecvdPacket, hstored, Option.bind_eq_bind, Option.bind_some]
  exact ⟨_,(if_pos h.1).trans (if_pos h.2)⟩

/-- What a member holds comes back. -/
theorem exists_loadRecvdPacket (h : Holds pdu p) (s : EsbRecvdPacket) :
    ∃ r, loadRecvdPacket p s = done r ∧ SamePacket pdu r := by
  obtain ⟨r,hr,hfetched⟩ := loadRecvdPacket_spec h.fits s
  refine ⟨r,hr,?_⟩
  exact {
    channel := hfetched.channel.trans h.channel
    packet := h.packet.of_readsAs hfetched.packet
    rssi := same_trans hfetched.rssi h.rssi
    timestamp := by
      refine same_trans hfetched.timestamp ⟨h.timestamp.1,fun hhas => ?_⟩
      exact (congrArg UInt64.toUInt32 (h.timestamp.2 hhas)).trans (UInt32.toUInt32_toUInt64 _)
    crcValidity := same_trans hfetched.crcValidity h.crcValidity
    hasAddress := hfetched.hasAddress.trans h.hasAddress
    address := fun hhas => (h.address hhas).of_readsAs (hfetched.address (h.hasAddress.trans hhas)) }

/-- The member that a notification is in. -/
def Reception.member (m : FullMessage) : Reception → PduReceived
  | .esbRawPdu => m.msg (.esb .rawPdu)
  | .esbPdu => m.msg (.esb .pdu)
  | .rawPdu => m.msg (.unifying .rawPdu)
  | .pdu => m.msg (.unifying .pdu)

/-- Every builder stores the packet in its member, and that is what its parser reads. -/
theorem exists_build (f : Reception) (pdu : EsbRecvdPacket) (m : FullMessage) (u : Buffer) :
    ∃ p, ∀ r q, storeRecvdPacket pdu p = some (r,q) →
      ∃ m', f.build m u pdu = some (r,some m') ∧ f.member m' = q := by
  cases f with
  | esbRawPdu =>
    refine ⟨_,fun r q h => ⟨m.put (.esb .rawPdu) q,FullMessage.build_eq_some_iff.mpr ⟨q,h,rfl⟩,?_⟩⟩
    exact FullMessage.put_msg_self ..
  | esbPdu =>
    refine ⟨_,fun r q h => ⟨m.put (.esb .pdu) q,FullMessage.build_eq_some_iff.mpr ⟨q,h,rfl⟩,?_⟩⟩
    exact FullMessage.put_msg_self ..
  | rawPdu =>
    refine ⟨loadRawPdu u,fun r q h => ⟨m.put (.unifying .rawPdu) q,?_,FullMessage.put_msg_self ..⟩⟩
    rw [← storeReceived_refines, Option.map_eq_some_iff] at h
    obtain ⟨⟨r',u'⟩,hstored,hread⟩ := h
    obtain ⟨rfl,rfl⟩ := Prod.mk.inj hread
    simp only [Reception.build, hstored, Option.map_some]
  | pdu =>
    refine ⟨_,fun r q h => ⟨m.put (.unifying .pdu) q,FullMessage.build_eq_some_iff.mpr ⟨q,h,rfl⟩,?_⟩⟩
    exact FullMessage.put_msg_self ..

theorem parser_eq (f : Reception) (m : FullMessage) (s : EsbRecvdPacket) :
    f.parser (some m) (some s) = parse (some m) (some s) fun m => loadRecvdPacket (f.member m) := by
  cases f with
  | esbRawPdu => rfl
  | esbPdu => rfl
  | rawPdu => rfl
  | pdu => rfl

end

/-- A received packet comes back through either notification of either domain, whatever the message and the
output held, and one with an address of more than five bytes is refused. -/
theorem reception_roundTrips (f : Reception) (pdu : EsbRecvdPacket) (m : FullMessage) (u : Buffer) :
    (AddressWithin pdu → ∀ s, ReadsBack (f.build m u pdu) f.parser s (SamePacket pdu)) ∧
    (AddressTooLong pdu → ∃ m', f.build m u pdu = some (.error,some m')) := by
  obtain ⟨p,hbuild⟩ := exists_build f pdu m u
  constructor
  · intro hwithin s
    obtain ⟨q,hq,hholds⟩ := exists_storeRecvdPacket hwithin p
    obtain ⟨m',hbuilt,hmember⟩ := hbuild _ _ hq
    rw [← hmember] at hholds
    obtain ⟨r,hr,hsame⟩ := exists_loadRecvdPacket hholds s
    have hparsed : f.parser (some m') (some s) = some (.success,some r) := (parser_eq f m' s).trans (parse_success hr)
    exact (readsBack_iff hbuilt hparsed).mpr hsame
  · intro hlong
    obtain ⟨q,hq⟩ := storeRecvdPacket_tooLong hlong p
    obtain ⟨m',hbuilt,-⟩ := hbuild _ _ hq
    exact ⟨m',hbuilt⟩

/-- A packet of three bytes without an address, in a message that is full of ones. -/
theorem reception_roundTrips_three :
    let pdu : EsbRecvdPacket := ⟨5,⟨false,0⟩,⟨true,1000⟩,⟨true,true⟩,⟨false,default⟩,⟨memset 7,3⟩⟩
    ReadsBack (Reception.rawPdu.build default (fun _ => 0xff) pdu) whadUnifyingRawPduReceivedParse default
      (SamePacket pdu) :=
  (reception_roundTrips .rawPdu ⟨5,⟨false,0⟩,⟨true,1000⟩,⟨true,true⟩,⟨false,default⟩,⟨memset 7,3⟩⟩ default
    fun _ => 0xff).1 (fun h => absurd h (by decide)) default

end WhadLib.Unifying
