import WhadLib.Library.CLayout
import WhadLib.Unifying.Builders

/-! The raw notification of the Unifying domain in the bytes of its message. Its builder clears an absent
address through the member of the ESB domain, which lies at the same place: what it leaves reads as what the
builder of the model leaves. -/
namespace WhadLib.Unifying
open Library
open Esb (EsbRecvdPacket PduReceived storeOptional storeRecvdPacket)

/-- `esb_RawPduReceived`, as the header declares it. -/
def esbRawPduReceived : List CField :=
  [.of UInt32,.of Bool,.of Int32,.of Bool,.of UInt64,.of Bool,.of Bool,.of Bool,.bytesArray 5,.bytesArray 255]

/-- `unifying_RawPduReceived`. -/
def unifyingRawPduReceived : List CField :=
  [.of UInt32,.of Bool,.of Int32,.of Bool,.of UInt64,.of Bool,.of Bool,.of Bool,.bytesArray 5,.bytesArray 255]

/-- The places of the fields in the message of the domain. Its union follows `which_msg`, and no member of it
is aligned to more than a notification is. -/
def placesIn (fields : List CField) : List ℕ := offsetsFrom (alignUp (CType.size UInt16) (alignOf fields)) fields

theorem esbRawPduReceived_places : placesIn esbRawPduReceived = [8,12,16,20,24,32,33,34,36,44] := by decide

theorem unifyingRawPduReceived_places : placesIn unifyingRawPduReceived = [8,12,16,20,24,32,33,34,36,44] := by decide

/-- The notification that is read in the bytes of a message of the domain. -/
def loadRawPdu (u : Buffer) : PduReceived where
  channel := u.load 8
  rssi := ⟨u.load 12,u.load 16⟩
  timestamp := ⟨u.load 20,u.load 24⟩
  crcValidity := ⟨u.load 32,u.load 33⟩
  address := ⟨u.load 34,u.loadBytes 36⟩
  pdu := u.loadBytes 44

def storeRawPdu (u : Buffer) (p : PduReceived) : Buffer :=
  u.store 8 p.channel |>.store 12 p.rssi.has |>.store 16 p.rssi.value |>.store 20 p.timestamp.has
    |>.store 24 p.timestamp.value |>.store 32 p.crcValidity.has |>.store 33 p.crcValidity.value
    |>.store 34 p.address.has |>.storeBytes 36 p.address.value |>.storeBytes 44 p.pdu

/-- `esb.msg.raw_pdu` without an address. -/
def clearAddress (u : Buffer) : Buffer := u.store 34 false |>.storeBytes 36 (⟨0,memset 0⟩ : BytesArray 5)

/-- `whad_unifying_raw_pdu_received` on the bytes of the message, but for the tags. -/
def storeReceived (pdu : EsbRecvdPacket) (u : Buffer) : Option (WhadResult × Buffer) := do
  let p := loadRawPdu u
  let stored ← p.pdu.fill (bufferOf pdu.packet.bytes) pdu.packet.length.toNat
  let u := storeRawPdu u { p with
    channel := pdu.channel, pdu := stored
    rssi := storeOptional pdu.rssi id p.rssi
    timestamp := storeOptional pdu.timestamp UInt32.toUInt64 p.timestamp
    crcValidity := storeOptional pdu.crcValidity id p.crcValidity }
  if pdu.address.has then
    let u := u.store 34 true
    if 5 < pdu.address.value.size then failed u
    else do
      let address ← p.address.value.fill (bufferOf pdu.address.value.address) pdu.address.value.size
      done (u.storeBytes 36 address)
  else done (clearAddress u)

section
variable {u : Buffer} {p : PduReceived} {a : BytesArray 5}

theorem loadRawPdu_storeRawPdu (h : p.pdu.size < 65536) (ha : p.address.value.size < 65536) :
    loadRawPdu (storeRawPdu u p) = p := by
  have hsize := UInt16.toNat_ofNat_of_lt' h
  have hasize := UInt16.toNat_ofNat_of_lt' ha
  unfold loadRawPdu storeRawPdu
  simp (disch := decide) only [Buffer.loadBytes, Buffer.storeBytes, Buffer.load_store_of_disjoint,
    Buffer.load_store, hsize, hasize]

/-- The flag of the address is its own field. -/
theorem loadRawPdu_storeFlag (u : Buffer) (has : Bool) :
    loadRawPdu (u.store 34 has) = { loadRawPdu u with address := { (loadRawPdu u).address with has := has } } := by
  unfold loadRawPdu
  simp (disch := decide) only [Buffer.loadBytes, Buffer.load_store_of_disjoint, Buffer.load_store]

theorem loadRawPdu_storeAddress (u : Buffer) (h : a.size < 65536) :
    loadRawPdu (u.storeBytes 36 a) = { loadRawPdu u with address := { (loadRawPdu u).address with value := a } } := by
  have hsize := UInt16.toNat_ofNat_of_lt' h
  unfold loadRawPdu
  simp (disch := decide) only [Buffer.loadBytes, Buffer.storeBytes, Buffer.load_store_of_disjoint,
    Buffer.load_store, hsize]

/-- What is cleared through the member of ESB is cleared. -/
theorem loadRawPdu_clearAddress (u : Buffer) :
    loadRawPdu (clearAddress u) = { loadRawPdu u with address := ⟨false,⟨0,memset 0⟩⟩ } := by
  rw [clearAddress, loadRawPdu_storeAddress _ (by decide), loadRawPdu_storeFlag]

theorem fill_size_lt {n : ℕ} {x y : BytesArray n} {src : Buffer} {length : ℤ} (h : x.fill src length = some y) :
    y.size < 65536 := by
  rw [(BytesArray.fill_eq_some_iff.mp h).2, sizeOf16]
  omega

/-- The bytes that the builder leaves read as the member that the builder of the model leaves. -/
theorem storeReceived_refines (pdu : EsbRecvdPacket) (u : Buffer) :
    (storeReceived pdu u).map (fun stored => (stored.1,loadRawPdu stored.2)) = storeRecvdPacket pdu (loadRawPdu u) := by
  let p := loadRawPdu u
  have haddress : p.address.value.size < 65536 := (u.load 36 : UInt16).toNat_lt
  cases hfill : p.pdu.fill (bufferOf pdu.packet.bytes) pdu.packet.length.toNat with
  | none => simp only [storeReceived, storeRecvdPacket, p, hfill, Option.bind_eq_bind, Option.bind_none, Option.map_none]
  | some stored =>
    let q : PduReceived := { p with
      channel := pdu.channel, pdu := stored, rssi := storeOptional pdu.rssi id p.rssi
      timestamp := storeOptional pdu.timestamp UInt32.toUInt64 p.timestamp
      crcValidity := storeOptional pdu.crcValidity id p.crcValidity }
    have hq : loadRawPdu (storeRawPdu u q) = q := loadRawPdu_storeRawPdu (fill_size_lt hfill) haddress
    have hflag : loadRawPdu ((storeRawPdu u q).store 34 true) = { q with address := { q.address with has := true } } := by
      rw [loadRawPdu_storeFlag, hq]
    simp only [storeReceived, storeRecvdPacket, p, hfill, Option.bind_eq_bind, Option.bind_some]
    by_cases hhas : pdu.address.has = true
    · rw [if_pos hhas, if_pos hhas]
      by_cases hmax : 5 < pdu.address.value.size
      · rw [if_pos hmax, if_pos hmax]
        exact congrArg (fun read => some (WhadResult.error,read)) hflag
      · rw [if_neg hmax, if_neg hmax]
        cases hcopy : p.address.value.fill (bufferOf pdu.address.value.address) pdu.address.value.size with
        | none => simp only [Option.bind_none, Option.map_none]
        | some address =>
          have hread := loadRawPdu_storeAddress ((storeRawPdu u q).store 34 true) (fill_size_lt hcopy)
          rw [hflag] at hread
          simp only [Option.bind_some]
          exact congrArg (fun read => some (WhadResult.success,read)) hread
    · have hread := loadRawPdu_clearAddress (storeRawPdu u q)
      rw [hq] at hread
      rw [if_neg hhas, if_neg hhas]
      exact congrArg (fun read => some (WhadResult.success,read)) hread

end
end WhadLib.Unifying
