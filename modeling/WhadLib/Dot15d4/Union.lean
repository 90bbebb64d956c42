import WhadLib.Library.CLayout
import WhadLib.Parse

/-! The two notifications with a received packet in the bytes of the union of `dot15d4_Message`. They have the
same fields as far as the packet. Behind it the raw one has the FCS first, so that its link quality is not
where that of the other is. -/
namespace WhadLib.Dot15d4
open Library

/-- `dot15d4_PduReceived`, as the header declares it. -/
def PduReceived.fields : List CField :=
  [.of UInt32,.of Bool,.of Int32,.of Bool,.of UInt64,.of Bool,.of Bool,.bytesArray 255,.of Bool,.of UInt32]

/-- `dot15d4_RawPduReceived`. -/
def RawPduReceived.fields : List CField :=
  [.of UInt32,.of Bool,.of Int32,.of Bool,.of UInt64,.of Bool,.of Bool,.bytesArray 255,.of UInt32,.of Bool,
    .of UInt32]

theorem PduReceived.offsets : offsetsFrom 0 fields = [0,4,8,12,16,24,25,26,284,288] := by decide

theorem RawPduReceived.offsets : offsetsFrom 0 fields = [0,4,8,12,16,24,25,26,284,288,292] := by decide

def PduReceived.load (u : Buffer) : PduReceived where
  channel := u.load 0
  rssi := ⟨u.load 4,u.load 8⟩
  timestamp := ⟨u.load 12,u.load 16⟩
  fcsValidity := ⟨u.load 24,u.load 25⟩
  pdu := u.loadBytes 26
  lqi := ⟨u.load 284,u.load 288⟩

def RawPduReceived.load (u : Buffer) : RawPduReceived where
  channel := u.load 0
  rssi := ⟨u.load 4,u.load 8⟩
  timestamp := ⟨u.load 12,u.load 16⟩
  fcsValidity := ⟨u.load 24,u.load 25⟩
  pdu := u.loadBytes 26
  fcs := u.load 284
  lqi := ⟨u.load 288,u.load 292⟩

def PduReceived.store (u : Buffer) (p : PduReceived) : Buffer :=
  u.store 0 p.channel |>.store 4 p.rssi.has |>.store 8 p.rssi.value |>.store 12 p.timestamp.has
    |>.store 16 p.timestamp.value |>.store 24 p.fcsValidity.has |>.store 25 p.fcsValidity.value
    |>.storeBytes 26 p.pdu |>.store 284 p.lqi.has |>.store 288 p.lqi.value

def RawPduReceived.store (u : Buffer) (p : RawPduReceived) : Buffer :=
  u.store 0 p.channel |>.store 4 p.rssi.has |>.store 8 p.rssi.value |>.store 12 p.timestamp.has
    |>.store 16 p.timestamp.value |>.store 24 p.fcsValidity.has |>.store 25 p.fcsValidity.value
    |>.storeBytes 26 p.pdu |>.store 284 p.fcs |>.store 288 p.lqi.has |>.store 292 p.lqi.value

section
variable {u : Buffer} {p : PduReceived} {raw : RawPduReceived}

theorem PduReceived.load_store (h : p.pdu.size < 65536) : load (store u p) = p := by
  have hsize := UInt16.toNat_ofNat_of_lt' h
  unfold load store
  simp (disch := decide) only [Buffer.loadBytes, Buffer.storeBytes, Buffer.load_store_of_disjoint,
    Buffer.load_store, hsize]

theorem RawPduReceived.load_store (h : raw.pdu.size < 65536) : load (store u raw) = raw := by
  have hsize := UInt16.toNat_ofNat_of_lt' h
  unfold load store
  simp (disch := decide) only [Buffer.loadBytes, Buffer.storeBytes, Buffer.load_store_of_disjoint,
    Buffer.load_store, hsize]

/-- A notification reads alike as a raw one up to the packet. -/
theorem sameHead_load_store (h : p.pdu.size < 65536) : SameHead (RawPduReceived.load (PduReceived.store u p)) p := by
  have hp := PduReceived.load_store (u := u) h
  exact ⟨congrArg PduReceived.channel hp,congrArg PduReceived.rssi hp,congrArg PduReceived.timestamp hp,
    congrArg PduReceived.fcsValidity hp,congrArg PduReceived.pdu hp⟩

/-- The flag of the link quality lies where the number of the other is, and the number behind all of it. -/
theorem rawLqi_load_store : (RawPduReceived.load (PduReceived.store u p)).lqi =
    ⟨p.lqi.value.toUInt8 != 0,(RawPduReceived.load u).lqi.value⟩ := by
  unfold RawPduReceived.load PduReceived.store
  simp (disch := decide) only [Buffer.storeBytes, Buffer.load_store_of_disjoint, Buffer.load_flag_store]

end
end WhadLib.Dot15d4
