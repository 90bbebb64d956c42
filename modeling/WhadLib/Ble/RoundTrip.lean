import WhadLib.Ble.Faithful
import WhadLib.RoundTrip

/-! What is read back of PDUs and advertising data that were put into a message of the BLE domain. -/
namespace WhadLib.Ble
open Library Cpp Wrapper

/- A builder is compared with its member and its body, not with what setting both comes to. -/
attribute [local irreducible] FullMessage.build

/-! PDUs to transmit. -/

/-- The commands with a PDU to transmit, with the fields that only one of them has. -/
inductive TransmitCommand
  | sendRawPdu (accessAddress crc : UInt32)
  | sendPdu

section
variable (c : TransmitCommand) (direction : EnumField BleDirection) (connHandle : UInt32) (pPdu : Buffer)
  (length : ℕ) (encrypt : Bool) (m : FullMessage)

def TransmitCommand.build : Outcome :=
  match c with
  | .sendRawPdu accessAddress crc =>
    whadBleSendRawPdu (some m) direction connHandle accessAddress (some pPdu) length crc encrypt
  | .sendPdu => whadBleSendPdu (some m) direction connHandle (some pPdu) length encrypt

def TransmitCommand.parser : Option FullMessage → Option BlePduParams → Parsed BlePduParams :=
  match c with
  | .sendRawPdu _ _ => whadBleSendRawPduParse
  | .sendPdu => whadBleSendPduParse

/-- The access address and the CRC; a PDU that the controller completes has none. -/
def TransmitCommand.framing : UInt32 × UInt32 :=
  match c with
  | .sendRawPdu accessAddress crc => (accessAddress,crc)
  | .sendPdu => (0,0)

/-- What was given to the builder. -/
structure TransmitReturned (r : BlePduParams) : Prop where
  sameDirection : r.direction = direction
  sameHandle : r.connHandle = connHandle
  sameFraming : (r.accessAddress,r.crc) = c.framing
  sameFlag : r.encrypt = encrypt
  samePdu : SameBytes pPdu length r.pPdu r.length

/-- The parser returns what was given to the builder, whatever its output held. -/
def TransmitRoundTrips : Prop :=
  ∀ s, ReadsBack (c.build direction connHandle pPdu length encrypt m) c.parser s
    (TransmitReturned c direction connHandle pPdu length encrypt)

/-- The bytes are as they are one access address further, behind what the array held. -/
def UnchangedByShift (old : Vector UInt8 300) : Prop :=
  ∀ i : Fin 300, i < length → (if 4 ≤ i.val then pPdu (i-4) else old.get i) = pPdu i

/-- The message had the size of the PDU already, which no builder sets. What goes to the wrong member must
look the same there, and must not change the flag behind the array. -/
def TransmitPrepared : Prop :=
  match c with
  | .sendRawPdu _ _ => (SendRawPDUCmd.pdu (m.msg (.ble .sendRawPdu))).size = length
  | .sendPdu =>
    let p : SendPDUCmd := m.msg (.ble .sendPdu)
    p.pdu.size = length ∧ UnchangedByShift pPdu length p.pdu.bytes ∧ (296 < length → (pPdu 296 != 0) = encrypt)

end

section
variable {c : TransmitCommand} {direction : EnumField BleDirection} {connHandle accessAddress crc : UInt32}
  {pPdu : Buffer} {length : ℕ} {encrypt : Bool} {m : FullMessage}

theorem sendRawPdu_roundTrips_iff (hlength : length ≤ 300) :
    TransmitRoundTrips (.sendRawPdu accessAddress crc) direction connHandle pPdu length encrypt m ↔
      (SendRawPDUCmd.pdu (m.msg (.ble .sendRawPdu))).size = length := by
  let p : SendRawPDUCmd := m.msg (.ble .sendRawPdu)
  obtain ⟨bytes,hbytes,htake⟩ := exists_memcpy p.pdu.bytes pPdu hlength
  let q : SendRawPDUCmd := ⟨direction,connHandle,accessAddress,⟨p.pdu.size,bytes⟩,crc,encrypt⟩
  have hbuilt : whadBleSendRawPdu (some m) direction connHandle accessAddress (some pPdu) length crc encrypt =
      some (.success, some (m.put (.ble .sendRawPdu) q)) := by
    refine build_success ?_
    change (memcpy p.pdu.bytes pPdu length).bind _ = _
    rw [hbytes]
    rfl
  refine forall_iff_of_default fun s => ?_
  have hparsed : whadBleSendRawPduParse (some (m.put (.ble .sendRawPdu) q)) (some s) = some (.success, some
      ⟨direction,connHandle,accessAddress,bufferOf bytes,p.pdu.size,crc,encrypt⟩) := fetch_success _ _ _
  refine (readsBack_iff hbuilt hparsed).trans ?_
  constructor
  · intro h
    exact Int.ofNat.inj h.samePdu.count
  · intro hsize
    exact ⟨rfl,rfl,rfl,rfl,congrArg Nat.cast hsize,htake⟩

/-- What a copy to the wrong member leaves of the bytes that were to be copied. -/
theorem copyToRaw_take_iff {p q : SendPDUCmd} (hlength : length ≤ 300) (hq : p.copyToRaw pPdu length = some q) :
    (bufferOf q.pdu.bytes).take length = pPdu.take length ↔ UnchangedByShift pPdu length p.pdu.bytes := by
  rw [SendPDUCmd.copyToRaw, if_pos ⟨by omega,by omega⟩] at hq
  obtain rfl := Option.some.inj hq
  refine (take_bufferOf_iff _ hlength).trans (forall_congr' fun i => imp_congr_right fun hi => ?_)
  have hwithin : (4 ≤ i.val ∧ (i : ℤ) < length+4) ↔ 4 ≤ i.val := by omega
  have hget (f : Fin 300 → UInt8) : (Vector.ofFn f).get i = f i := Vector.getElem_ofFn i.isLt
  rw [hget]
  simp only [hwithin]
  exact Iff.rfl

theorem sendPdu_roundTrips_iff (hlength : length ≤ 300) :
    TransmitRoundTrips .sendPdu direction connHandle pPdu length encrypt m ↔
      TransmitPrepared .sendPdu pPdu length encrypt m := by
  let p : SendPDUCmd := m.msg (.ble .sendPdu)
  let p' : SendPDUCmd := ⟨direction,connHandle,p.pdu,encrypt⟩
  obtain ⟨q,hq⟩ : ∃ q, p'.copyToRaw pPdu length = some q := ⟨_,if_pos ⟨by omega,by omega⟩⟩
  have htake := copyToRaw_take_iff hlength hq
  have hbuilt : whadBleSendPdu (some m) direction connHandle (some pPdu) length encrypt =
      some (.success, some (m.put (.ble .sendPdu) q)) := by
    refine build_success ?_
    change (p'.copyToRaw pPdu length).bind _ = _
    rw [hq]
    rfl
  have hflag : q.encrypt = encrypt ↔ (296 < length → (pPdu 296 != 0) = encrypt) := by
    rw [SendPDUCmd.copyToRaw, if_pos ⟨by omega,by omega⟩] at hq
    obtain rfl := Option.some.inj hq
    by_cases hlong : 296 < length
    · simp [show (296 : ℤ) < length by omega, hlong]
    · simp [show ¬(296 : ℤ) < length by omega, hlong, p']
  have hkept : q.direction = direction ∧ q.connHandle = connHandle ∧ q.pdu.size = p.pdu.size := by
    rw [SendPDUCmd.copyToRaw, if_pos ⟨by omega,by omega⟩] at hq
    obtain rfl := Option.some.inj hq
    exact ⟨rfl,rfl,rfl⟩
  refine forall_iff_of_default fun s => ?_
  have hparsed : whadBleSendPduParse (some (m.put (.ble .sendPdu) q)) (some s) = some (.success, some
      ⟨q.direction,q.connHandle,0,bufferOf q.pdu.bytes,q.pdu.size,0,q.encrypt⟩) := fetch_success _ _ _
  refine (readsBack_iff hbuilt hparsed).trans ?_
  constructor
  · intro h
    refine ⟨?_,htake.mp h.samePdu.bytes,hflag.mp h.sameFlag⟩
    rw [← hkept.2.2]
    exact Int.ofNat.inj h.samePdu.count
  · rintro ⟨hsize,hshift,hencrypt⟩
    exact ⟨hkept.1,hkept.2.1,rfl,hflag.mpr hencrypt,congrArg Nat.cast (hkept.2.2.trans hsize),htake.mpr hshift⟩

/-- The commands come back where the message was prepared for them. -/
theorem transmit_roundTrips_iff (c : TransmitCommand) (direction : EnumField BleDirection) (connHandle : UInt32)
    (pPdu : Buffer) (length : ℕ) (encrypt : Bool) (m : FullMessage) (hlength : length ≤ 300) :
    TransmitRoundTrips c direction connHandle pPdu length encrypt m ↔ TransmitPrepared c pPdu length encrypt m := by
  cases c with
  | sendRawPdu accessAddress crc => exact sendRawPdu_roundTrips_iff hlength
  | sendPdu => exact sendPdu_roundTrips_iff hlength

/-- A PDU of one byte, in a message whose size is that of one already. -/
theorem transmit_roundTrips_sized :
    TransmitRoundTrips (.sendRawPdu 2391391958 0) ⟨1⟩ 1 (fun _ => 3) 1 false
      (FullMessage.put default (.ble .sendRawPdu) { (default : SendRawPDUCmd) with pdu := ⟨1,default⟩ }) :=
  (transmit_roundTrips_iff (.sendRawPdu 2391391958 0) ⟨1⟩ 1 (fun _ => 3) 1 false _ (by decide)).mpr rfl

/-- A PDU of one byte, in a message that is zero. -/
theorem not_transmit_roundTrips : ¬TransmitRoundTrips (.sendRawPdu 2391391958 0) ⟨1⟩ 1 (fun _ => 3) 1 false default := by
  intro h
  have hsize := (sendRawPdu_roundTrips_iff (show 1 ≤ 300 by decide)).mp h
  exact absurd hsize (by decide)

end

/-! Advertising data. -/

/-- The two modes with advertising data and data of a scan response. -/
inductive AdvertisingMode
  | advMode
  | peripheralMode
  deriving DecidableEq

namespace AdvertisingMode

def build : AdvertisingMode → FullMessage → Buffer → ℤ → Buffer → ℤ → Outcome
  | .advMode, m, pAdvData, advDataLength, pScanrspData, scanrspDataLength =>
    whadBleAdvMode (some m) (some pAdvData) advDataLength (some pScanrspData) scanrspDataLength
  | .peripheralMode, m, pAdvData, advDataLength, pScanrspData, scanrspDataLength =>
    whadBlePeripheralMode (some m) (some pAdvData) advDataLength (some pScanrspData) scanrspDataLength

def parser : AdvertisingMode → Option FullMessage → Option BleAdvModeParams → Parsed BleAdvModeParams
  | .advMode => whadBleAdvModeParse
  | .peripheralMode => whadBlePeripheralModeParse

/-- The member of the message. -/
def member : AdvertisingMode → FullMessage → AdvModeCmd
  | .advMode, m => m.msg (.ble .advMode)
  | .peripheralMode, m => m.msg (.ble .periphMode)

def put : AdvertisingMode → FullMessage → AdvModeCmd → FullMessage
  | .advMode, m, p => m.put (.ble .advMode) p
  | .peripheralMode, m, p => m.put (.ble .periphMode) p

/-- The object that is constructed from a message. -/
def constructed : AdvertisingMode → FullMessage → AdvMode × BleAdvModeParams → Option AdvMode
  | .advMode, m, memory => (Wrapper.advMode.construct m memory).map Prod.snd
  | .peripheralMode, m, memory => (Wrapper.peripheralMode.construct m memory).map Prod.snd

end AdvertisingMode

/-- The calls with advertising data. -/
inductive AdvertisingCall
  | setMode (mode : AdvertisingMode) (pAdvData : Buffer) (advDataLength : ℕ) (pScanrspData : Buffer)
      (scanrspDataLength : ℕ)
  | advPdu (advType : EnumField BleAdvType) (rssi : Int32) (pBdaddr : Buffer) (addrType : EnumField BleAddrType)
      (pAdvData : Buffer) (advDataLength : ℕ)

/-- Of a payload that is too long the first 31 bytes are stored. -/
def CutTo31 (src : Buffer) (length : ℕ) (x : BytesArray 31) : Prop :=
  31 < length → SameBytes src 31 (bufferOf x.bytes) x.size

/-- Payloads of at most 31 bytes come back, from the parser and in the object that is constructed from the
message; of longer ones the modes store the first 31 bytes. -/
def AdvertisingCall.RoundTrips (c : AdvertisingCall) (m : FullMessage) : Prop :=
  match c with
  | .setMode mode pAdvData advDataLength pScanrspData scanrspDataLength =>
    let built := mode.build m pAdvData advDataLength pScanrspData scanrspDataLength
    (∃ m', built = some (.success, some m') ∧ CutTo31 pAdvData advDataLength (mode.member m').scanData ∧
      CutTo31 pScanrspData scanrspDataLength (mode.member m').scanrspData) ∧
    (advDataLength ≤ 31 → scanrspDataLength ≤ 31 →
      (∀ s, ReadsBack built mode.parser s fun r =>
        SameBytes pAdvData advDataLength (bufferOf r.advData) r.advDataLength.toNat ∧
        SameBytes pScanrspData scanrspDataLength (bufferOf r.scanrspData) r.scanrspDataLength.toNat) ∧
      ∀ memory, ∃ m' o, built = some (.success, some m') ∧ mode.constructed m' memory = some o ∧
        SameBytes pAdvData advDataLength (bufferOf o.advData) o.advDataLength ∧
        SameBytes pScanrspData scanrspDataLength (bufferOf o.scanRsp) o.scanRspLength)
  | .advPdu advType rssi pBdaddr addrType pAdvData advDataLength => advDataLength ≤ 31 →
    ∀ s, ReadsBack (whadBleAdvPdu (some m) advType rssi (some pBdaddr) addrType (some pAdvData) advDataLength)
      whadBleAdvPduParse s fun r => r.advType = advType ∧ r.rssi = rssi ∧ r.pBdaddr.take 6 = pBdaddr.take 6 ∧
        r.addrType = addrType ∧ SameBytes pAdvData advDataLength r.pAdvData r.advDataLength

/-- A payload that a mode brings back: it does not fill the array, unless with zeros, and an empty one meets
an array that reads as empty. -/
def PayloadKept (src : Buffer) (length : ℕ) (old : BytesArray 31) : Prop :=
  0 < length ∧ length < 31 ∨ length = 31 ∧ (∀ i < 31, src i = 0) ∨ length = 0 ∧ old.size % 256 = 0

/-- A payload that the notification of an advertisement stores, or that the message had already. -/
def PayloadStored (src : Buffer) (length : ℕ) (old : BytesArray 31) : Prop :=
  0 < length ∧ length < 31 ∨ SameBytes src length (bufferOf old.bytes) old.size

def AdvertisingCall.Kept (c : AdvertisingCall) (m : FullMessage) : Prop :=
  match c with
  | .setMode mode pAdvData advDataLength pScanrspData scanrspDataLength => advDataLength ≤ 31 → scanrspDataLength ≤ 31 →
    PayloadKept pAdvData advDataLength (mode.member m).scanData ∧
      PayloadKept pScanrspData scanrspDataLength (mode.member m).scanrspData
  | .advPdu _ _ _ _ pAdvData advDataLength => advDataLength ≤ 31 →
    PayloadStored pAdvData advDataLength (AdvPduReceived.advData (m.msg (.ble .advPdu)))

section
variable {mode : AdvertisingMode} {m : FullMessage} {p : AdvModeCmd} {src pAdvData pScanrspData pBdaddr : Buffer}
  {length advDataLength scanrspDataLength : ℕ} {x y : BytesArray 31} {r : BleAdvModeParams}

@[simp] theorem AdvertisingMode.member_put (mode : AdvertisingMode) (m : FullMessage) (p : AdvModeCmd) :
    mode.member (mode.put m p) = p := by
  cases mode with
  | advMode => exact FullMessage.put_msg_self m (.ble .advMode) p
  | peripheralMode => exact FullMessage.put_msg_self m (.ble .periphMode) p

/-- What a builder leaves of a payload. -/
theorem exists_stored (x : BytesArray 31) (src : Buffer) (length : ℕ) :
    ∃ y, storeAdvData x src length = some y ∧ CutTo31 src length y ∧ (length = 0 → y = x) ∧
      (0 < length → length ≤ 31 → SameBytes src length (bufferOf y.bytes) y.size) := by
  by_cases hpos : 0 < length
  · have hmin : (if (31 : ℤ) < length then 31 else (length : ℤ)) = (min length 31 : ℕ) := by split <;> omega
    obtain ⟨y,hy,hsame,-⟩ := exists_fill_sameBytes x src (show min length 31 ≤ 31 by omega) (by decide)
    refine ⟨y,?_,fun hlong => ?_,fun hzero => absurd hzero hpos.ne',fun _ hle => ?_⟩
    · rw [storeAdvData, if_pos (by omega), hmin]
      exact hy
    · rwa [min_eq_right hlong.le] at hsame
    · rwa [min_eq_left hle] at hsame
  · refine ⟨x,if_neg (by omega),fun hlong => absurd hlong (by omega),fun _ => rfl,fun h => absurd h hpos⟩

/-- The parser copies what is neither empty nor full, and clears the rest. -/
theorem exists_loaded (data : Vector UInt8 31) (y : BytesArray 31) :
    ∃ loaded, loadAdvData data y = some (loaded,UInt8.ofNat y.size) ∧
      (0 < y.size % 256 ∧ y.size % 256 < 31 →
        (bufferOf loaded).take (y.size % 256) = (bufferOf y.bytes).take (y.size % 256)) ∧
      (¬(0 < y.size % 256 ∧ y.size % 256 < 31) → loaded = memset 0) := by
  have hlength : (UInt8.ofNat y.size).toNat = y.size % 256 := UInt8.toNat_ofNat'
  have hcheck : (0 < UInt8.ofNat y.size ∧ UInt8.ofNat y.size < 31) ↔ 0 < y.size % 256 ∧ y.size % 256 < 31 := by
    rw [UInt8.lt_iff_toNat_lt, UInt8.lt_iff_toNat_lt, hlength]
    rfl
  by_cases h : 0 < y.size % 256 ∧ y.size % 256 < 31
  · obtain ⟨loaded,hloaded,htake⟩ := exists_memcpy data (bufferOf y.bytes) h.2.le
    refine ⟨loaded,?_,fun _ => htake,fun hnot => absurd h hnot⟩
    simp only [loadAdvData, if_pos (hcheck.mpr h), hlength, hloaded]
    rfl
  · exact ⟨memset 0,by simp only [loadAdvData, if_neg (mt hcheck.mp h)],fun h' => absurd h' h,fun _ => rfl⟩

/-- An array that was cleared has the bytes of a payload of zeros. -/
theorem take_cleared_iff (src : Buffer) :
    (bufferOf (memset 0 : Vector UInt8 31)).take 31 = src.take 31 ↔ ∀ i < 31, src i = 0 := by
  rw [take_eq_iff]
  refine forall₂_congr fun i hi => ?_
  have hzero : bufferOf (memset 0 : Vector UInt8 31) i = 0 := by simp [bufferOf, memset, hi]
  rw [hzero]
  exact eq_comm

/-- What the parser makes of a payload that was given to a builder. -/
theorem exists_loadAdvData (data : Vector UInt8 31) (hle : length ≤ 31) (hzero : length = 0 → y = x)
    (hstored : 0 < length → length ≤ 31 → SameBytes src length (bufferOf y.bytes) y.size) :
    ∃ loaded, loadAdvData data y = some (loaded,UInt8.ofNat y.size) ∧
      (SameBytes src length (bufferOf loaded) (UInt8.ofNat y.size).toNat ↔ PayloadKept src length x) := by
  obtain ⟨loaded,hloaded,hcopied,hcleared⟩ := exists_loaded data y
  have hlength : (UInt8.ofNat y.size).toNat = y.size % 256 := UInt8.toNat_ofNat'
  refine ⟨loaded,hloaded,?_⟩
  rw [hlength]
  by_cases hpos : 0 < length
  · have hsame := hstored hpos hle
    have hsize : y.size % 256 = length := by
      rw [hsame.size]
      omega
    rw [hsize] at hcopied hcleared ⊢
    by_cases hfull : length < 31
    · exact iff_of_true ⟨rfl,(hcopied ⟨hpos,hfull⟩).trans hsame.bytes⟩ (.inl ⟨hpos,hfull⟩)
    · obtain rfl : length = 31 := by omega
      rw [hcleared (fun h => hfull h.2), PayloadKept, ← take_cleared_iff]
      constructor
      · intro h
        exact .inr (.inl ⟨rfl,h.bytes⟩)
      · rintro (h | ⟨-,h⟩ | h)
        · omega
        · exact ⟨rfl,h⟩
        · omega
  · obtain rfl : length = 0 := by omega
    rw [hzero rfl]
    constructor
    · intro h
      exact .inr (.inr ⟨rfl,Int.ofNat.inj h.count⟩)
    · rintro (h | h | ⟨-,h⟩)
      · omega
      · omega
      · exact ⟨congrArg Nat.cast h,rfl⟩

/-- The message that a mode leaves. -/
theorem AdvertisingMode.build_eq {x' y' : BytesArray 31} (mode : AdvertisingMode) (m : FullMessage)
    (hx : storeAdvData (mode.member m).scanData pAdvData advDataLength = some x')
    (hy : storeAdvData (mode.member m).scanrspData pScanrspData scanrspDataLength = some y') :
    mode.build m pAdvData advDataLength pScanrspData scanrspDataLength = some (.success, some (mode.put m ⟨x',y'⟩)) := by
  have hstore : storeAdvMode pAdvData advDataLength pScanrspData scanrspDataLength (mode.member m) =
      some (.success, ⟨x',y'⟩) := by
    simp only [storeAdvMode, hx, hy]
    rfl
  cases mode with
  | advMode => exact build_success hstore
  | peripheralMode => exact build_success hstore

theorem AdvertisingMode.parser_eq (mode : AdvertisingMode) (m : FullMessage) (s : BleAdvModeParams) :
    mode.parser (some m) (some s) =
      (loadAdvMode (mode.member m) s).map fun written => (written.1,some written.2) := by
  cases mode with
  | advMode => rfl
  | peripheralMode => rfl

/-- Data that an object takes over as far as there is room for it. -/
def TakesOver (n : ℕ) (data kept : Vector UInt8 31) : Prop := n ≤ 31 → (bufferOf kept).take n = (bufferOf data).take n

theorem exists_keepAdvData (memory data : Vector UInt8 31) (n : ℕ) :
    ∃ kept, keepAdvData memory data n = some kept ∧ TakesOver n data kept := by
  by_cases h : n ≤ 31
  · obtain ⟨kept,hkept,htake⟩ := keepAdvData_spec memory data h
    exact ⟨kept,hkept,fun _ => htake⟩
  · exact ⟨memory,if_neg (by omega),fun hle => absurd hle h⟩

theorem exists_keepPeripheralData (memory data : Vector UInt8 31) (n : ℕ) :
    ∃ kept, keepPeripheralData memory data n = some kept ∧ TakesOver n data kept := by
  by_cases h : n ≤ 31
  · obtain ⟨kept,hkept,htake⟩ := keepPeripheralData_spec memory data h
    exact ⟨kept,hkept,fun _ => htake⟩
  · exact ⟨memset 0,if_neg (by omega),fun hle => absurd hle h⟩

/-- The object of either class has the lengths of the parser, and takes over its data. -/
theorem AdvertisingMode.exists_constructed (mode : AdvertisingMode) (m : FullMessage)
    (memory : AdvMode × BleAdvModeParams) (h : loadAdvMode (mode.member m) memory.2 = done r) :
    ∃ o, mode.constructed m memory = some o ∧ o.advDataLength = r.advDataLength.toNat ∧
      o.scanRspLength = r.scanrspDataLength.toNat ∧ TakesOver r.advDataLength.toNat r.advData o.advData ∧
      TakesOver r.scanrspDataLength.toNat r.scanrspData o.scanRsp := by
  have hparsed : parsedBy (mode.parser (some m) (some memory.2)) = some r := by
    rw [mode.parser_eq, h]
    rfl
  cases mode with
  | advMode =>
    obtain ⟨a,ha,hatake⟩ := exists_keepAdvData memory.1.advData r.advData r.advDataLength.toNat
    obtain ⟨b,hb,hbtake⟩ := exists_keepAdvData memory.1.scanRsp r.scanrspData r.scanrspDataLength.toNat
    replace hparsed : parsedBy (whadBleAdvModeParse (some m) (some memory.2)) = some r := hparsed
    refine ⟨⟨a,_,b,_⟩,?_,rfl,rfl,hatake,hbtake⟩
    simp only [constructed, Wrapper.advMode, advertising, hparsed, Option.bind_eq_bind, Option.bind_some, ha, hb,
      Option.map_some]
  | peripheralMode =>
    obtain ⟨a,ha,hatake⟩ := exists_keepPeripheralData memory.1.advData r.advData r.advDataLength.toNat
    obtain ⟨b,hb,hbtake⟩ := exists_keepPeripheralData memory.1.scanRsp r.scanrspData r.scanrspDataLength.toNat
    replace hparsed : parsedBy (whadBlePeripheralModeParse (some m) (some memory.2)) = some r := hparsed
    refine ⟨⟨a,_,b,_⟩,?_,rfl,rfl,hatake,hbtake⟩
    simp only [constructed, Wrapper.peripheralMode, advertising, hparsed, Option.bind_eq_bind, Option.bind_some, ha,
      hb, Option.map_some]

/-- Data that is taken over is as good as what it was taken from. -/
theorem sameBytes_takesOver_iff {n : ℕ} {data kept : Vector UInt8 31} (h : TakesOver n data kept) (hle : length ≤ 31) :
    SameBytes src length (bufferOf kept) n ↔ SameBytes src length (bufferOf data) n := by
  constructor
  · rintro ⟨hcount,hbytes⟩
    obtain rfl : n = length := Int.ofNat.inj hcount
    exact ⟨hcount,(h hle).symm.trans hbytes⟩
  · rintro ⟨hcount,hbytes⟩
    obtain rfl : n = length := Int.ofNat.inj hcount
    exact ⟨hcount,(h hle).trans hbytes⟩

theorem setMode_roundTrips_iff (mode : AdvertisingMode) (pAdvData : Buffer) (advDataLength : ℕ) (pScanrspData : Buffer)
    (scanrspDataLength : ℕ) (m : FullMessage) :
    let c : AdvertisingCall := .setMode mode pAdvData advDataLength pScanrspData scanrspDataLength
    c.RoundTrips m ↔ c.Kept m := by
  obtain ⟨x,hx,hxcut,hxzero,hxstored⟩ := exists_stored (mode.member m).scanData pAdvData advDataLength
  obtain ⟨y,hy,hycut,hyzero,hystored⟩ := exists_stored (mode.member m).scanrspData pScanrspData scanrspDataLength
  have hbuilt := mode.build_eq m hx hy
  have hstored : ∃ m', mode.build m pAdvData advDataLength pScanrspData scanrspDataLength = some (.success, some m') ∧
      CutTo31 pAdvData advDataLength (mode.member m').scanData ∧
      CutTo31 pScanrspData scanrspDataLength (mode.member m').scanrspData := by
    refine ⟨_,hbuilt,?_,?_⟩
    · rwa [mode.member_put]
    · rwa [mode.member_put]
  refine (and_iff_right hstored).trans (imp_congr_right fun hadv => imp_congr_right fun hscanrsp => ?_)
  have hloaded (s : BleAdvModeParams) : ∃ r, loadAdvMode (mode.member (mode.put m ⟨x,y⟩)) s = done r ∧
      (SameBytes pAdvData advDataLength (bufferOf r.advData) r.advDataLength.toNat ↔
        PayloadKept pAdvData advDataLength (mode.member m).scanData) ∧
      (SameBytes pScanrspData scanrspDataLength (bufferOf r.scanrspData) r.scanrspDataLength.toNat ↔
        PayloadKept pScanrspData scanrspDataLength (mode.member m).scanrspData) := by
    obtain ⟨a,ha,haiff⟩ := exists_loadAdvData s.advData hadv hxzero hxstored
    obtain ⟨b,hb,hbiff⟩ := exists_loadAdvData s.scanrspData hscanrsp hyzero hystored
    refine ⟨⟨a,_,b,_⟩,?_,haiff,hbiff⟩
    rw [mode.member_put]
    simp only [loadAdvMode, ha, hb]
    rfl
  constructor
  · rintro ⟨hparsed,-⟩
    obtain ⟨r,hr,hadviff,hscaniff⟩ := hloaded default
    have hparser : mode.parser (some (mode.put m ⟨x,y⟩)) (some default) = some (.success, some r) := by
      rw [mode.parser_eq, hr]
      rfl
    obtain ⟨hsame,hsame'⟩ := (readsBack_iff hbuilt hparser).mp (hparsed default)
    exact ⟨hadviff.mp hsame,hscaniff.mp hsame'⟩
  · rintro ⟨hkept,hkept'⟩
    refine ⟨fun s => ?_,fun memory => ?_⟩
    · obtain ⟨r,hr,hadviff,hscaniff⟩ := hloaded s
      have hparser : mode.parser (some (mode.put m ⟨x,y⟩)) (some s) = some (.success, some r) := by
        rw [mode.parser_eq, hr]
        rfl
      exact (readsBack_iff hbuilt hparser).mpr ⟨hadviff.mpr hkept,hscaniff.mpr hkept'⟩
    · obtain ⟨r,hr,hadviff,hscaniff⟩ := hloaded memory.2
      obtain ⟨o,ho,hlength,hlength',htake,htake'⟩ := mode.exists_constructed _ memory hr
      refine ⟨_,o,hbuilt,ho,?_,?_⟩
      · rw [hlength, sameBytes_takesOver_iff htake hadv]
        exact hadviff.mpr hkept
      · rw [hlength', sameBytes_takesOver_iff htake' hscanrsp]
        exact hscaniff.mpr hkept'

/-- A payload that is empty or fills the array is not stored. -/
theorem exists_advData (x : BytesArray 31) (src : Buffer) (length : ℕ) :
    ∃ y, (if 0 < (length : ℤ) ∧ (length : ℤ) < 31 then x.fill src length else some x) = some y ∧
      (SameBytes src length (bufferOf y.bytes) y.size ↔ PayloadStored src length x) := by
  by_cases h : 0 < (length : ℤ) ∧ (length : ℤ) < 31
  · obtain ⟨y,hy,hsame,-⟩ := exists_fill_sameBytes x src (show length ≤ 31 by omega) (by decide)
    exact ⟨y,(if_pos h).trans hy,iff_of_true hsame (.inl (by omega))⟩
  · exact ⟨x,if_neg h,(or_iff_right (by omega)).symm⟩

theorem advPdu_roundTrips_iff (advType : EnumField BleAdvType) (rssi : Int32) (pBdaddr : Buffer)
    (addrType : EnumField BleAddrType) (pAdvData : Buffer) (advDataLength : ℕ) (m : FullMessage) :
    let c : AdvertisingCall := .advPdu advType rssi pBdaddr addrType pAdvData advDataLength
    c.RoundTrips m ↔ c.Kept m := by
  let p : AdvPduReceived := m.msg (.ble .advPdu)
  obtain ⟨x,hx,hxiff⟩ := exists_advData p.advData pAdvData advDataLength
  let q : AdvPduReceived :=
    { p with addrType := addrType, rssi := rssi, advType := advType, bdAddress := copyOf pBdaddr, advData := x }
  have hbuilt : whadBleAdvPdu (some m) advType rssi (some pBdaddr) addrType (some pAdvData) advDataLength =
      some (.success, some (m.put (.ble .advPdu) q)) := by
    refine build_success ?_
    dsimp only
    split at hx
    · rename_i hlen
      refine (if_pos hlen).trans ?_
      rw [hx]
      rfl
    · rename_i hlen
      obtain rfl := Option.some.inj hx
      exact if_neg hlen
  refine imp_congr_right fun _ => forall_iff_of_default fun s => ?_
  have hparsed : whadBleAdvPduParse (some (m.put (.ble .advPdu) q)) (some s) = some (.success, some
      ⟨advType,rssi,bufferOf q.bdAddress,addrType,bufferOf x.bytes,x.size⟩) := fetch_success _ _ _
  refine (readsBack_iff hbuilt hparsed).trans (Iff.trans ?_ hxiff)
  constructor
  · rintro ⟨-,-,-,-,hsame⟩
    exact hsame
  · intro hsame
    exact ⟨rfl,rfl,take_copyOf pBdaddr le_rfl,rfl,hsame⟩

/-- Payloads come back where neither end of the range of their lengths is met, or where it does not show. -/
theorem advertising_roundTrips_iff (c : AdvertisingCall) (m : FullMessage) : c.RoundTrips m ↔ c.Kept m := by
  cases c with
  | setMode mode pAdvData advDataLength pScanrspData scanrspDataLength =>
    exact setMode_roundTrips_iff mode pAdvData advDataLength pScanrspData scanrspDataLength m
  | advPdu advType rssi pBdaddr addrType pAdvData advDataLength =>
    exact advPdu_roundTrips_iff advType rssi pBdaddr addrType pAdvData advDataLength m

/-- Advertising data of 31 bytes, and data of a scan response of one byte. -/
theorem not_advertising_roundTrips :
    ¬(AdvertisingCall.setMode .advMode (fun _ => 1) 31 (fun _ => 1) 1).RoundTrips default := by
  intro h
  obtain ⟨hkept,-⟩ := (setMode_roundTrips_iff .advMode (fun _ => 1) 31 (fun _ => 1) 1 default).mp h le_rfl (by decide)
  rcases hkept with h | ⟨-,hzero⟩ | ⟨h,-⟩
  · omega
  · exact absurd (hzero 0 (by decide)) (by decide)
  · omega

end

/-! PDUs that were received. -/

section
variable (pPdu : Buffer) (length : ℕ) (direction : EnumField BleDirection) (connHandle : Int32)
  (processed decrypted : Bool) (m : FullMessage) (s memory : BlePdu)

/-- The parser returns what was given to the builder, and the object that is constructed from the message
reports it. The output of the parser is `s`, and `memory` is that of the object's constructor. -/
def LinkLayerRoundTrips : Prop :=
  let built := whadBlePdu (some m) (some pPdu) length direction connHandle.toInt processed decrypted
  (ReadsBack built whadBlePduParse s fun r => SameBytes pPdu length r.pPdu r.pduLength ∧ r.direction = direction ∧
    r.connHandle.toInt32 = connHandle ∧ r.processed = processed ∧ r.decrypted = decrypted) ∧
  ∃ m' o, built = some (.success, some m') ∧ linkLayerPdu.construct m' memory = some (m',o) ∧
    let o : LinkLayerPdu := o
    SameBytes pPdu length o.pdu.getBytes o.pdu.getSize ∧ o.direction = direction ∧
      o.connHandle.toInt32 = connHandle ∧ o.processed = processed ∧ o.decrypted = decrypted

end

section
variable {pPdu : Buffer} {length : ℕ} {direction : EnumField BleDirection} {connHandle : Int32}
  {processed decrypted : Bool} {m : FullMessage} {s memory : BlePdu}

/-- No one reads the direction, and a packet of the object has 255 bytes at most. -/
theorem linkLayer_roundTrips_iff (pPdu : Buffer) (length : ℕ) (direction : EnumField BleDirection)
    (connHandle : Int32) (processed decrypted : Bool) (m : FullMessage) (s memory : BlePdu) (hlength : length ≤ 300) :
    LinkLayerRoundTrips pPdu length direction connHandle processed decrypted m s memory ↔
      s.direction = direction ∧ memory.direction = direction ∧ length ≤ 255 := by
  let p : PduReceived := m.msg (.ble .pdu)
  obtain ⟨x,hx,hsame,-⟩ := exists_fill_sameBytes p.pdu pPdu hlength (by decide)
  let q : PduReceived := ⟨direction,x,UInt32.ofInt connHandle.toInt,processed,decrypted⟩
  have hhandle : (UInt32.ofInt connHandle.toInt).toInt32 = connHandle :=
    congrArg UInt32.toInt32 (uint32_ofInt_toInt connHandle.toUInt32)
  have hbuilt : whadBlePdu (some m) (some pPdu) length direction connHandle.toInt processed decrypted =
      some (.success, some (m.put (.ble .pdu) q)) := by
    refine build_success ?_
    change (p.pdu.fill pPdu length).bind _ = _
    rw [hx]
    rfl
  have hparsed (s : BlePdu) : whadBlePduParse (some (m.put (.ble .pdu) q)) (some s) = some (.success, some
      ⟨q.connHandle,bufferOf x.bytes,x.size,s.direction,processed,decrypted⟩) := fetch_success _ _ _
  have hconstructed : linkLayerPdu.construct (m.put (.ble .pdu) q) memory =
      (Packet.setBytes (bufferOf x.bytes) x.size).map fun packet =>
        (m.put (.ble .pdu) q,(⟨q.connHandle,packet,memory.direction,processed,decrypted⟩ : LinkLayerPdu)) := by
    simp only [linkLayerPdu, parsedBy, Option.bind_eq_bind, Option.map_eq_bind]
    rfl
  constructor
  · rintro ⟨hback,m',o,hm',ho,-,hdirection,-⟩
    obtain ⟨-,hs,-⟩ := (readsBack_iff hbuilt (hparsed s)).mp hback
    obtain ⟨-,rfl⟩ := result_unique hbuilt hm'
    obtain ⟨packet,hpacket,hobject⟩ := Option.map_eq_some_iff.mp (hconstructed.symm.trans ho)
    obtain ⟨-,rfl⟩ := Prod.mk.inj hobject
    refine ⟨hs,hdirection,?_⟩
    by_contra hlong
    have hsize := hsame.size
    rw [Packet.setBytes_of_lt _ (by omega)] at hpacket
    exact Option.some_ne_none _ hpacket.symm
  · rintro ⟨rfl,hmemory,hshort⟩
    obtain ⟨packet,hpacket⟩ := Packet.setBytes_of_le (n := 255) (bufferOf x.bytes) (hsame.size.trans_le hshort)
    let o : LinkLayerPdu := ⟨q.connHandle,packet,memory.direction,processed,decrypted⟩
    refine ⟨(readsBack_iff hbuilt (hparsed s)).mpr ⟨hsame,rfl,hhandle,rfl,rfl⟩,_,o,hbuilt,?_,?_⟩
    · rw [hconstructed, hpacket]
      rfl
    · exact ⟨setBytes_sameBytes hsame hpacket,hmemory,hhandle,rfl,rfl⟩

/-- The direction is zero, and so is what lies in memory. -/
theorem linkLayer_roundTrips_zero :
    LinkLayerRoundTrips (fun _ => 3) 2 default 64 true false default default default :=
  (linkLayer_roundTrips_iff (fun _ => 3) 2 default 64 true false default default default (by decide)).mpr
    ⟨rfl,rfl,by decide⟩

/-- Another direction. -/
theorem not_linkLayer_roundTrips : ¬LinkLayerRoundTrips (fun _ => 3) 2 ⟨1⟩ 64 true false default default default := by
  rintro ⟨⟨m',r,-,hparsed,-,hdirection,-⟩,-⟩
  obtain ⟨-,hr⟩ := Prod.mk.inj (Option.some.inj hparsed)
  obtain rfl := Option.some.inj hr
  have hraw : (0 : ℤ) = 1 := congrArg EnumField.raw hdirection
  exact absurd hraw (by decide)

end
end WhadLib.Ble
