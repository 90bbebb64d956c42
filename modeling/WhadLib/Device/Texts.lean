import Mathlib.Data.List.GetD
import WhadLib.Device.Builders
import WhadLib.RoundTrip

/-! What the answer with the device information holds of its texts. The size is that of the whole text, the
copy stops one byte short of the field, and the byte it leaves out keeps its value. -/
namespace WhadLib
open Library

/-- What a function of strings sees of some bytes: those in front of the first zero. -/
def cString (bytes : List UInt8) : List UInt8 := bytes.takeWhile fun b => b != 0

/-- A field holds a text, or the longest prefix that fits, and counts no other byte. Behind a `NULL`
pointer there is no text. -/
structure HoldsText {n : ℕ} (x : BytesArray n) (text : Option (List UInt8)) : Prop where
  bounded : x.size ≤ n
  bytes : x.bytes.toList.take x.size = (text.getD []).take n

/-- An identifier, and zeros behind it. -/
def HoldsIdentifier (devid : Vector UInt8 16) (id : List UInt8) : Prop :=
  devid.toList = id ++ List.replicate (16 - id.length) 0

/-- The texts of an answer. -/
structure HoldsTexts (r : DeviceInfoResp) (id : List UInt8) (fwAuthor fwUrl : Option (List UInt8)) : Prop where
  fwAuthor : HoldsText r.fwAuthor fwAuthor
  fwUrl : HoldsText r.fwUrl fwUrl
  devid : HoldsIdentifier r.devid id

/-- The text is shorter than the field, or the 16 bits of its size count the whole field, and the byte that
is not written is the one that belongs there. -/
def TextFits {n : ℕ} (x : BytesArray n) : Option (List UInt8) → Prop
  | some text => text.length < n ∨ (text.length % 65536 = n ∧ bufferOf x.bytes (n-1) = text.getD (n-1) 0)
  | none => True

/-- No zero in the part that is copied has anything behind it, and the byte that is not written is the one
that belongs there. -/
structure IdentifierFits (devid : Vector UInt8 16) (id : List UInt8) : Prop where
  copied : ∀ i j, i < j → j < 15 → id.getD i 0 = 0 → id.getD j 0 = 0
  last : bufferOf devid 15 = id.getD 15 0

/-- What the member held fits the texts of an answer. -/
structure TextsFit (r : DeviceInfoResp) (id : List UInt8) (fwAuthor fwUrl : Option (List UInt8)) : Prop where
  fwAuthor : TextFits r.fwAuthor fwAuthor
  fwUrl : TextFits r.fwUrl fwUrl
  devid : IdentifierFits r.devid id

/-- The constructor of the class `DeviceInfoResp`, on the message of its base; `c_str()` ends at a zero. -/
def deviceInfoRespConstruct (raw : FullMessage) (deviceType : EnumField DeviceType) (deviceId : List UInt8)
    (protoMinVer maxSpeed : UInt32) (sFirmwareAuthor sFirmwareUrl : List UInt8)
    (fwVersionMajor fwVersionMinor fwVersionRevision : UInt32) (capabilities : List DomainDesc) : Outcome :=
  whadDiscoveryDeviceInfoResp (some raw) deviceType (some (cString deviceId)) protoMinVer maxSpeed
    (some (cString sFirmwareAuthor)) (some (cString sFirmwareUrl)) fwVersionMajor fwVersionMinor fwVersionRevision
    capabilities

section
variable {n k : ℕ}

theorem bufferOf_strncpy (dst : Vector UInt8 n) (text : List UInt8) (length : ℕ) {i : ℕ} (hi : i < n) :
    bufferOf (strncpy dst text length) i = if i < length then text.getD i 0 else bufferOf dst i := by
  simp [bufferOf, strncpy, Vector.get, hi]

/-- The first bytes of an array are those of a list that is as long. -/
theorem take_toList_eq_iff (v : Vector UInt8 n) (text : List UInt8) (hn : n ≤ text.length) :
    v.toList.take n = text.take n ↔ ∀ i < n, bufferOf v i = text.getD i 0 := by
  have htext : text.take n = Buffer.take (fun i => text.getD i 0) n := by
    apply List.ext_getElem
    · simp [Buffer.take, hn]
    · intro i hi hi'
      simp only [List.length_take] at hi
      have hin : i < text.length := by omega
      simp [Buffer.take, hin]
  rw [← Cpp.take_bufferOf v le_rfl, htext, Cpp.take_eq_iff]

/-- A text that is shorter than the field is there in full. -/
theorem holdsText_of_lt (x : BytesArray (k+1)) {text : List UInt8} (hk : k < 65535) (h : text.length < k+1) :
    HoldsText (storeText x (some text) k) (some text) := by
  have hsize : sizeOf16 text.length = text.length := by
    rw [sizeOf16_of_lt (by omega) (by omega), Int.toNat_natCast]
  constructor
  · change sizeOf16 text.length ≤ k+1
    omega
  · change (strncpy x.bytes text k).toList.take (sizeOf16 text.length) = text.take (k+1)
    have hle : text.length ≤ k+1 := by omega
    rw [hsize, List.take_of_length_le hle, ← Cpp.take_bufferOf _ hle]
    refine Eq.trans ?_ (Cpp.take_getD text)
    refine Cpp.take_eq_iff.mpr fun i hi => ?_
    rw [bufferOf_strncpy _ _ _ (by omega), if_pos (by omega)]

/-- A text that is no shorter than the field is held only when its size counts the whole field, which holds
its first bytes. -/
theorem holdsText_iff_of_le (x : BytesArray (k+1)) {text : List UInt8} (h : k+1 ≤ text.length) :
    HoldsText (storeText x (some text) k) (some text) ↔
      text.length % 65536 = k+1 ∧ (strncpy x.bytes text k).toList.take (k+1) = text.take (k+1) := by
  have hsize : sizeOf16 text.length = text.length % 65536 := by
    rw [sizeOf16]
    omega
  constructor
  · rintro ⟨hbounded,hbytes⟩
    change sizeOf16 text.length ≤ k+1 at hbounded
    change (strncpy x.bytes text k).toList.take (sizeOf16 text.length) = text.take (k+1) at hbytes
    rw [hsize] at hbounded hbytes
    have hlength := congrArg List.length hbytes
    simp only [List.length_take, Vector.length_toList] at hlength
    have hfull : text.length % 65536 = k+1 := by omega
    rw [hfull] at hbytes
    exact ⟨hfull,hbytes⟩
  · rintro ⟨hfull,hbytes⟩
    rw [← hsize] at hfull
    refine ⟨hfull.le,?_⟩
    change (strncpy x.bytes text k).toList.take (sizeOf16 text.length) = text.take (k+1)
    rw [hfull, hbytes]

/-- A field holds the text it is given if and only if the text fits. -/
theorem holdsText_storeText_iff (x : BytesArray (k+1)) (text : Option (List UInt8)) (hk : k < 65535) :
    HoldsText (storeText x text k) text ↔ TextFits x text := by
  cases text with
  | none => exact iff_of_true ⟨Nat.zero_le _,by simp [storeText]⟩ trivial
  | some text =>
    by_cases hshort : text.length < k+1
    · exact iff_of_true (holdsText_of_lt x hk hshort) (Or.inl hshort)
    have hlong : k+1 ≤ text.length := not_lt.mp hshort
    rw [holdsText_iff_of_le x hlong, TextFits, or_iff_right hshort, take_toList_eq_iff _ _ hlong, Nat.add_sub_cancel]
    refine and_congr_right fun _ => ?_
    -- all bytes but the last are copied
    constructor
    · intro hall
      have hlast := hall k (by omega)
      rw [bufferOf_strncpy _ _ _ (by omega), if_neg (lt_irrefl k)] at hlast
      exact hlast
    · intro hlast i hi
      rw [bufferOf_strncpy _ _ _ hi]
      split
      · rfl
      · obtain rfl : i = k := by omega
        exact hlast

/-- What a function of strings sees agrees with the bytes as far as no zero has anything behind it. -/
theorem cString_getD_iff (bytes : List UInt8) (k : ℕ) :
    (∀ i < k, (cString bytes).getD i 0 = bytes.getD i 0) ↔
      ∀ i j, i < j → j < k → bytes.getD i 0 = 0 → bytes.getD j 0 = 0 := by
  induction bytes generalizing k with
  | nil => simp [cString]
  | cons b bs ih =>
    by_cases hb : b = 0
    · have hempty : cString (b :: bs) = [] := List.takeWhile_cons_of_neg (by simp [hb])
      rw [hempty]
      constructor
      · intro h i j _ hj _
        exact (h j hj).symm
      · intro h i hi
        cases i with
        | zero => exact hb.symm
        | succ i => exact (h 0 (i+1) (Nat.succ_pos i) hi hb).symm
    · have hcons : cString (b :: bs) = b :: cString bs := List.takeWhile_cons_of_pos (by simp [hb])
      rw [hcons]
      have htail := ih (k-1)
      constructor
      · intro h i j hij hj hi
        obtain ⟨j,rfl⟩ : ∃ j', j = j'+1 := Nat.exists_eq_succ_of_ne_zero (by omega)
        cases i with
        | zero => exact absurd hi hb
        | succ i =>
          refine htail.mp (fun i hi => ?_) i j (by omega) (by omega) hi
          exact h (i+1) (by omega)
      · intro h i hi
        cases i with
        | zero => rfl
        | succ i =>
          refine htail.mpr (fun i j hij hj hi => ?_) i (by omega)
          exact h (i+1) (j+1) (by omega) (by omega) hi

theorem holdsIdentifier_iff {devid : Vector UInt8 16} {id : List UInt8} (hid : id.length ≤ 16) :
    HoldsIdentifier devid id ↔ ∀ i < 16, bufferOf devid i = id.getD i 0 := by
  have hpadded : (id ++ List.replicate (16 - id.length) 0).length = 16 := by
    simp only [List.length_append, List.length_replicate]
    omega
  have hget (i : ℕ) (hi : i < 16) : (id ++ List.replicate (16 - id.length) 0).getD i 0 = id.getD i 0 := by
    by_cases hin : i < id.length
    · exact List.getD_append _ _ _ _ hin
    · rw [List.getD_append_right _ _ _ _ (by omega), List.getD_replicate 0 (by omega),
        List.getD_eq_default id 0 (by omega)]
  have htake := take_toList_eq_iff devid (id ++ List.replicate (16 - id.length) 0) hpadded.ge
  rw [List.take_of_length_le (by simp), List.take_of_length_le hpadded.le] at htake
  rw [HoldsIdentifier, htake]
  exact forall₂_congr fun i hi => by rw [hget i hi]

/-- The identifier is passed as a string, of which fifteen bytes are written. -/
theorem holdsIdentifier_strncpy_iff (devid : Vector UInt8 16) {id : List UInt8} (hid : id.length ≤ 16) :
    HoldsIdentifier (strncpy devid (cString id) 15) id ↔ IdentifierFits devid id := by
  rw [holdsIdentifier_iff hid]
  have hbyte {i : ℕ} (hi : i < 16) := bufferOf_strncpy devid (cString id) 15 hi
  constructor
  · intro h
    constructor
    · refine (cString_getD_iff id 15).mp fun i hi => ?_
      rw [← h i (by omega), hbyte (by omega), if_pos hi]
    · rw [← h 15 (by omega), hbyte (by omega), if_neg (lt_irrefl 15)]
  · rintro ⟨hcopied,hlast⟩ i hi
    rw [hbyte hi]
    split
    · rename_i hlt
      exact (cString_getD_iff id 15).mpr hcopied i hlt
    · obtain rfl : i = 15 := by omega
      exact hlast

end

section
variable (m : FullMessage) (deviceType : EnumField DeviceType) {id : List UInt8} (protoMinVer maxSpeed : UInt32)
  (fwAuthor fwUrl : Option (List UInt8)) (fwVersionMajor fwVersionMinor fwVersionRev : UInt32)
  (capabilities : List DomainDesc)

/-- A call succeeds, and leaves the three texts in its member. -/
theorem exists_deviceInfoResp (devid : List UInt8) : ∃ r : DeviceInfoResp,
    whadDiscoveryDeviceInfoResp (some m) deviceType (some devid) protoMinVer maxSpeed fwAuthor fwUrl
        fwVersionMajor fwVersionMinor fwVersionRev capabilities =
      some (.success, some (m.put (.discovery .infoResp) r)) ∧
    r.fwAuthor = storeText (DeviceInfoResp.fwAuthor (m.msg (.discovery .infoResp))) fwAuthor 63 ∧
    r.fwUrl = storeText (DeviceInfoResp.fwUrl (m.msg (.discovery .infoResp))) fwUrl 255 ∧
    r.devid = strncpy (DeviceInfoResp.devid (m.msg (.discovery .infoResp))) devid 15 :=
  ⟨_,rfl,rfl,rfl,rfl⟩

/-- What a call leaves depends on what the member held. -/
theorem holdsTexts_iff {m' : FullMessage} (hid : id.length ≤ 16)
    (h : whadDiscoveryDeviceInfoResp (some m) deviceType (some (cString id)) protoMinVer maxSpeed fwAuthor fwUrl
      fwVersionMajor fwVersionMinor fwVersionRev capabilities = some (.success, some m')) :
    HoldsTexts (m'.msg (.discovery .infoResp)) id fwAuthor fwUrl ↔
      TextsFit (m.msg (.discovery .infoResp)) id fwAuthor fwUrl := by
  obtain ⟨r,hr,hauthor,hurl,hdevid⟩ := exists_deviceInfoResp m deviceType protoMinVer maxSpeed fwAuthor fwUrl
    fwVersionMajor fwVersionMinor fwVersionRev capabilities (cString id)
  obtain ⟨-,rfl⟩ := result_unique hr h
  rw [FullMessage.put_msg_self]
  have hauthorIff := holdsText_storeText_iff (DeviceInfoResp.fwAuthor (m.msg (.discovery .infoResp))) fwAuthor
    (show 63 < 65535 by norm_num)
  have hurlIff := holdsText_storeText_iff (DeviceInfoResp.fwUrl (m.msg (.discovery .infoResp))) fwUrl
    (show 255 < 65535 by norm_num)
  have hdevidIff := holdsIdentifier_strncpy_iff (DeviceInfoResp.devid (m.msg (.discovery .infoResp))) hid
  rw [← hauthor] at hauthorIff
  rw [← hurl] at hurlIff
  rw [← hdevid] at hdevidIff
  constructor
  · rintro ⟨ha,hu,hd⟩
    exact ⟨hauthorIff.mp ha,hurlIff.mp hu,hdevidIff.mp hd⟩
  · rintro ⟨ha,hu,hd⟩
    exact ⟨hauthorIff.mpr ha,hurlIff.mpr hu,hdevidIff.mpr hd⟩

/-- An answer holds its texts if and only if they fit what the member held: both texts are shorter than
their fields, and the last byte of the identifier is there already. -/
theorem deviceInfoResp_holdsTexts_iff (hid : id.length ≤ 16) :
    (∃ m', whadDiscoveryDeviceInfoResp (some m) deviceType (some (cString id)) protoMinVer maxSpeed fwAuthor fwUrl
        fwVersionMajor fwVersionMinor fwVersionRev capabilities = some (.success, some m') ∧
      HoldsTexts (m'.msg (.discovery .infoResp)) id fwAuthor fwUrl) ↔
    TextsFit (m.msg (.discovery .infoResp)) id fwAuthor fwUrl := by
  obtain ⟨r,hr,-⟩ := exists_deviceInfoResp m deviceType protoMinVer maxSpeed fwAuthor fwUrl fwVersionMajor
    fwVersionMinor fwVersionRev capabilities (cString id)
  have hiff := holdsTexts_iff m deviceType protoMinVer maxSpeed fwAuthor fwUrl fwVersionMajor fwVersionMinor
    fwVersionRev capabilities hid hr
  constructor
  · rintro ⟨m',hm',hholds⟩
    obtain ⟨-,rfl⟩ := result_unique hr hm'
    exact hiff.mp hholds
  · intro hfits
    exact ⟨_,hr,hiff.mpr hfits⟩

end

/-- The same for the class, up to the first zero of either string. -/
theorem deviceInfoRespConstruct_holdsTexts_iff {raw m' : FullMessage} {deviceType : EnumField DeviceType}
    {deviceId : List UInt8} {protoMinVer maxSpeed : UInt32} {sFirmwareAuthor sFirmwareUrl : List UInt8}
    {fwVersionMajor fwVersionMinor fwVersionRevision : UInt32} {capabilities : List DomainDesc}
    (hid : deviceId.length ≤ 16)
    (h : deviceInfoRespConstruct raw deviceType deviceId protoMinVer maxSpeed sFirmwareAuthor sFirmwareUrl
      fwVersionMajor fwVersionMinor fwVersionRevision capabilities = some (.success, some m')) :
    HoldsTexts (m'.msg (.discovery .infoResp)) deviceId (some (cString sFirmwareAuthor))
        (some (cString sFirmwareUrl)) ↔
      TextsFit (raw.msg (.discovery .infoResp)) deviceId (some (cString sFirmwareAuthor))
        (some (cString sFirmwareUrl)) :=
  holdsTexts_iff raw deviceType protoMinVer maxSpeed _ _ fwVersionMajor fwVersionMinor fwVersionRevision
    capabilities hid h

/-- An answer in a message of zeros. -/
theorem deviceInfoResp_holdsTexts_iff_four :
    (∃ m', whadDiscoveryDeviceInfoResp (some default) ⟨1⟩ (some (cString [1,2,3,4])) 2 115200 (some [65,66]) none
        1 0 0 [] = some (.success, some m') ∧
      HoldsTexts (m'.msg (.discovery .infoResp)) [1,2,3,4] (some [65,66]) none) ↔
    TextsFit ((default : FullMessage).msg (.discovery .infoResp)) [1,2,3,4] (some [65,66]) none :=
  deviceInfoResp_holdsTexts_iff default ⟨1⟩ 2 115200 (some [65,66]) none 1 0 0 [] (by decide)

/-- A name of 65 characters is counted in full, and the last of 64 bytes is not its own. -/
theorem long_author_leaves_its_field :
    let author : List UInt8 := List.replicate 65 65
    let sent := whadDiscoveryDeviceInfoResp (some default) ⟨1⟩ (some (cString [1,2,3,4])) 2 115200 (some author)
      none 1 0 0 []
    ∃ m', sent = some (.success, some m') ∧
      (DeviceInfoResp.fwAuthor (m'.msg (.discovery .infoResp))).size = 65 ∧
      ¬HoldsTexts (m'.msg (.discovery .infoResp)) [1,2,3,4] (some author) none := by
  intro author sent
  obtain ⟨r,hr,hauthor,-⟩ := exists_deviceInfoResp default ⟨1⟩ 2 115200 (some author) none 1 0 0 []
    (cString [1,2,3,4])
  have hsize : r.fwAuthor.size = 65 := by
    rw [hauthor]
    decide
  refine ⟨_,hr,?_,fun h => ?_⟩
  · rw [FullMessage.put_msg_self, hsize]
  · have hbounded := h.fwAuthor.bounded
    rw [FullMessage.put_msg_self, hsize] at hbounded
    omega

end WhadLib
