import WhadLib.Esb.Wrappers

/-! Which messages of the ESB domain the wrapper classes leave as they were. -/
namespace WhadLib.Esb
open Library Cpp

/-- The wrapper classes. -/
inductive EsbWrapper
  | jamMode | jammed | rawPacketReceived | packetReceived | prxMode | ptxMode | sendPacket | sendPacketRaw
  | setNodeAddress | sniffMode | start | stop
  deriving DecidableEq, Repr

namespace EsbWrapper

def wrapperClass : EsbWrapper → WrapperClass
  | .jamMode => Wrapper.jamMode
  | .jammed => Wrapper.jammed
  | .rawPacketReceived => Wrapper.rawPacketReceived
  | .packetReceived => Wrapper.packetReceived
  | .prxMode => Wrapper.prxMode
  | .ptxMode => Wrapper.ptxMode
  | .sendPacket => Wrapper.sendPacket
  | .sendPacketRaw => Wrapper.sendPacketRaw
  | .setNodeAddress => Wrapper.setNodeAddress
  | .sniffMode => Wrapper.sniffMode
  | .start => Wrapper.start
  | .stop => Wrapper.stop

end EsbWrapper

/-- A timestamp that is there, that 32 bits are enough for, and that does not read as a cleared flag. -/
def TimestampShown (x : OptionalField UInt64) : Prop := x.has = true ∧ 0 < x.value.toNat ∧ x.value.toNat < 2^32

/-- The messages that a class leaves as they were. -/
def EsbWrapper.Keeps : EsbWrapper → FullMessage → Prop
  | .jammed, m => (Jammed.timestamp (m.msg (.esb .jammed))).toNat < 2^32
  | .rawPacketReceived, m => TimestampShown (PduReceived.timestamp (m.msg (.esb .rawPdu)))
  | .packetReceived, m => TimestampShown (PduReceived.timestamp (m.msg (.esb .pdu)))
  | .sendPacket, _ => False
  | _, _ => True

namespace Wrapper
variable {m : FullMessage}

/-! Addresses. -/

/-- A new address takes every value that a message carries. -/
def AddressClass.Sets (A : AddressClass) : Prop := ∀ memory src {n : ℕ}, n ≤ 5 →
  ∃ bytes, A.set (A.construct memory) src n = some ⟨bytes,n⟩ ∧ (bufferOf bytes).take n = src.take n

theorem esbAddress_set (address : EsbAddress) (src : Buffer) {n : ℕ} (h : n ≤ 5) :
    ∃ bytes, esbAddress.set address src n = some ⟨bytes,n⟩ ∧ (bufferOf bytes).take n = src.take n := by
  obtain ⟨bytes,hbytes,htake⟩ := exists_memcpy address.address src h
  refine ⟨bytes,?_,htake⟩
  have hsize : (UInt8.ofInt n).toNat = n := toNat_uint8_ofInt (by omega)
  have hmax : UInt8.ofInt n ≤ 5 := by
    rw [UInt8.le_iff_toNat_le, hsize]
    exact h
  refine (if_pos hmax).trans ?_
  rw [hsize, hbytes]
  rfl

theorem esbAddress_sets : esbAddress.Sets := fun _ src _ h => esbAddress_set _ src h

theorem loadNodeAddress_spec (s : EsbAddress) {p : SetNodeAddressCmd} (h : p.address.size ≤ 5) :
    ∃ bytes, loadNodeAddress p s = done ⟨bytes,p.address.size⟩ ∧
      (bufferOf bytes).take p.address.size = (bufferOf p.address.bytes).take p.address.size := by
  obtain ⟨bytes,hbytes,htake⟩ := exists_memcpy s.address (bufferOf p.address.bytes) h
  refine ⟨bytes,(if_pos h).trans ?_,htake⟩
  rw [hbytes]
  rfl

theorem storeNodeAddress_spec (addr : EsbAddress) {p : SetNodeAddressCmd}
    (hreads : ReadsAs p.address (bufferOf addr.address) addr.size) :
    ∃ q, storeNodeAddress addr p = done q ∧ q.wire = p.wire := by
  have hmax : addr.size ≤ 5 := by
    rw [hreads.size]
    exact_mod_cast hreads.bounded
  obtain ⟨z,hz,-,hvalue⟩ := hreads.fill (by omega) p.address
  refine ⟨⟨z⟩,(if_pos hmax).trans ?_,?_⟩
  · rw [hz]
    rfl
  · simp only [SetNodeAddressCmd.wire, hvalue]

/-- Both domains restore the address of a node. -/
theorem nodeAddress_faithful {A : AddressClass} {kind : Kind} {parser : Option FullMessage → Option EsbAddress → Parsed EsbAddress}
    {builder : Option FullMessage → Option EsbAddress → Outcome} {member : FullMessage → SetNodeAddressCmd}
    (hA : A.Sets) (hown : m.Holds kind) (haccepted : (member m).wire.Accepted) (hmember : kind.wire (m.msg kind) = (member m).wire)
    (hparser : ∀ s s', loadNodeAddress (member m) s = done s' → parsedBy (parser (some m) (some s)) = some s')
    (hbuilder : ∀ addr q, storeNodeAddress addr (member m) = done q →
      ∃ q', packed (builder (some m) (some addr)) = some (m.put kind q') ∧ kind.wire q' = q.wire) :
    (nodeAddress A kind parser builder member).Faithful m := by
  have hsize : (member m).address.size ≤ 5 := (accepted_bytes_iff _).mp haccepted.1
  refine (WrapperClass.faithful_iff_of hown (memset 0,default) fun s => ?_).mpr trivial
  obtain ⟨loaded,hloaded,hloadedtake⟩ := loadNodeAddress_spec s.2 hsize
  obtain ⟨bytes,hbytes,htake⟩ := hA s.1 (bufferOf loaded) hsize
  have hreads : ReadsAs (member m).address (bufferOf bytes) (member m).address.size :=
    readsAs_of_take hsize (htake.trans hloadedtake)
  obtain ⟨q,hq,hqwire⟩ := storeNodeAddress_spec ⟨bytes,(member m).address.size⟩ hreads
  obtain ⟨q',hq',hqwire'⟩ := hbuilder _ _ hq
  refine ⟨⟨bytes,(member m).address.size⟩,q',?_,hq',iff_of_true ⟨?_,hreads⟩ trivial⟩
  · simp only [nodeAddress, hparser _ _ hloaded, Option.bind_eq_bind, Option.bind_some, hbytes]
  · exact hqwire'.trans (hqwire.trans hmember.symm)

theorem loadSniff_spec (s : EsbSniffParams) {p : SniffCmd} (h : p.address.size ≤ 5) :
    ∃ bytes, loadSniff p s = done ⟨⟨bytes,p.address.size⟩,p.channel,p.showAcknowledgements⟩ ∧
      (bufferOf bytes).take p.address.size = (bufferOf p.address.bytes).take p.address.size := by
  obtain ⟨bytes,hbytes,htake⟩ := exists_memcpy s.address.address (bufferOf p.address.bytes) h
  have hmax : ¬esbAddrMaxSize < p.address.size := by
    rw [esbAddrMaxSize]
    omega
  refine ⟨bytes,(if_neg hmax).trans ?_,htake⟩
  rw [hbytes]
  rfl

/-- Both domains restore what they sniff. -/
theorem sniffing_faithful {A : AddressClass} {kind : Kind} {parser : Option FullMessage → Option EsbSniffParams → Parsed EsbSniffParams}
    {builder : Option FullMessage → Option EsbAddress → UInt32 → Bool → Outcome} {member : FullMessage → SniffCmd}
    (hA : A.Sets) (hown : m.Holds kind) (haccepted : (member m).wire.Accepted) (hmember : kind.wire (m.msg kind) = (member m).wire)
    (hparser : ∀ s s', loadSniff (member m) s = done s' → parsedBy (parser (some m) (some s)) = some s')
    (hbuilder : ∀ addr channel showAck q, addr.size ≤ 5 → storeSniff addr channel showAck (member m) = done q →
      ∃ q', packed (builder (some m) (some addr) channel showAck) = some (m.put kind q') ∧ kind.wire q' = q.wire) :
    (sniffing A kind parser builder member).Faithful m := by
  have hsize : (member m).address.size ≤ 5 := (accepted_bytes_iff _).mp haccepted.2.1
  refine (WrapperClass.faithful_iff_of hown (memset 0,default) fun s => ?_).mpr trivial
  obtain ⟨loaded,hloaded,hloadedtake⟩ := loadSniff_spec s.2 hsize
  obtain ⟨bytes,hbytes,htake⟩ := hA s.1 (bufferOf loaded) hsize
  have hreads : ReadsAs (member m).address (bufferOf bytes) (member m).address.size :=
    readsAs_of_take hsize (htake.trans hloadedtake)
  obtain ⟨z,hz,-,hvalue⟩ := hreads.fill (by omega) (member m).address
  have hq : storeSniff ⟨bytes,(member m).address.size⟩ (member m).channel (member m).showAcknowledgements (member m) =
      done { (member m) with address := z } := by
    simp only [storeSniff, hz]
    rfl
  obtain ⟨q',hq',hqwire'⟩ := hbuilder _ _ _ _ (show ((member m).address.size : ℤ) ≤ 5 by omega) hq
  refine ⟨⟨⟨bytes,(member m).address.size⟩,(member m).channel,(member m).showAcknowledgements⟩,q',?_,hq',
    iff_of_true ⟨?_,rfl,hreads,rfl⟩ trivial⟩
  · simp only [sniffing, hparser _ _ hloaded, Option.bind_eq_bind, Option.bind_some, hbytes]
  · refine hqwire'.trans (Eq.trans ?_ hmember.symm)
    simp only [SniffCmd.wire, hvalue]

/-- A number of 64 bits that is a member of 32 bits. -/
theorem jammed_kept_iff (p : Jammed) :
    (UInt32 → Jammed.wire ⟨p.timestamp.toUInt32.toUInt64⟩ = p.wire ∧ p.timestamp.toUInt32.toUInt64 = p.timestamp) ↔
      p.timestamp.toNat < 2^32 := by
  rw [← toUInt32_toUInt64_iff]
  constructor
  · intro h
    exact (h 0).2
  · intro h _
    rw [h]
    exact ⟨rfl,rfl⟩

/-! Packets to send. -/

theorem loadSend_spec (s : EsbSendParams) {p : SendCmd} (h : p.pdu.size ≤ 255) :
    ∃ bytes, loadSend p s = done ⟨p.channel,p.retransmissionCount,⟨bytes,UInt8.ofNat p.pdu.size⟩⟩ ∧
      (bufferOf bytes).take p.pdu.size = (bufferOf p.pdu.bytes).take p.pdu.size := by
  obtain ⟨bytes,hbytes,htake⟩ := exists_memcpy s.packet.bytes (bufferOf p.pdu.bytes) h
  have hmax : ¬255 < (UInt8.ofNat p.pdu.size).toNat := by
    rw [toNat_uint8_ofNat (by omega)]
    omega
  refine ⟨bytes,(if_neg hmax).trans ?_,htake⟩
  rw [hbytes]
  rfl

/-- What the members are set to from what a parser has loaded. -/
theorem ofParams_spec {x : BytesArray 255} {bytes : Vector UInt8 255} (channel retrCount : UInt32) (h : x.size ≤ 255)
    (htake : (bufferOf bytes).take x.size = (bufferOf x.bytes).take x.size) :
    ∃ packet, SendPacket.ofParams ⟨channel,retrCount,⟨bytes,UInt8.ofNat x.size⟩⟩ = some ⟨channel,retrCount,packet⟩ ∧
      ReadsAs x packet.getBytes packet.getSize := by
  obtain ⟨packet,hpacket⟩ := Packet.setBytes_of_le (n := 255) (bufferOf bytes) h
  refine ⟨packet,?_,(readsAs_of_take h htake).setBytes hpacket⟩
  simp only [SendPacket.ofParams, toNat_uint8_ofNat (show x.size < 256 by omega), hpacket]
  rfl

/-- Both domains restore a packet to send; what is left is how the number of retries is shown. -/
theorem sending_faithful_iff {kind : Kind} {parser : Option FullMessage → Option EsbSendParams → Parsed EsbSendParams}
    {builder : Option FullMessage → UInt32 → ℤ → Option Buffer → UInt8 → Outcome} {member : FullMessage → SendCmd}
    {retries : UInt32 → UInt32 → Prop} (hown : m.Holds kind) (haccepted : (member m).wire.Accepted)
    (hmember : kind.wire (m.msg kind) = (member m).wire)
    (hparser : ∀ s s', loadSend (member m) s = done s' → parsedBy (parser (some m) (some s)) = some s')
    (hbuilder : ∀ channel retrCount src length q, storeSend channel retrCount src length (member m) = done q →
      ∃ q', packed (builder (some m) channel retrCount (some src) length) = some (m.put kind q') ∧
        kind.wire q' = q.wire) :
    (sending kind parser builder member retries).Faithful m ↔
      retries (member m).retransmissionCount (member m).retransmissionCount := by
  have hsize : (member m).pdu.size ≤ 255 := (accepted_bytes_iff _).mp haccepted.2.2.1
  refine WrapperClass.faithful_iff_of hown (default : EsbSendParams) fun s => ?_
  obtain ⟨loaded,hloaded,hloadedtake⟩ := loadSend_spec s hsize
  obtain ⟨packet,hpacket,hreads⟩ := ofParams_spec (member m).channel (member m).retransmissionCount hsize hloadedtake
  obtain ⟨z,hz,-,hvalue⟩ := hreads.fill (by omega) (member m).pdu
  have hlength : (UInt8.ofInt packet.getSize).toNat = packet.getSize := by
    rw [hreads.size, toNat_uint8_ofInt (by omega)]
  have hq : storeSend (member m).channel (member m).retransmissionCount.toInt32.toInt packet.getBytes
      (UInt8.ofInt packet.getSize) (member m) = done { (member m) with pdu := z } := by
    simp only [storeSend, hlength, hz, uint32_ofInt_toInt]
    rfl
  obtain ⟨q',hq',hqwire'⟩ := hbuilder _ _ _ _ _ hq
  refine ⟨⟨(member m).channel,(member m).retransmissionCount,packet⟩,q',?_,hq',?_⟩
  · simp only [sending, hparser _ _ hloaded, Option.bind_eq_bind, Option.bind_some, hpacket]
  · have hwire : kind.wire q' = kind.wire (m.msg kind) := by
      refine hqwire'.trans (Eq.trans ?_ hmember.symm)
      simp only [SendCmd.wire, hvalue]
    constructor
    · rintro ⟨-,-,hretries,-⟩
      exact hretries
    · intro hretries
      exact ⟨hwire,rfl,hretries,hreads⟩

/-! Received packets. -/

/-- What a builder stores behind a flag. -/
theorem storeOptional_same {α β : Type} {given x : OptionalField α} (convert : α → β) (y : OptionalField β) (h : given.Same x) :
    (storeOptional given convert y).Same ⟨x.has,convert x.value⟩ := by
  cases hhas : given.has with
  | false =>
    refine ⟨(congrArg OptionalField.has (if_neg (by simp [hhas]))).trans (hhas.symm.trans h.1),fun hx => ?_⟩
    have hgiven : given.has = true := h.1.trans hx
    rw [hhas] at hgiven
    contradiction
  | true =>
    rw [storeOptional, if_pos hhas]
    exact ⟨hhas.symm.trans h.1,fun hx => congrArg convert (h.2 hx)⟩

theorem storeOptional_shows {α β : Type} (given : OptionalField α) (convert : α → β) (x : OptionalField β) :
    (storeOptional given convert x).Same ⟨given.has,convert given.value⟩ :=
  storeOptional_same convert x ⟨rfl,fun _ => rfl⟩

/-- The members of an object carry a received packet, with the lower half of its timestamp. -/
structure Loaded (p : PduReceived) (o : RawPacketReceived) : Prop where
  channel : o.channel = p.channel
  rssi : o.rssi.Same p.rssi
  timestamp : o.timestamp.Same ⟨p.timestamp.has,p.timestamp.value.toUInt32⟩
  crcValidity : o.crcValidity.Same p.crcValidity
  hasAddress : o.address.has = p.address.has
  address : p.address.has = true → ReadsAs p.address.value (bufferOf o.address.value.address) o.address.value.size
  packet : ReadsAs p.pdu o.packet.getBytes o.packet.getSize

/-- So does a member of a message. -/
structure Stored (p q : PduReceived) : Prop where
  channel : q.channel = p.channel
  rssi : q.rssi.Same p.rssi
  timestamp : q.timestamp.Same ⟨p.timestamp.has,p.timestamp.value.toUInt32.toUInt64⟩
  crcValidity : q.crcValidity.Same p.crcValidity
  hasAddress : q.address.has = p.address.has
  address : p.address.has = true →
    q.address.value.size = p.address.value.size ∧ value q.address.value = value p.address.value
  pdu : q.pdu.size = p.pdu.size ∧ value q.pdu = value p.pdu

theorem Loaded.of_stored {p q : PduReceived} {o : RawPacketReceived} (hq : Stored p q) (ho : Loaded q o) : Loaded p o where
  channel := ho.channel.trans hq.channel
  rssi := same_trans ho.rssi hq.rssi
  timestamp := by
    refine same_trans ho.timestamp ⟨hq.timestamp.1,fun hhas => ?_⟩
    change q.timestamp.value.toUInt32 = p.timestamp.value.toUInt32
    rw [hq.timestamp.2 hhas, UInt32.toUInt32_toUInt64]
  crcValidity := same_trans ho.crcValidity hq.crcValidity
  hasAddress := ho.hasAddress.trans hq.hasAddress
  address := fun hhas =>
    (ho.address (hq.hasAddress.trans hhas)).of_value (hq.address hhas).1 (hq.address hhas).2
  packet := ho.packet.of_value hq.pdu.1 hq.pdu.2

/-- What is stored shows on the wire as what it was loaded from if 32 bits are enough for the timestamp. -/
theorem Stored.wire_iff {p q : PduReceived} (h : Stored p q) :
    q.wire = p.wire ↔ (p.timestamp.has = true → p.timestamp.value.toNat < 2^32) := by
  have haddress : value q.address = value p.address :=
    (value_optional_iff _ _).mpr ⟨h.hasAddress,fun hhas => (h.address hhas).2⟩
  rw [← value_half_iff h.timestamp]
  simp only [PduReceived.wire, h.channel, value_of_same h.rssi, value_of_same h.crcValidity, haddress, h.pdu.2,
    Wire.field.injEq, true_and, and_true]

theorem store_spec {p : PduReceived} {o : RawPacketReceived} (p₀ : PduReceived) (h : Loaded p o) :
    ∃ q, storeRecvdPacket o.params p₀ = done q ∧ Stored p q := by
  have hsize : p.pdu.size ≤ 255 := h.packet.bounded
  have hlength : (UInt8.ofInt o.packet.getSize).toNat = o.packet.getSize := by
    rw [h.packet.size, toNat_uint8_ofInt (by omega)]
  obtain ⟨z,hz,hzsize,hzvalue⟩ := h.packet.copyOf.fill (by omega) p₀.pdu
  have hstored : p₀.pdu.fill (bufferOf o.params.packet.bytes) o.params.packet.length.toNat = some z := by
    rw [← hz]
    exact congrArg _ hlength
  have htimestamp := storeOptional_same UInt32.toUInt64 p₀.timestamp h.timestamp
  let q (address : OptionalField (BytesArray 5)) : PduReceived := {
    channel := o.channel, pdu := z, rssi := storeOptional o.rssi id p₀.rssi
    timestamp := storeOptional o.timestamp UInt32.toUInt64 p₀.timestamp
    crcValidity := storeOptional o.crcValidity id p₀.crcValidity, address := address }
  simp only [storeRecvdPacket, hstored, Option.bind_eq_bind, Option.bind_some]
  cases haddress : p.address.has with
  | false =>
    have hnone : ¬o.params.address.has = true := by
      rw [show o.params.address.has = p.address.has from h.hasAddress, haddress]
      simp
    refine ⟨q ⟨false,⟨0,memset 0⟩⟩,if_neg hnone,h.channel,storeOptional_same id _ h.rssi,htimestamp,
      storeOptional_same id _ h.crcValidity,haddress.symm,fun hhas => ?_,hzsize,hzvalue⟩
    rw [haddress] at hhas
    contradiction
  | true =>
    have hsome : o.params.address.has = true := h.hasAddress.trans haddress
    have hreads := h.address haddress
    have hmax : ¬5 < o.params.address.value.size := by
      rw [show o.params.address.value.size = p.address.value.size from hreads.size]
      have := hreads.bounded
      omega
    obtain ⟨w,hw,hwsize,hwvalue⟩ := hreads.fill (by omega) p₀.address.value
    have hbind : p₀.address.value.fill (bufferOf o.params.address.value.address) o.params.address.value.size = some w := hw
    refine ⟨q ⟨true,w⟩,(if_pos hsome).trans ((if_neg hmax).trans ?_),h.channel,storeOptional_same id _ h.rssi,
      htimestamp,storeOptional_same id _ h.crcValidity,haddress.symm,fun _ => ⟨hwsize,hwvalue⟩,hzsize,hzvalue⟩
    rw [hbind]
    rfl

/-- The sizes of a received packet that was decoded. -/
structure Fits (p : PduReceived) : Prop where
  pdu : p.pdu.size ≤ 255
  address : p.address.has = true → p.address.value.size ≤ 5

theorem fits_of_accepted {p : PduReceived} (h : p.wire.Accepted) : Fits p := by
  obtain ⟨-,-,-,-,haddress,hpdu,-⟩ := h
  refine ⟨(accepted_bytes_iff _).mp hpdu,fun hhas => (accepted_bytes_iff _).mp ?_⟩
  rw [value, show p.address = ⟨true,p.address.value⟩ by rw [← hhas]] at haddress
  exact haddress

theorem Stored.fits {p q : PduReceived} (h : Stored p q) (hp : Fits p) : Fits q where
  pdu := h.pdu.1.trans_le hp.pdu
  address := fun hhas => ((h.address (h.hasAddress.symm.trans hhas)).1).trans_le (hp.address (h.hasAddress.symm.trans hhas))

/-- What a parser has written carries a received packet. -/
structure Fetched (p : PduReceived) (params : EsbRecvdPacket) : Prop where
  channel : params.channel = p.channel
  rssi : params.rssi.Same p.rssi
  timestamp : params.timestamp.Same ⟨p.timestamp.has,p.timestamp.value.toUInt32⟩
  crcValidity : params.crcValidity.Same p.crcValidity
  hasAddress : params.address.has = p.address.has
  address : p.address.has = true →
    ReadsAs p.address.value (bufferOf params.address.value.address) params.address.value.size
  packet : ReadsAs p.pdu (bufferOf params.packet.bytes) params.packet.length.toNat

theorem loadRecvdPacket_spec {p : PduReceived} (h : Fits p) (s : EsbRecvdPacket) :
    ∃ params, loadRecvdPacket p s = done params ∧ Fetched p params := by
  have hlength : (UInt8.ofNat p.pdu.size).toNat = p.pdu.size := toNat_uint8_ofNat (by have := h.pdu; omega)
  obtain ⟨bytes,hbytes,htake⟩ := exists_memcpy s.packet.bytes (bufferOf p.pdu.bytes) h.pdu
  have hcopy : memcpy s.packet.bytes (bufferOf p.pdu.bytes) (UInt8.ofNat p.pdu.size).toNat = some bytes := by
    rw [hlength, hbytes]
  -- what is the same with and without an address
  let params (address : OptionalField EsbAddress) : EsbRecvdPacket := {
    channel := p.channel, packet := ⟨bytes,UInt8.ofNat p.pdu.size⟩, rssi := loadOptional s.rssi p.rssi id
    timestamp := loadOptional s.timestamp p.timestamp UInt64.toUInt32
    crcValidity := loadOptional s.crcValidity p.crcValidity id, address := address }
  have hfetched {address : OptionalField EsbAddress} (hhas : address.has = p.address.has)
      (haddress : p.address.has = true → ReadsAs p.address.value (bufferOf address.value.address) address.value.size) :
      Fetched p (params address) := {
    channel := rfl
    rssi := loadOptional_same _ p.rssi id
    timestamp := loadOptional_same _ p.timestamp UInt64.toUInt32
    crcValidity := loadOptional_same _ p.crcValidity id
    hasAddress := hhas
    address := haddress
    packet := by
      rw [show (params address).packet.length.toNat = p.pdu.size from hlength]
      exact readsAs_of_take h.pdu htake }
  cases haddress : p.address.has with
  | false =>
    refine ⟨params ⟨false,s.address.value⟩,?_,hfetched haddress.symm fun hhas => ?_⟩
    · simp only [loadRecvdPacket, hcopy, haddress]
      rfl
    · rw [haddress] at hhas
      contradiction
  | true =>
    have hsize := h.address haddress
    have hmax : ¬5 < p.address.value.size := by omega
    obtain ⟨loaded,hload,hloadtake⟩ := exists_memcpy s.address.value.address (bufferOf p.address.value.bytes) hsize
    refine ⟨params ⟨true,⟨loaded,p.address.value.size⟩⟩,?_,hfetched haddress.symm fun _ => readsAs_of_take hsize hloadtake⟩
    simp only [loadRecvdPacket, hcopy, haddress, if_neg hmax, hload]
    rfl

/-- A timestamp that is not there leaves its member as it was. -/
theorem unpack_spec {p : PduReceived} {params : EsbRecvdPacket} (h : Fetched p params) (hfits : Fits p)
    (base : RawPacketReceived) :
    ∃ o, base.unpack params = some o ∧ Loaded p o ∧
      (p.timestamp.has = false → o.timestamp.value = base.timestamp.value) := by
  obtain ⟨packet,hpacket⟩ := Packet.setBytes_of_le (n := 255) (bufferOf params.packet.bytes)
    (show params.packet.length.toNat ≤ 255 by have := h.packet.size; have := hfits.pdu; omega)
  have hreads := h.packet.setBytes hpacket
  -- what is the same with and without an address
  let o (address : OptionalField EsbAddress) : RawPacketReceived := {
    channel := params.channel, packet := packet, rssi := loadOptional base.rssi params.rssi id
    timestamp := loadOptional base.timestamp params.timestamp id
    crcValidity := loadOptional base.crcValidity params.crcValidity id, address := address }
  have hloaded {address : OptionalField EsbAddress} (hhas : address.has = p.address.has)
      (haddress : p.address.has = true → ReadsAs p.address.value (bufferOf address.value.address) address.value.size) :
      Loaded p (o address) := {
    channel := h.channel
    rssi := same_trans (loadOptional_same _ params.rssi id) h.rssi
    timestamp := same_trans (loadOptional_same _ params.timestamp id) h.timestamp
    crcValidity := same_trans (loadOptional_same _ params.crcValidity id) h.crcValidity
    hasAddress := hhas
    address := haddress
    packet := hreads }
  have htimestamp {address : OptionalField EsbAddress} (hhas : p.timestamp.has = false) :
      (o address).timestamp.value = base.timestamp.value := by
    have hparams : params.timestamp.has = false := h.timestamp.1.trans hhas
    simp [o, loadOptional, hparams]
  cases haddress : p.address.has with
  | false =>
    have hnone : params.address.has = false := h.hasAddress.trans haddress
    refine ⟨o ⟨false,base.address.value⟩,?_,hloaded haddress.symm fun hhas => ?_,htimestamp⟩
    · simp only [RawPacketReceived.unpack, hpacket, hnone]
      rfl
    · rw [haddress] at hhas
      contradiction
  | true =>
    have hsome : params.address.has = true := h.hasAddress.trans haddress
    have haddr := h.address haddress
    obtain ⟨kept,hkept,hkepttake⟩ :=
      esbAddress_set base.address.value (bufferOf params.address.value.address) (hfits.address haddress)
    refine ⟨o ⟨true,⟨kept,p.address.value.size⟩⟩,?_,hloaded haddress.symm fun _ => ?_,htimestamp⟩
    · simp only [RawPacketReceived.unpack, hpacket, hsome, haddr.size, hkept]
      rfl
    · exact ⟨rfl,haddr.content.trans (congrArg some hkepttake.symm)⟩

/-- What an object shows of the timestamp. -/
theorem Loaded.shows_iff {p : PduReceived} {o : RawPacketReceived} (h : Loaded p o) :
    o.Shows p ↔ (o.timestamp.value ≠ 0 ↔ p.timestamp.has = true) ∧ p.timestamp.Shown o.timestamp.value.toUInt64 := by
  constructor
  · intro hshows
    exact ⟨hshows.hasTimestamp,hshows.timestamp⟩
  · rintro ⟨hhas,htimestamp⟩
    exact ⟨h.channel,h.rssi.1,h.rssi.2,hhas,htimestamp,h.crcValidity.1,h.crcValidity.2,h.hasAddress,h.address,h.packet⟩

/-- What lies in memory shows as a timestamp if there is none. -/
def TimestampKept (x : OptionalField UInt64) (memory : UInt32) : Prop :=
  if x.has = true then 0 < x.value.toNat ∧ x.value.toNat < 2^32 else memory = 0

theorem timestampKept_iff (x : OptionalField UInt64) :
    (∀ s : RawPacketReceived, TimestampKept x s.timestamp.value) ↔ TimestampShown x := by
  simp only [TimestampKept, TimestampShown]
  cases x.has with
  | false =>
    constructor
    · intro h
      have hone : (1 : UInt32) = 0 := h ⟨0,⟨false,0⟩,⟨false,1⟩,⟨false,false⟩,⟨false,default⟩,.empty⟩
      contradiction
    · rintro ⟨h,-⟩
      contradiction
  | true =>
    constructor
    · intro h
      exact ⟨rfl,h ⟨0,⟨false,0⟩,⟨false,0⟩,⟨false,false⟩,⟨false,default⟩,.empty⟩⟩
    · rintro ⟨-,h⟩ -
      exact h

/-- An object that has loaded a packet restores and shows it if that is so for its timestamp. -/
theorem Loaded.kept_iff {p q : PduReceived} {o : RawPacketReceived} {memory : UInt32} (ho : Loaded p o) (hq : Stored p q)
    (hmemory : p.timestamp.has = false → o.timestamp.value = memory) :
    q.wire = p.wire ∧ o.Shows p ↔ TimestampKept p.timestamp memory := by
  rw [hq.wire_iff, ho.shows_iff, TimestampKept]
  cases hhas : p.timestamp.has with
  | false => simp [OptionalField.Shown, hhas, hmemory hhas]
  | true =>
    have hvalue : o.timestamp.value = p.timestamp.value.toUInt32 := ho.timestamp.2 hhas
    simp only [OptionalField.Shown, hhas, hvalue, forall_const, iff_true, if_true, toUInt32_toUInt64_iff]
    constructor
    · rintro ⟨hlt,hne,-⟩
      refine ⟨Nat.pos_of_ne_zero fun hzero => hne ?_,hlt⟩
      rw [UInt64.toNat_inj.mp (show p.timestamp.value.toNat = (0 : UInt64).toNat from hzero)]
      rfl
    · rintro ⟨hpos,hlt⟩
      refine ⟨hlt,fun hzero => ?_,hlt⟩
      have hback := (toUInt32_toUInt64_iff _).mpr hlt
      rw [hzero] at hback
      rw [← hback] at hpos
      exact absurd hpos (by decide)

section
attribute [local irreducible] FullMessage.build
variable {p : PduReceived}

/-- An object that is constructed carries the packet; a timestamp that is not there is what lies in memory. -/
theorem rawPacketReceived_construct (hp : m.msg (.esb .rawPdu) = p) (hfits : Fits p)
    (s : RawPacketReceived × EsbRecvdPacket) :
    ∃ o, rawPacketReceived.construct m s = some (m,o) ∧ Loaded p o ∧
      (p.timestamp.has = false → o.timestamp.value = s.1.timestamp.value) := by
  subst hp
  obtain ⟨params,hparams,hfetched⟩ := loadRecvdPacket_spec hfits s.2
  obtain ⟨o,ho,hloaded,htimestamp⟩ := unpack_spec hfetched hfits s.1.init
  have hparsed : parsedBy (whadEsbRawPduReceivedParse (some m) (some s.2)) = some params := parsedBy_parse hparams
  refine ⟨o,?_,hloaded,htimestamp⟩
  simp only [rawPacketReceived, hparsed, Option.bind_eq_bind, Option.bind_some, ho]

/-- The packet is loaded, stored and loaded again. -/
theorem packetReceived_construct (hraw : m.msg (.esb .rawPdu) = p) (hp : m.msg (.esb .pdu) = p) (hfits : Fits p)
    (s : RawPacketReceived × EsbRecvdPacket × EsbRecvdPacket) :
    ∃ q o, packetReceived.construct m s = some (m.put (.esb .pdu) q,o) ∧ Loaded p o ∧
      (p.timestamp.has = false → o.timestamp.value = s.1.timestamp.value) := by
  obtain ⟨params,hparams,hfetched⟩ := loadRecvdPacket_spec hfits s.2.1
  obtain ⟨base,hbase,hbaseloaded,hbasetimestamp⟩ := unpack_spec hfetched hfits s.1.init
  obtain ⟨q,hq,hstored⟩ := store_spec p hbaseloaded
  obtain ⟨params',hparams',hrefetched⟩ := loadRecvdPacket_spec (hstored.fits hfits) s.2.2
  obtain ⟨o,ho,hreloaded,htimestamp⟩ := unpack_spec hrefetched (hstored.fits hfits) base
  have hparsed : parsedBy (whadEsbRawPduReceivedParse (some m) (some s.2.1)) = some params := by
    refine parsedBy_parse ?_
    rw [hraw]
    exact hparams
  have hpacked : packed (whadEsbPduReceived (some m) (some base.params)) = some (m.put (.esb .pdu) q) := by
    refine packed_build (r := .success) ?_
    rw [hp]
    exact hq
  have hparsed' : parsedBy (whadEsbPduReceivedParse (some (m.put (.esb .pdu) q)) (some s.2.2)) = some params' := by
    refine parsedBy_parse ?_
    rw [FullMessage.put_msg_self]
    exact hparams'
  refine ⟨q,o,?_,hreloaded.of_stored hstored,fun hhas => ?_⟩
  · simp only [packetReceived, hparsed, Option.bind_eq_bind, Option.bind_some, hbase, hpacked, hparsed', ho]
  · exact (htimestamp (hstored.timestamp.1.trans hhas)).trans (hbasetimestamp hhas)

theorem rawPacketReceived_faithful_iff (hm : Decoded m) (hown : m.Holds (.esb .rawPdu)) :
    rawPacketReceived.Faithful m ↔ EsbWrapper.rawPacketReceived.Keeps m := by
  let p : PduReceived := m.msg (.esb .rawPdu)
  have hfits : Fits p := fits_of_accepted (hm.accepted _ hown)
  have hkept : rawPacketReceived.Faithful m ↔
      ∀ s : RawPacketReceived × EsbRecvdPacket, TimestampKept p.timestamp s.1.timestamp.value := by
    refine WrapperClass.faithful_iff_forall (c := rawPacketReceived) hown fun s => ?_
    obtain ⟨o,ho,hloaded,htimestamp⟩ := rawPacketReceived_construct rfl hfits s
    obtain ⟨q,hq,hstored⟩ := store_spec p hloaded
    exact ⟨m,o,m,q,ho,packed_build hq,hloaded.kept_iff hstored htimestamp⟩
  rw [hkept, Prod.forall]
  exact (forall_congr' fun _ => forall_const _).trans (timestampKept_iff _)

theorem packetReceived_faithful_iff (hm : Decoded m) (hown : m.Holds (.esb .pdu)) :
    packetReceived.Faithful m ↔ EsbWrapper.packetReceived.Keeps m := by
  let p : PduReceived := m.msg (.esb .pdu)
  have hfits : Fits p := fits_of_accepted (hm.accepted _ hown)
  have hkept : packetReceived.Faithful m ↔
      ∀ s : RawPacketReceived × EsbRecvdPacket × EsbRecvdPacket, TimestampKept p.timestamp s.1.timestamp.value := by
    refine WrapperClass.faithful_iff_forall (c := packetReceived) hown fun s => ?_
    obtain ⟨q,o,ho,hloaded,htimestamp⟩ := packetReceived_construct hm.esb rfl hfits s
    obtain ⟨q',hq',hrestored⟩ := store_spec q hloaded
    have hpacked : packed (whadEsbPduReceived (some (m.put (.esb .pdu) q)) (some o.params)) =
        some ((m.put (.esb .pdu) q).put (.esb .pdu) q') := by
      refine packed_build (r := .success) ?_
      rw [FullMessage.put_msg_self]
      exact hq'
    exact ⟨m.put (.esb .pdu) q,o,m.put (.esb .pdu) q,q',ho,hpacked,hloaded.kept_iff hrestored htimestamp⟩
  rw [hkept, Prod.forall]
  exact (forall_congr' fun _ => forall_const _).trans (timestampKept_iff _)

/-- The channel that lies in memory is packed before the message is parsed. -/
theorem sendPacket_not_faithful : ¬sendPacket.Faithful m := by
  let p : SendCmd := m.msg (.esb .send)
  let s : SendPacket × EsbSendParams := (⟨p.channel+1,0,.empty⟩,default)
  have hlength : (UInt8.ofInt (Packet.getSize (.empty : Packet 255))).toNat = 0 := toNat_uint8_ofInt (by decide)
  obtain ⟨z,hz⟩ := p.pdu.exists_fill (Packet.getBytes (.empty : Packet 255)) le_rfl (by omega)
  let q : SendCmd := ⟨p.channel+1,0,z⟩
  have hsize : q.pdu.size = 0 := (BytesArray.fill_eq_some_iff.mp hz).2
  have hpacked : SendPacket.pack whadEsbSend m { s.1 with packet := .empty } = some (m.put (.esb .send) q) := by
    refine packed_build (r := .success) ?_
    simp only [storeSend, hlength]
    change (p.pdu.fill (Packet.getBytes (.empty : Packet 255)) 0).bind _ = _
    rw [hz]
    rfl
  obtain ⟨bytes,hbytes,htake⟩ := loadSend_spec s.2 (p := q) (by omega)
  have hparsed : parsedBy (whadEsbSendParse (some (m.put (.esb .send) q)) (some s.2)) =
      some ⟨q.channel,q.retransmissionCount,⟨bytes,UInt8.ofNat q.pdu.size⟩⟩ := by
    refine parsedBy_parse ?_
    rw [FullMessage.put_msg_self]
    exact hbytes
  obtain ⟨packet,hpacket,-⟩ := ofParams_spec q.channel q.retransmissionCount (show q.pdu.size ≤ 255 by omega) htake
  have hc : sendPacket.construct m s = some (m.put (.esb .send) q,⟨q.channel,q.retransmissionCount,packet⟩) := by
    simp only [sendPacket, hpacked, Option.bind_eq_bind, Option.bind_some, hparsed, hpacket]
  refine WrapperClass.not_faithful_of_shows hc ?_
  rintro ⟨hchannel,-⟩
  exact absurd (show p.channel+1 = p.channel from hchannel) (by simp)

end
end Wrapper

section
open Wrapper
variable {m : FullMessage}

/-- A class leaves the messages as they were that it keeps, and no others. -/
theorem esbWrapper_faithful_iff (w : EsbWrapper) (hm : Decoded m) (hown : m.Holds w.wrapperClass.kind) :
    w.wrapperClass.Faithful m ↔ w.Keeps m := by
  cases w
  case rawPacketReceived => exact rawPacketReceived_faithful_iff hm hown
  case packetReceived => exact packetReceived_faithful_iff hm hown
  case jammed =>
    refine (WrapperClass.unpacking_faithful_iff hown (fun _ => rfl) (fun _ => rfl)).trans ?_
    exact jammed_kept_iff _
  -- a class that breaks every message
  case sendPacket => exact iff_of_false sendPacket_not_faithful id
  -- classes that break none
  all_goals refine iff_of_true ?_ trivial
  case sendPacketRaw =>
    have haccepted : (SendCmd.wire (m.msg (.esb .sendRaw))).Accepted := hm.accepted _ hown
    refine (sending_faithful_iff hown haccepted rfl (fun _ _ h => parsedBy_parse h) ?_).mpr rfl
    intro channel retrCount src length q hq
    exact ⟨q,packed_build hq,rfl⟩
  case setNodeAddress =>
    have haccepted : (SetNodeAddressCmd.wire (m.msg (.esb .setNodeAddr))).Accepted := hm.accepted _ hown
    refine nodeAddress_faithful esbAddress_sets hown haccepted rfl (fun s s' h => ?_) ?_
    · exact parsedBy_parse ((if_pos hown.tag).trans h)
    · intro addr q hq
      exact ⟨q,packed_build hq,rfl⟩
  case sniffMode =>
    have haccepted : (SniffCmd.wire (m.msg (.esb .sniff))).Accepted := hm.accepted _ hown
    refine sniffing_faithful esbAddress_sets hown haccepted rfl (fun s s' h => ?_) ?_
    · exact parsedBy_parse ((if_pos hown.tag).trans h)
    · intro addr channel showAck q haddr hq
      exact ⟨q,(congrArg packed (if_neg (by omega))).trans (packed_build hq),rfl⟩
  case start => exact WrapperClass.plain_faithful hown rfl
  case stop => exact WrapperClass.plain_faithful hown rfl
  case jamMode => exact WrapperClass.unpacking_faithful hown (fun _ => rfl) (fun _ => rfl) fun _ => ⟨rfl,rfl⟩
  case prxMode => exact WrapperClass.unpacking_faithful hown (fun _ => rfl) (fun _ => rfl) fun _ => ⟨rfl,rfl⟩
  case ptxMode => exact WrapperClass.unpacking_faithful hown (fun _ => rfl) (fun _ => rfl) fun _ => ⟨rfl,rfl⟩

end
end WhadLib.Esb
