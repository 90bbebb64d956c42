import WhadLib.Builders
import WhadLib.Cpp.Wrapper

/-! What it means that a parser reads back what a builder was given. The message may hold anything before
the call, and so may the output of the parser. -/
namespace WhadLib
open Library

/-- A call succeeds, and the parser reads something good out of the message that it leaves. -/
def ReadsBack {S : Type} (outcome : Outcome) (parser : Option FullMessage → Option S → Parsed S) (s : S)
    (good : S → Prop) : Prop :=
  ∃ m r, outcome = some (.success, some m) ∧ parser (some m) (some s) = some (.success, some r) ∧ good r

/-- The first bytes behind a pointer are those of an array, and there are as many. -/
structure SameBytes (src : Buffer) (length : ℕ) (read : Buffer) (readLength : ℤ) : Prop where
  count : readLength = length
  bytes : read.take length = src.take length

section
variable {S : Type} {outcome : Outcome} {parser : Option FullMessage → Option S → Parsed S} {s : S}
  {good : S → Prop} {m : FullMessage} {k : Kind} {body : k.Struct → Option (WhadResult × k.Struct)}

theorem build_success {q : k.Struct} (h : body (m.msg k) = some (.success, q)) :
    m.build k body = some (.success, some (m.put k q)) :=
  FullMessage.build_eq_some_iff.mpr ⟨q,h,rfl⟩

theorem parse_success {r : S} {load : FullMessage → S → Option (WhadResult × S)} (h : load m s = done r) :
    parse (some m) (some s) load = some (.success, some r) := by
  simp only [parse, h, done, Option.map_some]

theorem fetch_success (m : FullMessage) (s : S) (read : FullMessage → S → S) :
    fetch (some m) (some s) read = some (.success, some (read m s)) := parse_success rfl

/-- A call leaves one result and one message or output. -/
theorem result_unique {α : Type} {x : Option (WhadResult × Option α)} {r r' : WhadResult} {a a' : α}
    (h : x = some (r,some a)) (h' : x = some (r',some a')) : r = r' ∧ a = a' := by
  obtain ⟨hresult,ha⟩ := Prod.mk.inj (Option.some.inj (h.symm.trans h'))
  exact ⟨hresult,Option.some.inj ha⟩

/-- A message and an output that are given in closed form leave only the question whether the output is good. -/
theorem readsBack_iff {r : S} (h : outcome = some (.success, some m))
    (hp : parser (some m) (some s) = some (.success, some r)) : ReadsBack outcome parser s good ↔ good r := by
  constructor
  · rintro ⟨m',r',hm',hr',hgood⟩
    obtain ⟨-,rfl⟩ := result_unique h hm'
    obtain ⟨-,rfl⟩ := result_unique hp hr'
    exact hgood
  · intro hgood
    exact ⟨m,r,h,hp,hgood⟩

/-- What does not depend on the output holds of every one if of one. -/
theorem forall_iff_of_default [Inhabited S] {p : S → Prop} {q : Prop} (h : ∀ s, p s ↔ q) : (∀ s, p s) ↔ q :=
  ⟨fun hall => (h default).mp (hall default),fun hq s => (h s).mpr hq⟩

end

section
variable {n k length : ℕ} {x y : BytesArray n} {src : Buffer}

/-- A copy into a counted array leaves as many bytes there as were given. -/
theorem fill_sameBytes (hy : x.fill src length = some y) (hn : n < 65536) :
    SameBytes src length (bufferOf y.bytes) y.size ∧ y.size ≤ n := by
  obtain ⟨hcopy,hsize⟩ := BytesArray.fill_eq_some_iff.mp hy
  obtain ⟨⟨-,hle⟩,-⟩ := memcpy_eq_some_iff.mp hcopy
  rw [sizeOf16_of_lt (by omega) (by omega), Int.toNat_natCast] at hsize
  refine ⟨⟨congrArg Nat.cast hsize,?_⟩,by omega⟩
  have htake := memcpy_take hcopy
  rw [Int.toNat_natCast] at htake
  rw [Cpp.take_bufferOf _ (by omega), htake]

/-- The first bytes of an array are those of a source where each of them is. -/
theorem take_bufferOf_iff (v : Vector UInt8 n) (h : length ≤ n) :
    (bufferOf v).take length = src.take length ↔ ∀ i : Fin n, i < length → v.get i = src i := by
  have hget (i : Fin n) : bufferOf v i = v.get i := by simp [bufferOf, Vector.get]
  rw [Cpp.take_eq_iff]
  constructor
  · intro hall i hi
    rw [← hget]
    exact hall i hi
  · intro hall i hi
    exact (hget ⟨i,by omega⟩).trans (hall ⟨i,by omega⟩ hi)

theorem take_copyOf (src : Buffer) (h : length ≤ n) :
    (bufferOf (copyOf src : Vector UInt8 n)).take length = src.take length :=
  (take_bufferOf_iff _ h).mpr fun i _ => Vector.getElem_ofFn i.isLt

theorem exists_fill_sameBytes (x : BytesArray n) (src : Buffer) (h : length ≤ n) (hn : n < 65536) :
    ∃ y, x.fill src length = some y ∧ SameBytes src length (bufferOf y.bytes) y.size ∧ y.size ≤ n := by
  obtain ⟨y,hy⟩ := x.exists_fill src (show (0 : ℤ) ≤ length by omega) (by omega)
  exact ⟨y,hy,fill_sameBytes hy hn⟩

theorem sameBytes_refl (src : Buffer) (length : ℕ) : SameBytes src length src length := ⟨rfl,rfl⟩

theorem SameBytes.trans {read read' : Buffer} {readLength : ℤ} {length' : ℕ} (h : SameBytes src length read length')
    (h' : SameBytes read length' read' readLength) : SameBytes src length read' readLength := by
  obtain rfl : length' = length := Int.ofNat.inj h.count
  exact ⟨h'.count,h'.bytes.trans h.bytes⟩

/-- An array of as many bytes may be given by the number of either. -/
theorem sameBytes_swap {readLength : ℤ} {read : Buffer} (h : SameBytes src length read readLength) :
    SameBytes src length read length := ⟨rfl,h.bytes⟩

theorem SameBytes.size (h : SameBytes src length (bufferOf y.bytes) y.size) : y.size = length :=
  Int.ofNat.inj h.count

/-- A copy of the array into one that is at least as long reads as it. -/
theorem SameBytes.exists_memcpy (h : SameBytes src length (bufferOf y.bytes) y.size) (hle : y.size ≤ k)
    (dst : Vector UInt8 k) : ∃ bytes, memcpy dst (bufferOf y.bytes) y.size = some bytes ∧
      SameBytes src length (bufferOf bytes) y.size := by
  obtain ⟨bytes,hbytes,htake⟩ := Cpp.exists_memcpy dst (bufferOf y.bytes) hle
  refine ⟨bytes,hbytes,h.count,?_⟩
  rw [h.size] at htake
  exact htake.trans h.bytes

/-- What reads as an array reads as what was copied into it. -/
theorem SameBytes.of_readsAs {read : Buffer} {readLength : ℤ} (h : SameBytes src length (bufferOf y.bytes) y.size)
    (hreads : Cpp.ReadsAs y read readLength) : SameBytes src length read readLength := by
  obtain ⟨hcount,hcontent⟩ := hreads
  have hbounded := Cpp.ReadsAs.bounded ⟨hcount,hcontent⟩
  rw [Cpp.content_eq hbounded, Option.some.injEq, h.size] at hcontent
  exact ⟨hcount.trans h.count,hcontent.symm.trans h.bytes⟩

/-- A packet that was filled holds what it was filled from. -/
theorem setBytes_sameBytes {read : Buffer} {readLength : ℤ} {packet : Cpp.Packet k}
    (h : SameBytes src length read readLength) (hpacket : Cpp.Packet.setBytes read readLength = some packet) :
    SameBytes src length packet.getBytes packet.getSize := by
  obtain ⟨rfl,hbytes⟩ := h
  rw [Cpp.Packet.setBytes] at hpacket
  split at hpacket
  · obtain rfl := Option.some.inj hpacket
    have hlength : (read.take (length : ℤ).toNat).length = length := by simp [Buffer.take]
    have hself := Cpp.take_getD (read.take (length : ℤ).toNat)
    rw [hlength] at hself
    exact ⟨congrArg Nat.cast hlength,hself.trans hbytes⟩
  · contradiction

end
end WhadLib
