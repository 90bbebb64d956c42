import WhadLib.SizedFields
import WhadLib.Library.CMemory
import WhadLib.Library.PrefixCode

/-! The wire format of protobuf below the level of types: a message is a list of records, each of them
a tag with a payload, and the encoder writes them one behind the other. -/
namespace WhadLib
open Library

/-- A varint of at most `fuel` bytes. -/
def readVarintBytes : ℕ → Reader UInt8 ℕ
  | 0, _ => none
  | _+1, [] => none
  | fuel+1, b :: bs =>
    if b.toNat < 128 then some (b.toNat,bs)
    else (readVarintBytes fuel bs).map fun x => (b.toNat - 128 + 128*x.1,x.2)

/-- A varint has at most ten bytes and 64 bits. -/
def readVarint : Reader UInt8 ℕ := (readVarintBytes 10).check fun v => v < 2^64

/-- The value of a field as it is written. -/
inductive Payload
  | varint (v : ℕ)
  | fixed64 (bytes : Vector UInt8 8)
  | len (bytes : List UInt8)
  | fixed32 (bytes : Vector UInt8 4)
  deriving DecidableEq

namespace Payload

def wireType : Payload → WireType
  | .varint _ => .varint
  | .fixed64 _ => .fixed64
  | .len _ => .len
  | .fixed32 _ => .fixed32

def bytes : Payload → List UInt8
  | .varint v => WhadLib.varint v
  | .fixed64 bytes => bytes.toList
  | .len bytes => WhadLib.varint bytes.length ++ bytes
  | .fixed32 bytes => bytes.toList

/-- The numbers have 64 bits. -/
def Fits : Payload → Prop
  | .varint v => v < 2^64
  | .len bytes => bytes.length < 2^64
  | _ => True

end Payload

/-- A fixed number of bytes. -/
def readFixed (n : ℕ) : Reader UInt8 (Vector UInt8 n) := (Reader.block n).map fun bytes => copyOf fun i => bytes.getD i 0

/-- The payload behind a key, by its three lowest bits. -/
def readPayload : ℕ → Reader UInt8 Payload
  | 0 => readVarint.map .varint
  | 1 => (readFixed 8).map .fixed64
  | 2 => (Reader.delimited readVarint).map .len
  | 5 => (readFixed 4).map .fixed32
  | _ => fun _ => none

structure Record where
  tag : ℕ
  payload : Payload
  deriving DecidableEq

/-- A key and the payload behind it. -/
def Record.bytes (r : Record) : List UInt8 := fieldKey ⟨r.tag,r.payload.wireType⟩ ++ r.payload.bytes

/-- A tag is a number from 1 to 2^29-1, so that a key has 32 bits. -/
structure Record.Fits (r : Record) : Prop where
  tag_pos : 0 < r.tag
  tag_lt : r.tag < 2^29
  payload : r.payload.Fits

def readRecord : Reader UInt8 Record :=
  (readVarint.check fun key => 8 ≤ key ∧ key < 2^32).bind fun key =>
    (readPayload (key % 8)).map fun payload => ⟨key / 8,payload⟩

/-- The records of a message. -/
def readRecords (bytes : List UInt8) : Option (List Record) := readRecord.all bytes

/-- The bytes of a list of records. -/
def recordBytes (rs : List Record) : List UInt8 := rs.flatMap Record.bytes

@[simp] theorem recordBytes_nil : recordBytes [] = [] := rfl

@[simp] theorem recordBytes_cons (r : Record) (rs : List Record) : recordBytes (r :: rs) = r.bytes ++ recordBytes rs :=
  List.flatMap_cons

@[simp] theorem recordBytes_append (rs rs' : List Record) : recordBytes (rs ++ rs') = recordBytes rs ++ recordBytes rs' :=
  List.flatMap_append

/-- A varint is read back from as many bytes as it has. -/
theorem codes_varintBytes {fuel v n : ℕ} (hv : v ≤ fuel) (hlen : (varintBytes fuel v).length ≤ n) :
    Codes (readVarintBytes n) (varintBytes fuel v) v := by
  intro rest
  induction n generalizing fuel v with
  | zero =>
    have hnil : varintBytes fuel v = [] := List.length_eq_zero_iff.mp (Nat.le_zero.mp hlen)
    cases fuel with
    | zero => simp [varintBytes] at hnil
    | succ fuel => by_cases hsmall : v < 128 <;> simp [varintBytes, hsmall] at hnil
  | succ n ih =>
    have hlast (h : v < 128) : readVarintBytes (n+1) (UInt8.ofNat v :: rest) = some (v,rest) := by
      have hbyte : (UInt8.ofNat v).toNat = v := UInt8.toNat_ofNat_of_lt' (show _ < 256 by omega)
      rw [readVarintBytes, hbyte, if_pos h]
    cases fuel with
    | zero => exact hlast (by omega)
    | succ fuel =>
      by_cases hsmall : v < 128
      · rw [varintBytes, if_pos hsmall]
        exact hlast hsmall
      · have hbyte : (UInt8.ofNat (v%128+128)).toNat = v%128+128 := UInt8.toNat_ofNat_of_lt' (show _ < 256 by omega)
        rw [varintBytes, if_neg hsmall, List.length_cons] at hlen
        rw [varintBytes, if_neg hsmall, List.cons_append, readVarintBytes, hbyte, if_neg (by omega),
          ih (by omega) (by omega), Option.map_some]
        exact congrArg (fun value => some (value,rest)) (by omega)

theorem codes_varint {v : ℕ} (h : v < 2^64) : Codes readVarint (varint v) v :=
  (codes_varintBytes le_rfl (varintBytes_length_le (by omega))).check (decide_eq_true h)

theorem codes_fixed {n : ℕ} (v : Vector UInt8 n) : Codes (readFixed n) v.toList v := by
  have hlen : v.toList.length = n := Vector.length_toList
  have hblock : Codes (Reader.block n) v.toList v.toList := by
    have hcodes := Codes.block v.toList
    rwa [hlen] at hcodes
  have hself : (copyOf fun i => v.toList.getD i 0 : Vector UInt8 n) = v := by
    apply Vector.ext
    intro i hi
    simp [copyOf]
  have hmap := hblock.map fun bytes => (copyOf fun i => bytes.getD i 0 : Vector UInt8 n)
  rwa [hself] at hmap

/-- The bytes of a payload are read back under its wire type. -/
theorem codes_payload {p : Payload} (h : p.Fits) : Codes (readPayload p.wireType.code) p.bytes p := by
  cases p with
  | varint v => exact (codes_varint h).map Payload.varint
  | fixed64 bytes => exact (codes_fixed bytes).map Payload.fixed64
  | len bytes => exact (Codes.delimited (codes_varint h)).map Payload.len
  | fixed32 bytes => exact (codes_fixed bytes).map Payload.fixed32

theorem WireType.code_lt (wt : WireType) : wt.code < 8 := by cases wt <;> decide

theorem Record.bytes_ne_nil (r : Record) : r.bytes ≠ [] := by
  intro h
  exact varint_ne_nil _ (List.append_eq_nil_iff.mp h).1

/-- A record is read back from its bytes. -/
theorem codes_record {r : Record} (h : r.Fits) : Codes readRecord r.bytes r := by
  obtain ⟨tag,payload⟩ := r
  have hpos : 0 < tag := h.tag_pos
  have hlt : tag < 2^29 := h.tag_lt
  have hcode := payload.wireType.code_lt
  have hkey : Codes (readVarint.check fun key => 8 ≤ key ∧ key < 2^32)
      (varint (8*tag + payload.wireType.code)) (8*tag + payload.wireType.code) :=
    (codes_varint (by omega)).check (by rw [decide_eq_true_eq]; omega)
  refine hkey.bind ?_
  have htag : (8*tag + payload.wireType.code) / 8 = tag := by omega
  have hmod : (8*tag + payload.wireType.code) % 8 = payload.wireType.code := by omega
  rw [htag, hmod]
  exact (codes_payload h.payload).map (Record.mk tag)

/-- A message is read back as the records that were written. -/
theorem readRecords_bytes {rs : List Record} (h : ∀ r ∈ rs, r.Fits) : readRecords (recordBytes rs) = some rs :=
  Codes.all fun r hr => ⟨codes_record (h r hr),r.bytes_ne_nil⟩

example : readRecords [0x08,0x96,0x01,0x12,0x02,0x68,0x69] =
    some [⟨1,.varint 150⟩,⟨2,.len [0x68,0x69]⟩] := by decide

end WhadLib
