import WhadLib.Nanopb

/-! What a host finds in the bytes of a repeated field of varints. -/
namespace WhadLib

/-- The numbers in a list of bytes; there are none when it ends inside of one. -/
def readVarints : List UInt8 → Option (List ℕ)
  | [] => some []
  | b :: bs =>
    match readVarints bs with
    | none => none
    | some vs =>
      if b.toNat < 128 then some (b.toNat :: vs)
      else
        match vs with
        | [] => none
        | v :: vs => some ((b.toNat - 128 + 128*v) :: vs)

/-- The values of fields that all have one key. -/
def valuesUnder (key : ℕ) : List ℕ → Option (List ℕ)
  | [] => some []
  | [_] => none
  | k :: v :: rest => if k = key then (valuesUnder key rest).map fun vs => v :: vs else none

/-- The values of a repeated field. -/
def readRepeated (field : PbField) (bytes : List UInt8) : Option (List ℕ) :=
  (readVarints bytes).bind (valuesUnder (8*field.tag + field.wireType.code))

theorem readVarints_cons_of_lt {v : ℕ} (h : v < 128) (rest : List UInt8) :
    readVarints (UInt8.ofNat v :: rest) = (readVarints rest).map fun vs => v :: vs := by
  have hbyte : (UInt8.ofNat v).toNat = v := UInt8.toNat_ofNat_of_lt' (show _ < 256 by omega)
  rw [readVarints, hbyte]
  cases readVarints rest with
  | none => rfl
  | some vs => exact if_pos h

/-- What was encoded comes back, and what follows it is left alone. -/
theorem readVarints_varintBytes (fuel v : ℕ) (h : v < 128^(fuel+1)) (rest : List UInt8) :
    readVarints (varintBytes fuel v ++ rest) = (readVarints rest).map fun vs => v :: vs := by
  induction fuel generalizing v with
  | zero =>
    rw [varintBytes, List.singleton_append]
    exact readVarints_cons_of_lt (by omega) rest
  | succ fuel ih =>
    rw [varintBytes]
    by_cases hsmall : v < 128
    · rw [if_pos hsmall, List.singleton_append]
      exact readVarints_cons_of_lt hsmall rest
    · have hhigh : v/128 < 128^(fuel+1) := by
        rw [Nat.div_lt_iff_lt_mul (by omega), ← pow_succ]
        exact h
      have hbyte : (UInt8.ofNat (v%128+128)).toNat = v%128+128 := UInt8.toNat_ofNat_of_lt' (show _ < 256 by omega)
      rw [if_neg hsmall, List.cons_append, readVarints, ih _ hhigh, hbyte]
      cases readVarints rest with
      | none => rfl
      | some vs =>
        have hhead : ¬v%128+128 < 128 := by omega
        have hvalue : v%128+128-128+128*(v/128) = v := by omega
        exact (if_neg hhead).trans (congrArg (fun value => some (value :: vs)) hvalue)

theorem readVarints_varint (v : ℕ) (rest : List UInt8) :
    readVarints (varint v ++ rest) = (readVarints rest).map fun vs => v :: vs := by
  refine readVarints_varintBytes v v ?_ rest
  exact (Nat.lt_pow_self (by norm_num)).trans_le (Nat.pow_le_pow_right (by norm_num) v.le_succ)

/-- Every value of a repeated field comes back, in order. -/
theorem readRepeated_flatMap (field : PbField) (vs : List ℕ) :
    readRepeated field (vs.flatMap fun v => fieldKey field ++ varint v) = some vs := by
  have hnumbers : readVarints (vs.flatMap fun v => fieldKey field ++ varint v) =
      some (vs.flatMap fun v => [8*field.tag + field.wireType.code,v]) := by
    induction vs with
    | nil => rfl
    | cons v vs ih =>
      rw [List.flatMap_cons, fieldKey, List.append_assoc, readVarints_varint, readVarints_varint]
      rw [fieldKey] at ih
      rw [ih]
      rfl
  rw [readRepeated, hnumbers, Option.bind_some]
  clear hnumbers
  induction vs with
  | nil => rfl
  | cons v vs ih =>
    rw [List.flatMap_cons, List.cons_append, List.singleton_append, valuesUnder, if_pos rfl, ih]
    rfl

example : readRepeated ⟨10,.varint⟩ [0x50,0xAC,0x02,0x50,0x03] = some [300,3] := by decide

end WhadLib
