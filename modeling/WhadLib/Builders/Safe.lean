import WhadLib.Builders.Plain

/-! How far a builder reads and writes. A call that succeeds must have stored the length it was given, or
the one its documentation cuts it to, within the capacity of the field, and copied that much. A call
that copies outside of an array does not return here. -/
namespace WhadLib
open Library

/-- A counted array after a copy: the size is the length, the bytes that it covers are those of the source,
and the others are as before. -/
structure Copied {n : ℕ} (x y : BytesArray n) (src : Option Buffer) (length : ℤ) : Prop where
  bounds : 0 ≤ length ∧ length ≤ n
  size : (y.size : ℤ) = length
  bytes : ∀ i : Fin n, some y.bytes[i] = if (i : ℤ) < length then src.map (· i) else some x.bytes[i]

/-- A call returns, and it fails or stores. -/
def Safe (run : Option FullMessage → Outcome) (Stored : FullMessage → FullMessage → Prop) : Prop :=
  ∀ message, ∃ result after, run message = some (result, after) ∧
    (result = .error ∨ result = .success ∧ ∃ m m', message = some m ∧ after = some m' ∧ Stored m m')

/-- What is stored in one member. -/
def At (k : Kind) (R : k.Struct → k.Struct → Prop) (m m' : FullMessage) : Prop := R (m.msg k) (m'.msg k)

/-- The same for the body of a builder. -/
def BodySafe {α : Type} (body : α → Option (WhadResult × α)) (R : α → α → Prop) : Prop :=
  ∀ p, ∃ result p', body p = some (result, p') ∧ (result = .error ∨ result = .success ∧ R p p')

section
variable {run : Option FullMessage → Outcome} {k : Kind} {Stored : FullMessage → FullMessage → Prop}
  {R : k.Struct → k.Struct → Prop} {n : ℕ} {src : Buffer} {length : ℤ}

/-- `memcpy` behind the size is such a copy, and there is no other. -/
theorem fill_iff_copied {x y : BytesArray n} (hn : n < 65536) :
    x.fill src length = some y ↔ Copied x y (some src) length := by
  rw [BytesArray.fill_eq_some_iff, memcpy_eq_some_iff]
  constructor
  · rintro ⟨⟨hlen,hbytes⟩,hsize⟩
    refine ⟨hlen,?_,fun i => ?_⟩
    · rw [hsize, sizeOf16_of_lt hlen.1 (by omega)]
      omega
    · rw [hbytes i]
      split <;> rfl
  · rintro ⟨hlen,hsize,hbytes⟩
    refine ⟨⟨hlen,fun i => ?_⟩,?_⟩
    · have hi := hbytes i
      by_cases hlt : (i : ℤ) < length
      · rw [if_pos hlt] at hi ⊢
        exact Option.some.inj hi
      · rw [if_neg hlt] at hi ⊢
        exact Option.some.inj hi
    · rw [sizeOf16_of_lt hlen.1 (by omega)]
      omega

theorem exists_copied_iff (hn : n < 65536) (x : BytesArray n) (src : Buffer) :
    (∃ y, x.fill src length = some y) ↔ 0 ≤ length ∧ length ≤ n := by
  constructor
  · rintro ⟨y,hy⟩
    exact ((fill_iff_copied hn).mp hy).bounds
  · rintro ⟨hzero,hle⟩
    exact x.exists_fill src hzero hle

theorem Plain.safe (h : Plain run) : Safe run fun _ _ => True := by
  intro message
  rcases h.cases message with heq | ⟨m,k,p,hm,heq⟩
  · exact ⟨_,_,heq,.inl rfl⟩
  · exact ⟨_,_,heq,.inr ⟨rfl,_,_,hm,rfl,trivial⟩⟩

theorem safe_of_refuse (hnone : run none = refuse none) (h : ∀ m, run (some m) = refuse (some m)) : Safe run Stored := by
  intro message
  cases message with
  | none => exact ⟨_,_,hnone,.inl rfl⟩
  | some m => exact ⟨_,_,h m,.inl rfl⟩

theorem safe_build_iff {body : k.Struct → Option (WhadResult × k.Struct)} (hnone : run none = refuse none)
    (h : ∀ m, run (some m) = m.build k body) : Safe run (At k R) ↔ BodySafe body R := by
  constructor
  · intro hsafe p
    obtain ⟨result,after,hrun,hresult⟩ := hsafe (some ((default : FullMessage).put k p))
    rw [h, FullMessage.build_eq_some_iff, FullMessage.put_msg_self] at hrun
    obtain ⟨p',hp,hafter⟩ := hrun
    refine ⟨result,p',hp,hresult.imp_right ?_⟩
    rintro ⟨hsuccess,m,m',hm,hm',hR⟩
    obtain rfl := Option.some.inj hm
    obtain rfl := Option.some.inj (hafter.symm.trans hm')
    rw [At, FullMessage.put_msg_self, FullMessage.put_msg_self] at hR
    exact ⟨hsuccess,hR⟩
  · intro hbody message
    cases message with
    | none => exact ⟨_,_,hnone,.inl rfl⟩
    | some m =>
      obtain ⟨result,p',hp,hresult⟩ := hbody (m.msg k)
      refine ⟨result,_,(h m).trans (FullMessage.build_eq_some_iff.mpr ⟨p',hp,rfl⟩),hresult.imp_right ?_⟩
      rintro ⟨hsuccess,hR⟩
      refine ⟨hsuccess,m,_,rfl,rfl,?_⟩
      rw [At, FullMessage.put_msg_self]
      exact hR

theorem safe_of_build {body : k.Struct → Option (WhadResult × k.Struct)} (hnone : run none = refuse none)
    (h : ∀ m, run (some m) = m.build k body) (hbody : BodySafe body R) : Safe run (At k R) :=
  (safe_build_iff hnone h).mpr hbody

/-- A body that stores the length and copies, whatever else it assigns. -/
theorem bodySafe_fill_iff {α : Type} [Inhabited α] {array : α → BytesArray n} {store : α → BytesArray n → α}
    (hn : n < 65536) (hstore : ∀ p x, array (store p x) = x) :
    BodySafe (fun p => do
      let x ← (array p).fill src length
      done (store p x)) (fun p q => Copied (array p) (array q) (some src) length) ↔ 0 ≤ length ∧ length ≤ n := by
  constructor
  · intro hbody
    obtain ⟨result,p',hp,-⟩ := hbody default
    obtain ⟨x,hx,-⟩ := Option.bind_eq_some_iff.mp hp
    exact (exists_copied_iff hn _ src).mp ⟨x,hx⟩
  · intro hlen p
    obtain ⟨x,hx⟩ := (exists_copied_iff hn (array p) src).mpr hlen
    refine ⟨.success,store p x,by simp only [hx]; rfl,.inr ⟨rfl,?_⟩⟩
    simp only [hstore]
    exact (fill_iff_copied hn).mp hx

end

end WhadLib
