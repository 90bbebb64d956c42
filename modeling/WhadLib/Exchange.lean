import WhadLib.Builders.Kinds
import WhadLib.Parsers.Transmission
import WhadLib.RoundTrip

/-! A command on its way: built on one side, and parsed there and where it arrives. -/
namespace WhadLib
open Library

/-- A parser succeeds on a message and leaves something good in its output, whatever that held. -/
def Returns {S : Type} [Output S] (parser : Option FullMessage → Option S → Parsed S) (good : S → Prop)
    (m : FullMessage) : Prop :=
  ∀ s, ∃ r, (parser (some m) (some s)).seen = some (.success, some r) ∧ good r

/-- A builder succeeds; the message that it leaves and every message that arrives from it return what they should. -/
def Exchanged (b : Builder) (returned : FullMessage → Prop) (m : FullMessage) : Prop :=
  ∃ built, b.run (some m) = some (.success, some built) ∧ returned built ∧ ∀ arrived, Arrived built arrived → returned arrived

section
variable {S : Type} [Output S] {parser : Option FullMessage → Option S → Parsed S} {good : S → Prop} {m m' : FullMessage}

theorem Returns.of_readsAlike (h : Returns parser good m) (halike : ∀ s, ReadsAlike (parser · (some s)) m m') :
    Returns parser good m' := by
  intro s
  obtain ⟨r,hr,hgood⟩ := h s
  exact ⟨r,(halike s).symm.trans hr,hgood⟩

/-- A parser that succeeds leaves what it reads, whatever its output held. -/
theorem returns_iff {read : S → S} (hread : ∀ s, parser (some m) (some s) = some (.success, some (read s))) :
    Returns parser good m ↔ ∀ s, good (Output.seen (read s)) := by
  have hseen (s : S) : (parser (some m) (some s)).seen = some (.success, some (Output.seen (read s))) := by
    rw [hread]
    rfl
  constructor
  · intro h s
    obtain ⟨r,hr,hgood⟩ := h s
    obtain ⟨-,rfl⟩ := result_unique (hseen s) hr
    exact hgood
  · intro h s
    exact ⟨_,hseen s,h s⟩

/-- What a parser reads of the member where it was built, it reads where it arrives. -/
theorem exchanged_iff (parser : Option FullMessage → Option S → Parsed S) {b : Builder} {k : Kind} {p : k.Struct}
    (c : S → Parser)
    (hc : ∀ s m', (c s).kind = k ∧ (c s).Shown (m.put k p) ∧
      ((c s).ReadsAlike (m.put k p) m' → ReadsAlike (parser · (some s)) (m.put k p) m'))
    (hrun : b.run (some m) = some (.success, some (m.put k p))) (hintact : (k.wire p).Intact) {read : S → S}
    (hread : ∀ s, parser (some (m.put k p)) (some s) = some (.success, some (read s))) :
    Exchanged b (Returns parser good) m ↔ ∀ s, good (Output.seen (read s)) := by
  rw [← returns_iff hread]
  constructor
  · rintro ⟨built,hbuilt,h,-⟩
    obtain ⟨-,rfl⟩ := result_unique hrun hbuilt
    exact h
  · intro h
    refine ⟨_,hrun,h,fun arrived harrived => h.of_readsAlike fun s => ?_⟩
    obtain ⟨hkind,hshown,halike⟩ := hc s arrived
    apply halike
    have hm : (m.put k p).Holds (c s).kind := hkind ▸ m.put_holds k p
    have hkept : ((c s).kind.wire ((m.put k p).msg (c s).kind)).Intact := by
      rw [hkind, FullMessage.put_msg_self]
      exact hintact
    exact (c s).readsAlike_of_wire hm (harrived.holds hm) (harrived.wire_eq hm hkept) hkept.accepted hshown

/-- A builder with a body that takes what fits, and the parser that loads what it stores. -/
theorem exchanged_iff_of_stored (parser : Option FullMessage → Option S → Parsed S) {b : Builder} {k : Kind}
    (c : S → Parser) (store : k.Struct → Option (WhadResult × k.Struct)) (load : k.Struct → S → Option (WhadResult × S))
    {fits : Prop}
    (hc : ∀ s m m', (c s).kind = k ∧ (c s).Shown m ∧ ((c s).ReadsAlike m m' → ReadsAlike (parser · (some s)) m m'))
    (hsuccess : ∀ built, b.run (some m) = some (.success, some built) → fits)
    (hrun : fits → b.run (some m) = m.build k store)
    (hparser : ∀ p s r, load p s = done r → parser (some (m.put k p)) (some s) = some (.success, some r))
    (hstored : fits → ∀ old, ∃ p, store old = done p ∧ (k.wire p).Intact ∧
      ∀ s, ∃ r, load p s = done r ∧ good (Output.seen r)) : Exchanged b (Returns parser good) m ↔ fits := by
  constructor
  · rintro ⟨built,hbuilt,-⟩
    exact hsuccess built hbuilt
  · intro hfits
    obtain ⟨p,hstore,hintact,hload⟩ := hstored hfits (m.msg k)
    choose read hread hgood using hload
    exact (exchanged_iff parser c (fun s m' => hc s _ m') ((hrun hfits).trans (build_success hstore)) hintact
      fun s => hparser p s _ (hread s)).mpr hgood

end

section
variable {n : ℕ} {x y : BytesArray n} {src : Buffer} {length : ℤ}

theorem bounds_of_fill (h : x.fill src length = some y) : 0 ≤ length ∧ length ≤ n :=
  (memcpy_eq_some_iff.mp (BytesArray.fill_eq_some_iff.mp h).1).1

theorem exists_fill_of_bounds (x : BytesArray n) (src : Buffer) (h : 0 ≤ length ∧ length ≤ n) (hn : n < 65536) :
    ∃ y, x.fill src length = some y ∧ SameBytes src length.toNat (bufferOf y.bytes) y.size ∧ y.size ≤ n := by
  obtain ⟨y,hy⟩ := exists_fill_sameBytes x src (show length.toNat ≤ n by omega) hn
  rw [Int.toNat_of_nonneg h.1] at hy
  exact ⟨y,hy⟩

end
end WhadLib
