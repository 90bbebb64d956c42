import WhadLib.Board.Message

/-! The wrapper classes of the board domain, one for each kind of message. They are all alike: an object
keeps what the parser reads and hands it to the builder, and both throw on an error. -/
namespace WhadLib.Board
open Library

/-- The members of an object. -/
structure BoardObject (k : BoardKind) where
  requestId : UInt32
  value : (messageRow k).type.Struct

/-- The constructor from a message. -/
def BoardObject.construct (V : Views) (k : BoardKind) (m : Message) (memory : BoardObject k) : Option (BoardObject k) :=
  match whadBoardParse V k (some m) (some memory.requestId) (some memory.value) with
  | (.success,some requestId,some value) => some ⟨requestId,value⟩
  | _ => none

def BoardObject.pack (V : Views) {k : BoardKind} (m : Message) (o : BoardObject k) : Option Message :=
  match whadBoardBuild V k (some m) o.requestId (some o.value) with
  | (.success,m) => m
  | _ => none

/-- Two messages with the same tags and the same fields of a kind. -/
structure SameWire (k : BoardKind) (m m' : Message) : Prop where
  domain : m.whichMsg = m'.whichMsg
  requestId : m.board.requestId = m'.board.requestId
  tag : m.board.whichMsg = m'.board.whichMsg
  value : m.board.msg k = m'.board.msg k

/-- Wrapping leaves a message as it was. -/
def Faithful (V : Views) (k : BoardKind) (m : Message) : Prop :=
  ∀ memory o, BoardObject.construct V k m memory = some o →
    (∃ m', o.pack V m = some m' ∧ SameWire k m' m) ∧
      o.requestId = m.board.requestId ∧ o.value = m.board.msg (messageRow k).type

section
variable {V : Views} {k : BoardKind} {m : Message}

/-- What a parser gives back is what the message holds, and the validator accepts it. -/
theorem whadBoardUnpack_eq_success {row : MessageRow} {v : Validator} {tag : ℕ} {c : BoardKind} (hrow : row = ⟨tag,c,c⟩)
    {rid rid' : UInt32} {prior value : row.type.Struct}
    (h : whadBoardUnpack V (some m) row (some rid) (some prior) v = (.success,some rid',some value)) :
    v.Accepts V value ∧ rid' = m.board.requestId ∧ value = m.board.msg row.type := by
  subst hrow
  by_cases hm : HoldsTag m tag
  · by_cases haccepts : v.Accepts V (m.board.msg c)
    · rw [whadBoardUnpack_of_accepts (some rid) hm haccepts] at h
      obtain ⟨-,hrid,hvalue⟩ : True ∧ m.board.requestId = rid' ∧ V.read c c (m.board.msg c) = value := by simpa using h
      rw [V.same] at hvalue
      subst hvalue
      exact ⟨haccepts,hrid.symm,rfl⟩
    · rw [whadBoardUnpack_of_not_accepts (some rid) haccepts] at h
      simp at h
  · rw [whadBoardUnpack_of_not_holds (some rid) hm] at h
    simp at h

/-- Every class of the domain leaves every message of its kind as it was. -/
theorem faithful (hown : HoldsTag m k.tag) : Faithful V k m := by
  intro memory o ho
  obtain ⟨rid,value,hparsed,rfl⟩ : ∃ rid value,
      whadBoardParse V k (some m) (some memory.requestId) (some memory.value) = (.success,some rid,some value) ∧
        o = ⟨rid,value⟩ := by
    rw [BoardObject.construct] at ho
    split at ho
    · rename_i rid value hparsed
      exact ⟨rid,value,hparsed,(Option.some.inj ho).symm⟩
    · contradiction
  obtain ⟨haccepts,rfl,rfl⟩ := whadBoardUnpack_eq_success (messageRow_eq k) hparsed
  have hpacked : BoardObject.pack V m (⟨m.board.requestId,m.board.msg (messageRow k).type⟩ : BoardObject k) =
      some (boardMessage V m m.board.requestId (messageRow k).tag (m.board.msg (messageRow k).type)) := by
    rw [BoardObject.pack, whadBoardBuild, whadBoardPack_of_accepts _ haccepts]
  refine ⟨⟨_,hpacked,hown.domain.symm,rfl,(messageRow_tag k).trans hown.tag.symm,?_⟩,rfl,rfl⟩
  change V.read (messageRow k).type k (m.board.msg (messageRow k).type) = m.board.msg k
  rw [messageRow_eq, V.same]

end
end WhadLib.Board
