import WhadLib.Ble.Faithful
import WhadLib.Board.Wrappers
import WhadLib.Dot15d4.Faithful
import WhadLib.Phy.Faithful
import WhadLib.Unifying.Faithful

/-! The wrapper classes of all domains, and what it takes for wrapping to leave a received message as it
was. -/
namespace WhadLib
open Library Cpp

/-- The wrapper classes of every domain but board, whose classes are all alike. -/
inductive DomainWrapper
  | ble (w : Ble.BleWrapper)
  | phy (w : Phy.PhyWrapper)
  | esb (w : Esb.EsbWrapper)
  | unifying (w : Unifying.UnifyingWrapper)
  | dot15d4 (w : Dot15d4.Dot15d4Wrapper)
  deriving DecidableEq, Repr

namespace DomainWrapper

def wrapperClass : DomainWrapper → WrapperClass
  | .ble w => w.wrapperClass
  | .phy w => w.wrapperClass
  | .esb w => w.wrapperClass
  | .unifying w => w.wrapperClass
  | .dot15d4 w => w.wrapperClass

/-- The messages that a class leaves as they were. -/
def Keeps : DomainWrapper → FullMessage → Prop
  | .ble w => w.Keeps
  | .phy w => w.Keeps
  | .esb w => w.Keeps
  | .unifying w => w.Keeps
  | .dot15d4 w => w.Keeps

/-- A class leaves the messages of its kind as they were that it keeps, and no others; the classes of the
board domain leave all of theirs as they were. -/
theorem wrapping_faithful_iff (w : DomainWrapper) (m : FullMessage) (hm : Decoded m)
    (hown : m.Holds w.wrapperClass.kind) (V : Board.Views) (k : Board.BoardKind) (mb : Message)
    (hboard : Board.HoldsTag mb k.tag) :
    (w.wrapperClass.Faithful m ↔ w.Keeps m) ∧ Board.Faithful V k mb := by
  constructor
  · cases w with
    | ble w => exact Ble.bleWrapper_faithful_iff w hm hown
    | phy w => exact Phy.phyWrapper_faithful_iff w hm hown
    | esb w => exact Esb.esbWrapper_faithful_iff w hm hown
    | unifying w => exact Unifying.unifyingWrapper_faithful_iff w hm hown
    | dot15d4 w => exact Dot15d4.dot15d4Wrapper_faithful_iff w hm hown
  · exact Board.faithful hboard

/-- A command to jam a connection, decoded into a cleared message. -/
def jamConnMessage : FullMessage :=
  FullMessage.put default (.ble .jamConn) (⟨0x8e89bed6⟩ : Ble.AccessAddressMsg)

theorem decoded_jamConnMessage : Decoded jamConnMessage where
  accepted := by
    intro k hk
    obtain rfl : Kind.ble .jamConn = k := by
      have hjam := (FullMessage.put_holds default (.ble .jamConn) (⟨0x8e89bed6⟩ : Ble.AccessAddressMsg)).kind
      exact Option.some.inj (hjam.symm.trans hk.kind)
    exact ⟨trivial,trivial⟩
  esb := rfl
  unifying := rfl
  dot15d4 := ⟨rfl,rfl,rfl,rfl,rfl⟩

/-- A message of the board domain that asks for a board's description. -/
def boardInfoMessage : Message :=
  Board.boardMessage .plain default 7 (Board.BoardKind.tag .getBoardInfo) (default : Board.BoardKind.getBoardInfo.Struct)

theorem wrapping_faithful_iff_jamConn :
    ((DomainWrapper.ble .jamActiveConn).wrapperClass.Faithful jamConnMessage ↔
      (DomainWrapper.ble .jamActiveConn).Keeps jamConnMessage) ∧
      Board.Faithful .plain .getBoardInfo boardInfoMessage :=
  wrapping_faithful_iff (.ble .jamActiveConn) jamConnMessage decoded_jamConnMessage ⟨rfl,rfl⟩ .plain .getBoardInfo
    boardInfoMessage ⟨rfl,rfl⟩

/-- The access address is cleared. -/
theorem jamConn_altered : Decoded jamConnMessage ∧
    jamConnMessage.Holds (DomainWrapper.ble .jamActiveConn).wrapperClass.kind ∧
      ¬(DomainWrapper.ble .jamActiveConn).wrapperClass.Faithful jamConnMessage := by
  refine ⟨decoded_jamConnMessage,⟨rfl,rfl⟩,fun h => ?_⟩
  obtain ⟨-,hshows⟩ := h () jamConnMessage (0 : UInt32) rfl
  exact absurd (show (0 : UInt32) = 0x8e89bed6 from hshows) (by decide)

end DomainWrapper
end WhadLib
