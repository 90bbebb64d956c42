import WhadLib.Ble.Agreement
import WhadLib.Device.Parsers
import WhadLib.Dot15d4.Agreement
import WhadLib.Esb.Agreement
import WhadLib.Phy.Agreement

/-! What a parser says of a message where it arrives is what it says of it where it was built. -/
namespace WhadLib
open Library

/-- The calls of the parsers of all domains. The type of a trigger has a parser of its own. -/
inductive Parser
  | device (c : DeviceParser)
  | ble (c : Ble.BleParser)
  | bleTriggerType (pTriggerType : Option Ble.BleTrigger)
  | phy (c : Phy.PhyParser)
  | esb (c : Esb.EsbParser)
  | unifying (c : Unifying.UnifyingParser)
  | dot15d4 (c : Dot15d4.Dot15d4Parser)

namespace Parser

/-- The messages that a parser is for. -/
def kind : Parser → Kind
  | device c => c.kind
  | ble c => c.kind
  | bleTriggerType _ => .ble .prepare
  | phy c => c.kind
  | esb c => c.kind
  | unifying c => c.kind
  | dot15d4 c => c.kind

/-- The message shows all that a parser reads of it: the value of a field that may be missing is read only where
it is there, and no member but that of the message. -/
def Shown : Parser → FullMessage → Prop
  | ble c, m => c.Shown m
  | bleTriggerType _, m => (Ble.PrepareSequenceCmd.trigger (m.msg (.ble .prepare))).has = true
  | phy c, m => c.Shown m
  | dot15d4 c, _ => c.Shown
  | _, _ => True

/-- A parser says the same of two messages. -/
def ReadsAlike : Parser → FullMessage → FullMessage → Prop
  | device c => c.ReadsAlike
  | ble c => c.ReadsAlike
  | bleTriggerType pTriggerType => WhadLib.ReadsAlike (Ble.whadBlePrepareSequenceGetTriggerType · pTriggerType)
  | phy c => c.ReadsAlike
  | esb c => c.ReadsAlike
  | unifying c => c.ReadsAlike
  | dot15d4 c => c.ReadsAlike

end Parser

/-- A trigger shows its type, if it is a known one. -/
theorem Ble.Trigger.firstTag_wire (x : Trigger) {tag : ℕ} (htag : 1 ≤ tag ∧ tag ≤ 3) :
    x.wire.firstTag = some tag ↔ x.whichTrigger = tag := by
  unfold wire
  split <;> simp_all [Wire.firstTag, receptionTag, connectionEventTag, manualTag]
  omega

/-- The parser of the type looks at nothing else. -/
theorem Ble.triggerType_readsAlike {m m' : FullMessage} {out : Option BleTrigger}
    (h : (PrepareSequenceCmd.trigger (m.msg (.ble .prepare))).value.wire =
      (PrepareSequenceCmd.trigger (m'.msg (.ble .prepare))).value.wire) :
    WhadLib.ReadsAlike (whadBlePrepareSequenceGetTriggerType · out) m m' := by
  have hwhich (tag : ℕ) (htag : 1 ≤ tag ∧ tag ≤ 3) := (Trigger.firstTag_wire _ htag).symm.trans
    ((iff_of_eq (congrArg (fun w : Wire => w.firstTag = some tag) h)).trans (Trigger.firstTag_wire _ htag))
  exact readsAlike_of_body fun s => by
    simp only [hwhich Trigger.manualTag (by decide), hwhich Trigger.connectionEventTag (by decide),
      hwhich Trigger.receptionTag (by decide)]

section
variable {m m' : FullMessage}

/-- A parser cannot tell two messages apart that look alike to a reader of the wire. -/
theorem Parser.readsAlike_of_wire (c : Parser) (hm : m.Holds c.kind) (hm' : m'.Holds c.kind)
    (hwire : c.kind.wire (m.msg c.kind) = c.kind.wire (m'.msg c.kind)) (hacc : (c.kind.wire (m.msg c.kind)).Accepted)
    (hshown : c.Shown m) : c.ReadsAlike m m' := by
  cases c with
  | device c => exact deviceParser_readsAlike c hm hm' hwire
  | ble c => exact Ble.bleParser_readsAlike c hshown hwire hacc
  | bleTriggerType pTriggerType => exact Ble.triggerType_readsAlike ((Wire.optional_inj hwire).2.1 hshown)
  | phy c => exact Phy.phyParser_readsAlike c hshown hwire hacc
  | esb c => exact Esb.esbParser_readsAlike c hm hm' hwire hacc
  | unifying c => exact Unifying.unifyingParser_readsAlike c hwire hacc
  | dot15d4 c => exact Dot15d4.dot15d4Parser_readsAlike c hshown hwire hacc

/-- What is intact looks the same where it arrives. -/
theorem Arrived.wire_eq {k : Kind} (h : Arrived m m') (hm : m.Holds k) (hintact : (k.wire (m.msg k)).Intact) :
    k.wire (m.msg k) = k.wire (m'.msg k) :=
  ((h.wire hm).trans hintact.received).symm

/-- Of a message that holds what a parser is for, with sizes within their capacities and enumerations of 32 bits, the
parser says where it arrives what it says where it was built. -/
theorem readsAlike_of_arrived (c : Parser) (h : Arrived m m') (hm : m.Holds c.kind)
    (hintact : (c.kind.wire (m.msg c.kind)).Intact) (hshown : c.Shown m) : c.ReadsAlike m m' := by
  apply c.readsAlike_of_wire hm (h.holds hm) _ hintact.accepted hshown
  exact h.wire_eq hm hintact

/-- Behind the end of the advertising data there is something else on either side. -/
theorem readsAlike_of_arrived_advMode :
    let m := (default : FullMessage).put (.ble .advMode) ⟨⟨3,Vector.replicate 31 0xFF⟩,⟨0,Vector.replicate 31 7⟩⟩
    let m' := (default : FullMessage).put (.ble .advMode)
      ⟨⟨3,Vector.ofFn fun i => if i.val < 3 then 0xFF else 0⟩,⟨0,Vector.replicate 31 0⟩⟩
    (Parser.ble (.advMode (some default))).ReadsAlike m m' := by
  intro m m'
  refine readsAlike_of_arrived (.ble (.advMode (some default))) ?_ ⟨rfl,rfl⟩ ?_ trivial
  · rfl
  · exact Wire.intact_field.mpr ⟨intact_bytes.mpr (show 3 ≤ 31 by decide),
      Wire.intact_field.mpr ⟨intact_bytes.mpr (Nat.zero_le 31),Wire.intact_nil⟩⟩

end
end WhadLib
