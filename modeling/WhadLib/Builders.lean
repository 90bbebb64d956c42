import WhadLib.Ble.Builders
import WhadLib.Device.Builders
import WhadLib.Dot15d4.Builders
import WhadLib.Phy.Builders
import WhadLib.Unifying.Builders

/-! All builders together: a call with every argument but the message, and what it does to a message. -/
namespace WhadLib

/-- The calls of the builders of the five radio domains. -/
inductive DomainBuilder
  | ble (b : Ble.BleBuilder)
  | phy (b : Phy.PhyBuilder)
  | esb (b : Esb.EsbBuilder)
  | unifying (b : Unifying.UnifyingBuilder)
  | dot15d4 (b : Dot15d4.Dot15d4Builder)

def DomainBuilder.run : DomainBuilder → Option FullMessage → Outcome
  | .ble b => b.run
  | .phy b => b.run
  | .esb b => b.run
  | .unifying b => b.run
  | .dot15d4 b => b.run

/-- All calls, those of the discovery and generic messages included. -/
inductive Builder
  | domain (b : DomainBuilder)
  | device (b : DeviceBuilder)

def Builder.run : Builder → Option FullMessage → Outcome
  | .domain b => b.run
  | .device b => b.run

section
variable {k : Kind} {body : k.Struct → Option (WhadResult × k.Struct)}

theorem FullMessage.build_eq_some_iff {m : FullMessage} {result : WhadResult} {message : Option FullMessage} :
    m.build k body = some (result, message) ↔
      ∃ p, body (m.msg k) = some (result, p) ∧ message = some (m.put k p) := by
  simp only [FullMessage.build, Option.map_eq_some_iff, Prod.mk.injEq, Prod.exists]
  constructor
  · rintro ⟨r,p,hbody,rfl,rfl⟩
    exact ⟨p,hbody,rfl⟩
  · rintro ⟨p,hbody,rfl⟩
    exact ⟨result,p,hbody,rfl,rfl⟩

end

end WhadLib
