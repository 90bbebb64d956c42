import WhadLib.Arrival
import WhadLib.Ble.Wrappers
import WhadLib.Builders.Kinds
import WhadLib.Dot15d4.RoundTrip
import WhadLib.Sendable

/-! How a program finds out what a message is: the two questions about the message, and the one about its
member that every domain has. For the message of a builder they have one answer, on either side. -/
namespace WhadLib

/-- `whad_generic_get_message_type`; 0 is `WHAD_GENERIC_UNKNOWN`, as in the other domains. -/
def whadGenericGetMessageType (m : FullMessage) : ℕ :=
  if m.whichMsg ≠ Message.genericTag then 0 else m.whichDomainMsg

/-- `whad_discovery_get_message_type`. -/
def whadDiscoveryGetMessageType (m : FullMessage) : ℕ :=
  if m.whichMsg ≠ Message.discoveryTag then 0 else m.whichDomainMsg

/-- `whad_esb_get_message_type`. -/
def Esb.whadEsbGetMessageType (m : FullMessage) : ℕ :=
  if whadGetMessageDomain m.toMessage = .esb then m.whichDomainMsg else 0

/-- `whad_unifying_get_message_type`. -/
def Unifying.whadUnifyingGetMessageType (m : FullMessage) : ℕ :=
  if whadGetMessageDomain m.toMessage = .logitechUnifying then m.whichDomainMsg else 0

namespace Kind

/-- The question of the domain of a kind. -/
def getMessageType : Kind → FullMessage → ℕ
  | .generic _ => whadGenericGetMessageType
  | .discovery _ => whadDiscoveryGetMessageType
  | .ble _ => Ble.Wrapper.whadBleGetMessageType
  | .dot15d4 _ => Dot15d4.whadDot15d4GetMessageType
  | .esb _ => Esb.whadEsbGetMessageType
  | .unifying _ => Unifying.whadUnifyingGetMessageType
  | .phy _ => fun m => whadPhyGetMessageType m.toMessage

/-- What `whad_get_message_type` is to say of a kind. -/
def msgtype : Kind → WhadMsgtype
  | .generic _ => .generic
  | .discovery _ => .discovery
  | _ => .domain

/-- What `whad_get_message_domain` is to say of a kind. -/
def domain : Kind → WhadDomain
  | .ble _ => .btle
  | .dot15d4 _ => .dot15d4
  | .esb _ => .esb
  | .unifying _ => .logitechUnifying
  | .phy _ => .phy
  | _ => .none

variable {k : Kind} {m : FullMessage}

theorem tag_ne_zero (k : Kind) : k.tag ≠ 0 := by
  have hall : ∀ k ∈ all, k.tag ≠ 0 := by decide +kernel
  exact hall k k.mem_all

end Kind

namespace FullMessage
variable {m : FullMessage} {k : Kind}

theorem Holds.msgtype (h : m.Holds k) : whadGetMessageType m.toMessage = k.msgtype := by
  have hdomain : m.toMessage.whichMsg = k.domainTag := h.domain
  rw [whadGetMessageType, hdomain]
  cases k <;> rfl

end FullMessage

end WhadLib
