import WhadLib.FullMessage

/-! What the parsers are made of. A parser reads one member of a message and writes a structure of its
caller, field by field. -/
namespace WhadLib
open Library

/-- What a call of a parser leaves behind: its result and its output. There is nothing when it copies
outside of an array. -/
abbrev Parsed (S : Type) := Option (WhadResult × Option S)

/-- The check that all parsers start with. -/
def parse {S : Type} (message : Option FullMessage) (out : Option S)
    (body : FullMessage → S → Option (WhadResult × S)) : Parsed S :=
  match message, out with
  | some m, some s => (body m s).map fun written => (written.1, some written.2)
  | _, out => some (.error, out)

/-- A parser that only assigns. -/
def fetch {S : Type} (message : Option FullMessage) (out : Option S) (read : FullMessage → S → S) : Parsed S :=
  parse message out fun m s => done (read m s)

/-- A value that is copied behind its flag if that is set. -/
def loadOptional {α β : Type} (s : OptionalField β) (x : OptionalField α) (convert : α → β) : OptionalField β :=
  ⟨x.has,if x.has then convert x.value else s.value⟩

/-- The two notifications of 802.15.4 have the same fields as far as the packet. -/
structure Dot15d4.SameHead (raw : RawPduReceived) (p : PduReceived) : Prop where
  channel : raw.channel = p.channel
  rssi : raw.rssi = p.rssi
  timestamp : raw.timestamp = p.timestamp
  fcsValidity : raw.fcsValidity = p.fcsValidity
  pdu : raw.pdu = p.pdu

/-- A message as the decoder leaves it: the sizes of the member that it has filled are within their
capacity. Members whose fields lie at the same places read alike. -/
structure Decoded (m : FullMessage) : Prop where
  accepted : ∀ k, m.Holds k → (k.wire (m.msg k)).Accepted
  esb : m.msg (.esb .rawPdu) = m.msg (.esb .pdu)
  unifying : m.msg (.unifying .rawPdu) = m.msg (.unifying .pdu)
  dot15d4 : Dot15d4.SameHead (m.msg (.dot15d4 .rawPdu)) (m.msg (.dot15d4 .pdu))

end WhadLib
