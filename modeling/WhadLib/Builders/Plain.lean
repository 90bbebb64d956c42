import WhadLib.Builders

/-! Most builders check their pointers, and then set both tags and assign. Such a call cannot fail once it
has begun, and cannot fault. -/
namespace WhadLib
open Library

/-- A builder that refuses the call or assigns. -/
inductive Plain (run : Option FullMessage → Outcome) : Prop
  | refuses (h : ∀ message, run message = refuse message)
  | assigns (k : Kind) (update : k.Struct → k.Struct) (hnone : run none = refuse none)
      (h : ∀ m, run (some m) = m.assign k update)

/-- Such a builder refuses the call or succeeds. -/
theorem Plain.cases {run : Option FullMessage → Outcome} (h : Plain run) (message : Option FullMessage) :
    run message = refuse message ∨
      ∃ m k p, message = some m ∧ run message = some (.success, some (m.put k p)) := by
  cases h with
  | refuses h => exact .inl (h message)
  | assigns k update hnone h =>
    cases message with
    | none => exact .inl hnone
    | some m => exact .inr ⟨m,k,update (m.msg k),rfl,h m⟩

/-- With a check that fails nothing is done. -/
theorem plain_of_refuse {run : Option FullMessage → Outcome} (hnone : run none = refuse none)
    (h : ∀ m, run (some m) = refuse (some m)) : Plain run :=
  .refuses fun message => match message with
    | none => hnone
    | some m => h m

/- A builder is compared with its member and its update, not with what setting both comes to. -/
attribute [local irreducible] FullMessage.build

/-- The builders whose body does not copy. -/
def Ble.BleBuilder.plain : Ble.BleBuilder → Bool
  | .rawPdu .. | .pdu .. | .advMode .. | .setAdvData .. | .sendRawPdu .. | .sendPdu .. | .peripheralMode ..
  | .reactiveJam .. | .prepareSequenceOnRecv .. | .prepareSequenceManual .. | .prepareSequenceConnEvt ..
  | .advPdu .. => false
  | _ => true

theorem Ble.bleBuilder_plain (b : BleBuilder) (h : b.plain = true) : Plain b.run := by
  cases b
  case rawPdu | pdu | advMode | setAdvData | sendRawPdu | sendPdu | peripheralMode | reactiveJam
    | prepareSequenceOnRecv | prepareSequenceManual | prepareSequenceConnEvt | advPdu => exact nomatch h
  case notifyConnected pAdvAddr initAddrType pInitAddr connHandle =>
    match pAdvAddr, pInitAddr with
    | none, _ => exact plain_of_refuse rfl fun _ => rfl
    | some _, none => exact plain_of_refuse rfl fun _ => rfl
    | some _, some _ => exact .assigns _ _ rfl fun _ => rfl
  case setBdaddress pBdaddr | sniffAdv pBdaddr | sniffConnReq pBdaddr | connectTo pBdaddr _ _ _ _ _ _ =>
    cases pBdaddr with
    | none => exact plain_of_refuse rfl fun _ => rfl
    | some => exact .assigns _ _ rfl fun _ => rfl
  case sniffAccessAddress pChannelmap | synchronized pChannelmap =>
    cases pChannelmap with
    | none => exact plain_of_refuse rfl fun _ => rfl
    | some => exact .assigns _ _ rfl fun _ => rfl
  case sniffActiveConn pChannelmap pChannels =>
    match pChannelmap, pChannels with
    | none, _ => exact plain_of_refuse rfl fun _ => rfl
    | some _, none => exact plain_of_refuse rfl fun _ => rfl
    | some _, some _ => exact .assigns _ _ rfl fun _ => rfl
  case setEncryption pLlKey pLlIv pKey pRand pEdiv =>
    match pLlKey, pLlIv, pKey, pRand, pEdiv with
    | none, _, _, _, _ => exact plain_of_refuse rfl fun _ => rfl
    | some _, none, _, _, _ => exact plain_of_refuse rfl fun _ => rfl
    | some _, some _, none, _, _ => exact plain_of_refuse rfl fun _ => rfl
    | some _, some _, some _, none, _ => exact plain_of_refuse rfl fun _ => rfl
    | some _, some _, some _, some _, none => exact plain_of_refuse rfl fun _ => rfl
    | some _, some _, some _, some _, some _ => exact .assigns _ _ rfl fun _ => rfl
  all_goals exact .assigns _ _ rfl fun _ => rfl

/-- The builders whose body does not copy. -/
def Phy.PhyBuilder.plain : Phy.PhyBuilder → Bool
  | .setSyncWord .. | .send .. | .sendRawIq .. | .supportedFrequencies .. | .schedPacket .. | .packetReceived .. => false
  | _ => true

theorem Phy.phyBuilder_plain (b : PhyBuilder) (h : b.plain = true) : Plain b.run := by
  cases b
  case setSyncWord | send | sendRawIq | supportedFrequencies | schedPacket | packetReceived => exact nomatch h
  all_goals exact .assigns _ _ rfl fun _ => rfl

/-- The builders whose body does not copy. -/
def Esb.EsbBuilder.plain : Esb.EsbBuilder → Bool
  | .setNodeAddress .. | .sniff .. | .send .. | .sendRaw .. | .rawPduReceived .. | .pduReceived .. => false
  | _ => true

theorem Esb.esbBuilder_plain (b : EsbBuilder) (h : b.plain = true) : Plain b.run := by
  cases b
  case setNodeAddress | sniff | send | sendRaw | rawPduReceived | pduReceived => exact nomatch h
  all_goals exact .assigns _ _ rfl fun _ => rfl

/-- The builders whose body does not copy. -/
def Unifying.UnifyingBuilder.plain : Unifying.UnifyingBuilder → Bool
  | .setNodeAddress .. | .sniff .. | .send .. | .sendRaw .. | .rawPduReceived .. | .pduReceived .. => false
  | _ => true

theorem Unifying.unifyingBuilder_plain (b : UnifyingBuilder) (h : b.plain = true) : Plain b.run := by
  cases b
  case setNodeAddress | sniff | send | sendRaw | rawPduReceived | pduReceived => exact nomatch h
  all_goals exact .assigns _ _ rfl fun _ => rfl

/-- The builders whose body does not copy; the one with the address never assigns either. -/
def Dot15d4.Dot15d4Builder.plain : Dot15d4.Dot15d4Builder → Bool
  | .setNodeAddress .. | .send .. | .sendRaw .. | .rawPduReceived .. | .pduReceived .. => false
  | _ => true

theorem Dot15d4.dot15d4Builder_plain (b : Dot15d4Builder) (h : b.plain = true) : Plain b.run := by
  cases b
  case setNodeAddress | send | sendRaw | rawPduReceived | pduReceived => exact nomatch h
  all_goals exact .assigns _ _ rfl fun _ => rfl

end WhadLib
