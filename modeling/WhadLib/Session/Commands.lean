import WhadLib.Commands
import WhadLib.Decoding
import WhadLib.Session.Progress

/-! A program that sends commands, and one that receives them: from the arguments of the builders on one side to
the outputs of the parsers on the other, in every order of the steps between. -/
namespace WhadLib
open Library

/-- The builder of the command made the message, of arguments that fit. -/
structure Command.Built (c : Command) (m : FullMessage) : Prop where
  narrow : c.Narrow
  built : ∃ old, c.Fits old ∧ c.builder.run (some old) = some (.success, some m)

/-- Where it arrives, the parser of the command returns the arguments. -/
theorem Command.Built.returned {c : Command} {m m' : FullMessage} (h : c.Built m) (harrived : Arrived m m') :
    c.Returned m' := by
  obtain ⟨old,hfits,hrun⟩ := h.built
  obtain ⟨built,hbuilt,-,hreturned⟩ := Command.exchanged h.narrow hfits
  obtain ⟨-,rfl⟩ := result_unique hrun hbuilt
  exact hreturned m' harrived

theorem Command.returned_of_arrived {commands : List Command} {sent got : List FullMessage}
    (hbuilt : List.Forall₂ Command.Built commands sent)
    (hgot : got.map FullMessage.tree = sent.map fun m => m.tree.received) :
    List.Forall₂ Command.Returned commands got := by
  induction hbuilt generalizing got with
  | nil =>
    obtain rfl := List.map_eq_nil_iff.mp hgot
    exact .nil
  | @cons c m commands sent hc hcommands ih =>
    obtain ⟨m',got',rfl,harrived,hrest⟩ := List.map_eq_cons_iff.mp hgot
    exact .cons (hc.returned harrived) (ih hrest)

namespace Session

theorem sent_of_success {Msg : Type} {pb : Nanopb} {boardFields : BoardMessage → Fields CallbackField}
    {pbDecode : List UInt8 → Option Msg} {s : Session Msg} {m : FullMessage}
    (h : (whadSendMessage pb boardFields s.heap m.toMessage s.sender).result = .success) :
    (s.step pb boardFields pbDecode (.send m)).sent = s.sent ++ [m] := if_pos h

/-- From arguments to arguments: in every run in which the messages sent with success were built by commands, the
messages received so far return the arguments of the first of these commands to their parsers, in order, and with
the calls that still remain they return those of all of them. -/
theorem commands_received {pb : Nanopb} (hpb : pb.Documented) (boardFields : BoardMessage → Fields CallbackField)
    (pbDecode : List UInt8 → Option FullMessage) (heap : Heap) (sender receiver : Transport) (txCfg rxCfg : TransportCfg)
    (hcb : txCfg.pfnDataSendBuffer = true) (hmax : 1 ≤ txCfg.maxTxbufSize) (ops : List SessionOp)
    (h : Guarded (step pb boardFields pbDecode) Ok (start heap sender receiver txCfg rxCfg) ops)
    (hdecode : ∀ m ∈ (run (step pb boardFields pbDecode) (start heap sender receiver txCfg rxCfg) ops).sent,
      Decodes pbDecode FullMessage.tree m)
    (commands : List Command) :
    let s := run (step pb boardFields pbDecode) (start heap sender receiver txCfg rxCfg) ops
    List.Forall₂ Command.Built commands s.sent →
      (∃ seen, seen <+: commands ∧ List.Forall₂ Command.Returned seen s.got) ∧
        ∃ more : List SessionOp, more.length ≤ s.remaining ∧ (∀ op ∈ more, op.Carries) ∧
          Guarded (step pb boardFields pbDecode) Ok s more ∧
          List.Forall₂ Command.Returned commands (run (step pb boardFields pbDecode) s more).got := by
  intro s hbuilt
  obtain ⟨l,hl⟩ : ∃ l, Runs pbDecode txCfg s l := exists_runs hpb heap sender receiver txCfg rxCfg h
  constructor
  · refine ⟨commands.take l.rx.extracted.length,List.take_prefix _ _,?_⟩
    apply Command.returned_of_arrived (List.forall₂_take _ hbuilt)
    rw [hl.got_eq hdecode, List.map_take]
  · obtain ⟨more,hle,hcarries,hguarded,hall⟩ := hl.exists_all_received boardFields hpb hdecode hcb hmax
    exact ⟨more,hle,hcarries,hguarded,Command.returned_of_arrived hbuilt hall⟩

/-- The address of a device, queued and handed over, with a decoder that knows this one payload. -/
theorem commands_received_setBdaddress :
    let c := Command.ble (.setBdaddress ⟨1⟩ fun _ => 0xAA)
    let m := (default : FullMessage).put (.ble .setBdAddr) ⟨Vector.replicate 6 0xAA,⟨1⟩⟩
    let pbDecode : List UInt8 → Option FullMessage := fun bytes =>
      if bytes = [0x1A,12,10,10,10,6,0xAA,0xAA,0xAA,0xAA,0xAA,0xAA,0x10,1] then some m else none
    ∃ ops : List SessionOp, List.Forall₂ Command.Returned [c] (run (step Nanopb.plain (fun _ => .nil) pbDecode)
      (start Heap.empty gwTransport gwTransport ⟨64,true⟩ ⟨0,false⟩) ops).got := by
  intro c m pbDecode
  let next := step Nanopb.plain (fun _ => .nil) pbDecode
  let initial : Session FullMessage := start Heap.empty gwTransport gwTransport ⟨64,true⟩ ⟨0,false⟩
  have hsent : (run next initial [.send m,.sendPending]).sent = [m] := by
    have hsuccess :
        (whadSendMessage Nanopb.plain (fun _ => .nil) Heap.empty m.toMessage (gwTransport.init ⟨64,true⟩)).result =
        .success := by decide +kernel
    calc (run next initial [.send m,.sendPending]).sent = (next (next initial (.send m)) .sendPending).sent := rfl
      _ = (next initial (.send m)).sent := sent_of_carries trivial
      _ = [m] := sent_of_success hsuccess
  have hbuilt : List.Forall₂ Command.Built [c] (run next initial [.send m,.sendPending]).sent := by
    rw [hsent]
    exact .cons ⟨⟨by decide,by decide⟩,default,trivial,rfl⟩ .nil
  have hdecode : ∀ m' ∈ (run next initial [.send m,.sendPending]).sent, Decodes pbDecode FullMessage.tree m' := by
    rw [hsent, List.forall_mem_singleton]
    rintro bytes w ⟨heap,rs,hrs,rfl⟩ hread
    have hrecords : m.tree.records heap = some [⟨3,.len [10,10,10,6,0xAA,0xAA,0xAA,0xAA,0xAA,0xAA,0x10,1]⟩] := rfl
    obtain rfl := Option.some.inj (hrecords.symm.trans hrs)
    have hall : readMessageBytes [0x1A,12,10,10,10,6,0xAA,0xAA,0xAA,0xAA,0xAA,0xAA,0x10,1] = some m.tree := by
      decide +kernel
    exact ⟨m,rfl,Option.some.inj (hall.symm.trans hread)⟩
  obtain ⟨-,more,-,-,-,hall⟩ := commands_received Nanopb.plain_documented (fun _ => .nil) pbDecode Heap.empty gwTransport
    gwTransport ⟨64,true⟩ ⟨0,false⟩ rfl (by decide) [.send m,.sendPending]
    ⟨⟨by decide,⟨⟨trivial,trivial⟩,trivial⟩⟩,trivial,trivial⟩ hdecode [c] hbuilt
  refine ⟨[.send m,.sendPending] ++ more,?_⟩
  rw [run_append]
  exact hall

end Session
end WhadLib
