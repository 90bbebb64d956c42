import WhadLib.Board.Message

/-! What a builder packs its parser gives back, and no other parser takes it. The argument runs
over one row of the message list; the tables then supply a row for each kind. -/
namespace WhadLib.Board
open Library

/-- The constant of `whad_board_msgtype_t` named after a kind. -/
def BoardKind.msgtype : BoardKind → WhadBoardMsgtype
  | .getBoardInfo => .getBoardInfo
  | .listSensors => .listSensors
  | .readSensor => .readSensor
  | .configureStream => .configureStream
  | .stopStream => .stopStream
  | .calibrate => .calibrate
  | .getCalibration => .getCalibration
  | .setOutput => .setOutput
  | .getInputState => .getInputState
  | .configureInput => .configureInput
  | .i2cTransfer => .i2cTransfer
  | .gpioConfigure => .gpioConfigure
  | .gpioRead => .gpioRead
  | .gpioWrite => .gpioWrite
  | .adcRead => .adcRead
  | .spiTransfer => .spiTransfer
  | .storageInfo => .storageInfo
  | .storageAdopt => .storageAdopt
  | .storageReadLog => .storageReadLog
  | .storageEraseLog => .storageEraseLog
  | .getRuntimeConfig => .getRuntimeConfig
  | .setRuntimeConfig => .setRuntimeConfig
  | .setRuntimeMode => .setRuntimeMode
  | .remoteProfileGet => .remoteProfileGet
  | .remoteProfileSet => .remoteProfileSet
  | .audioConfigure => .audioConfigure
  | .releasePin => .releasePin
  | .rawPcmDiagnostics => .rawPcmDiagnostics
  | .commandResult => .commandResult
  | .boardInfo => .info
  | .sensorDescriptor => .sensorDescriptor
  | .sensorSample => .sensorSample
  | .streamConfigured => .streamConfigured
  | .calibration => .calibration
  | .inputState => .inputState
  | .i2cResult => .i2cResult
  | .gpioConfigured => .gpioConfigured
  | .gpioValue => .gpioValue
  | .adcValue => .adcValue
  | .spiResult => .spiResult
  | .storageStatus => .storageStatus
  | .runtimeConfig => .runtimeConfig
  | .remoteProfile => .remoteProfile
  | .audioConfigured => .audioConfigured
  | .audioChunk => .audioChunk
  | .inputEvent => .inputEvent
  | .gestureEvent => .gestureEvent
  | .logChunk => .logChunk
  | .boardStatus => .status

/-- The request named after a command. -/
def BoardCommand.kind : BoardCommand → BoardKind
  | .getBoardInfo => .getBoardInfo
  | .listSensors => .listSensors
  | .readSensor => .readSensor
  | .configureStream => .configureStream
  | .stopStream => .stopStream
  | .calibrate => .calibrate
  | .getCalibration => .getCalibration
  | .setOutput => .setOutput
  | .getInputState => .getInputState
  | .configureInput => .configureInput
  | .i2cTransfer => .i2cTransfer
  | .gpioConfigure => .gpioConfigure
  | .gpioRead => .gpioRead
  | .gpioWrite => .gpioWrite
  | .adcRead => .adcRead
  | .spiTransfer => .spiTransfer
  | .storageInfo => .storageInfo
  | .storageAdopt => .storageAdopt
  | .storageReadLog => .storageReadLog
  | .storageEraseLog => .storageEraseLog
  | .getRuntimeConfig => .getRuntimeConfig
  | .setRuntimeConfig => .setRuntimeConfig
  | .setRuntimeMode => .setRuntimeMode
  | .remoteProfileGet => .remoteProfileGet
  | .remoteProfileSet => .remoteProfileSet
  | .audioConfigure => .audioConfigure
  | .releasePin => .releasePin
  | .rawPcmDiagnostics => .rawPcmDiagnostics

def requestKinds : List BoardKind := (CEnum.constants : List BoardCommand).map BoardCommand.kind

theorem BoardKind.ofNat_tag (k : BoardKind) : BoardKind.ofNat (k.tag-2) = k := by
  cases k <;> rfl

theorem BoardKind.tag_injective : Function.Injective BoardKind.tag := by
  intro a b h
  rw [← a.ofNat_tag, h, b.ofNat_tag]

theorem BoardKind.msgtype_val (k : BoardKind) : k.msgtype.val = k.tag := by
  cases k <;> rfl

theorem BoardCommand.kind_tag (c : BoardCommand) : c.kind.tag = c.val+2 := by
  cases c <;> rfl

/-! One row: its parser reads what its builder wrote. -/

theorem whadBoardUnpack_boardMessage (V : Views) {row : MessageRow} {v : Validator} {tag : ℕ} {c : BoardKind}
    (hrow : row = ⟨tag,c,c⟩) (m : Message) (r : UInt32) {p : row.type.Struct} (h : v.Accepts V p)
    (rid : Option UInt32) (prior : row.type.Struct) :
    whadBoardUnpack V (some (boardMessage V m r row.tag p)) row rid (some prior) v =
      (.success, rid.map fun _ => r, some p) := by
  subst hrow
  have hread : (boardMessage V m r tag p).board.msg c = p := V.same c p
  rw [whadBoardUnpack_of_accepts rid (boardMessage_holds V m r tag p) (by rw [hread]; exact h)]
  simp only [hread, V.same]
  rfl

/-- The round trip of a structure through a message of its kind. -/
structure RoundTrip (V : Views) (k : BoardKind) (p : (messageRow k).type.Struct) (r : UInt32) (m : Message) :
    Prop where
  accepted : (validatorOf k).Accepts V p → ∃ m', whadBoardBuild V k (some m) r (some p) = (.success, some m') ∧
    whadBoardGetMessageType (some m') = k.msgtype.val ∧
    (∀ rid prior, whadBoardParse V k (some m') rid (some prior) = (.success, rid.map fun _ => r, some p)) ∧
    ∀ k', k' ≠ k → ∀ rid value, whadBoardParse V k' (some m') rid value = (.error, rid, value)
  rejected : ¬(validatorOf k).Accepts V p → whadBoardBuild V k (some m) r (some p) = (.error, some m)

theorem roundTrip (V : Views) (k : BoardKind) (p : (messageRow k).type.Struct) (r : UInt32) (m : Message) :
    RoundTrip V k p r m := by
  constructor
  · intro haccepts
    refine ⟨_,whadBoardPack_of_accepts r haccepts,?_,?_,?_⟩
    · rw [(boardMessage_holds V m r (messageRow k).tag p).getMessageType, messageRow_tag, k.msgtype_val]
    · intro rid prior
      exact whadBoardUnpack_boardMessage V (messageRow_eq k) m r haccepts rid prior
    · intro k' hne rid value
      refine whadBoardUnpack_of_not_holds rid (fun hholds => hne ?_) value
      have htag : (messageRow k).tag = (messageRow k').tag := hholds.tag
      rw [messageRow_tag, messageRow_tag] at htag
      exact BoardKind.tag_injective htag.symm
  · intro hrejects
    exact whadBoardPack_of_not_accepts r hrejects

/-! The command of a message type. -/

theorem commandSwitch_eq {row : WhadBoardMsgtype × BoardCommand} (h : row ∈ commandSwitch) :
    (row.1.val : ℤ) = row.2.val+2 := by
  have hall : ∀ row ∈ commandSwitch, row.1.val = row.2.val+2 := by decide
  have hrow := hall row h
  omega

theorem exists_commandSwitch (c : BoardCommand) : ∃ row ∈ commandSwitch, row.2 = c := by
  cases c <;> decide

/-- The command belongs to the request whose type was given, or the type is no request's. -/
theorem whadBoardCommandFromMessageType_cases (t : ℤ) (old : EnumField BoardCommand) :
    (∃ c : BoardCommand, t = c.val+2 ∧
        whadBoardCommandFromMessageType t (some old) = (.success, some ⟨c.val⟩)) ∨
      (∀ c : BoardCommand, t ≠ c.val+2) ∧
        whadBoardCommandFromMessageType t (some old) = (.error, some old) := by
  unfold whadBoardCommandFromMessageType
  cases hrow : commandSwitch.find? fun row => (row.1.val : ℤ) == t with
  | none =>
    refine .inr ⟨fun c hc => ?_,by simp⟩
    obtain ⟨row,hmem,rfl⟩ := exists_commandSwitch c
    have hne := List.find?_eq_none.mp hrow row hmem
    rw [commandSwitch_eq hmem, hc] at hne
    simp at hne
  | some row =>
    have ht : (row.1.val : ℤ) = t := by simpa using List.find?_some hrow
    exact .inl ⟨row.2,by rw [← ht, commandSwitch_eq (List.mem_of_find?_eq_some hrow)],by simp⟩

/-- The function succeeds just on the requests, and tells them apart. -/
structure CommandMap : Prop where
  requests : requestKinds.length = 28 ∧ requestKinds.Nodup
  success : ∀ t old, (whadBoardCommandFromMessageType t (some old)).1 = .success ↔
    ∃ k ∈ requestKinds, t = k.msgtype.val
  injective : ∀ t t' old old', (whadBoardCommandFromMessageType t (some old)).1 = .success →
    whadBoardCommandFromMessageType t (some old) = whadBoardCommandFromMessageType t' (some old') → t = t'

theorem mem_requestKinds (k : BoardKind) : k ∈ requestKinds ↔ ∃ c : BoardCommand, c.kind = k := by
  rw [requestKinds, List.mem_map]
  exact ⟨fun ⟨c,_,hc⟩ => ⟨c,hc⟩,fun ⟨c,hc⟩ => ⟨c,CEnum.complete c,hc⟩⟩

theorem request_msgtype_val (c : BoardCommand) : (c.kind.msgtype.val : ℤ) = c.val+2 := by
  rw [BoardKind.msgtype_val, BoardCommand.kind_tag]
  rfl

theorem commandMap : CommandMap where
  requests := by decide
  success := by
    intro t old
    constructor
    · intro hok
      obtain ⟨c,hc,_⟩ | ⟨_,herr⟩ := whadBoardCommandFromMessageType_cases t old
      · exact ⟨c.kind,(mem_requestKinds _).mpr ⟨c,rfl⟩,hc.trans (request_msgtype_val c).symm⟩
      · rw [herr] at hok
        contradiction
    · rintro ⟨k,hk,rfl⟩
      obtain ⟨c,rfl⟩ := (mem_requestKinds k).mp hk
      obtain ⟨_,_,hok⟩ | ⟨hnone,_⟩ := whadBoardCommandFromMessageType_cases c.kind.msgtype.val old
      · rw [hok]
      · exact absurd (request_msgtype_val c) (hnone c)
  injective := by
    intro t t' old old' hok heq
    obtain ⟨c,hc,hres⟩ | ⟨_,herr⟩ := whadBoardCommandFromMessageType_cases t old
    · obtain ⟨c',hc',hres'⟩ | ⟨_,herr'⟩ := whadBoardCommandFromMessageType_cases t' old'
      · rw [hres, hres'] at heq
        have hval : (c.val : ℤ) = c'.val := by simpa using heq
        omega
      · rw [hres, herr'] at heq
        simp at heq
    · rw [herr] at hok
      contradiction

/-- The tables name the same kind throughout the row of a kind. -/
structure TablesAgree (k : BoardKind) : Prop where
  row : messageRow k = ⟨k.tag,k,k⟩
  msgtype : k.msgtype.val = k.tag
  validator : (validatorOf k).subject = k

/-- Round trips for every kind, structure, request id and earlier content of the message, the
tables agree, and the commands are those of the requests. -/
theorem board_round_trip (V : Views) :
    (∀ k p r m, RoundTrip V k p r m) ∧ (∀ k, TablesAgree k) ∧ CommandMap :=
  ⟨roundTrip V,fun k => ⟨messageRow_eq k,k.msgtype_val,validatorOf_subject k⟩,commandMap⟩

end WhadLib.Board
