import WhadLib.Message
import WhadLib.Board.Validators

/-! The builders and parsers of the board domain, and the tables they are generated from. Two
pointers that the macro passes itself, to the member of the union and to the validator, are
never `NULL`. -/
namespace WhadLib.Board
open Library

/-- How a zeroed union, into which the structure of one kind was copied, reads as the structure of
another kind; as its own kind it reads as what was copied. -/
structure Views where
  read : (k k' : BoardKind) → k.Struct → k'.Struct
  same : ∀ k p, read k k p = p

/-- Another kind reads a default structure. -/
def Views.plain : Views where
  read k k' p := if h : k = k' then h ▸ p else default
  same := fun _ _ => by simp

/-- A `whad_board_validator_t`: it takes what it is given for a structure of kind `subject`. -/
structure Validator where
  subject : BoardKind
  run : Option subject.Struct → WhadResult

/-- A row of `WHAD_BOARD_MESSAGE_LIST`: the tag, the member of the union and the structure type. -/
structure MessageRow where
  tag : ℕ
  field : BoardKind
  type : BoardKind

/-- The message afterwards comes with the result. -/
def whadBoardPack (V : Views) (message : Option Message) (requestId : UInt32) (row : MessageRow)
    (value : Option row.type.Struct) (validator : Validator) : WhadResult × Option Message :=
  match message, value with
  | some m, some p =>
    if validator.run (some (V.read row.type validator.subject p)) ≠ .success then (.error, message)
    else (.success, some { m with
      whichMsg := Message.boardTag
      board := ⟨requestId,row.tag,fun k => V.read row.type k p⟩ })
  | _, _ => (.error, message)

/-- The two outputs afterwards come with the result. -/
def whadBoardUnpack (V : Views) (message : Option Message) (row : MessageRow) (requestId : Option UInt32)
    (value : Option row.type.Struct) (validator : Validator) :
    WhadResult × Option UInt32 × Option row.type.Struct :=
  match message, value with
  | some m, some _ =>
    let field := m.board.msg row.field
    if whadGetMessageDomain m ≠ .board then (.error, requestId, value)
    else if m.board.whichMsg ≠ row.tag then (.error, requestId, value)
    else if validator.run (some (V.read row.field validator.subject field)) ≠ .success then
      (.error, requestId, value)
    else (.success, requestId.map fun _ => m.board.requestId, some (V.read row.field row.type field))
  | _, _ => (.error, requestId, value)

/-- The number is that of a `whad_board_msgtype_t`. -/
def whadBoardGetMessageType (message : Option Message) : ℕ :=
  match message with
  | none => 0
  | some m => if whadGetMessageDomain m ≠ .board then 0 else m.board.whichMsg

/-- The validator takes a structure of kind `t` for one of its own kind and accepts it. -/
def Validator.Accepts (V : Views) (v : Validator) {t : BoardKind} (p : t.Struct) : Prop :=
  v.run (some (V.read t v.subject p)) = .success

theorem Validator.accepts_own (V : Views) {k : BoardKind} {run : Option k.Struct → WhadResult} (p : k.Struct) :
    Validator.Accepts V ⟨k,run⟩ p ↔ run (some p) = .success := by
  rw [Accepts, V.same]

/-- The message a builder leaves behind. -/
def boardMessage (V : Views) (m : Message) (requestId : UInt32) (tag : ℕ) {t : BoardKind} (p : t.Struct) :
    Message :=
  { m with
    whichMsg := Message.boardTag
    board := ⟨requestId,tag,fun k => V.read t k p⟩ }

/-- The message is of the board domain and carries the tag. -/
structure HoldsTag (m : Message) (tag : ℕ) : Prop where
  domain : m.whichMsg = Message.boardTag
  tag : m.board.whichMsg = tag

theorem boardMessage_holds (V : Views) (m : Message) (r : UInt32) (tag : ℕ) {t : BoardKind} (p : t.Struct) :
    HoldsTag (boardMessage V m r tag p) tag := ⟨rfl,rfl⟩

theorem HoldsTag.getMessageType {m : Message} {tag : ℕ} (h : HoldsTag m tag) :
    whadBoardGetMessageType (some m) = tag := by
  have hdomain := (whadGetMessageDomain_eq_iff m (d := .board) rfl).mpr h.domain
  simp [whadBoardGetMessageType, hdomain, h.tag]

section
variable {V : Views} {m : Message} {row : MessageRow} {v : Validator} {p : row.type.Struct} (r : UInt32)
  (rid : Option UInt32)

theorem whadBoardPack_of_accepts (h : v.Accepts V p) :
    whadBoardPack V (some m) r row (some p) v = (.success, some (boardMessage V m r row.tag p)) := by
  rw [Validator.Accepts] at h
  simp [whadBoardPack, h, boardMessage]

theorem whadBoardPack_of_not_accepts (h : ¬v.Accepts V p) :
    whadBoardPack V (some m) r row (some p) v = (.error, some m) := by
  rw [Validator.Accepts] at h
  simp [whadBoardPack, h]

theorem whadBoardUnpack_of_accepts (hm : HoldsTag m row.tag) (h : v.Accepts V (m.board.msg row.field)) :
    whadBoardUnpack V (some m) row rid (some p) v =
      (.success, rid.map fun _ => m.board.requestId,
        some (V.read row.field row.type (m.board.msg row.field))) := by
  have hdomain := (whadGetMessageDomain_eq_iff m (d := .board) rfl).mpr hm.domain
  rw [Validator.Accepts] at h
  simp [whadBoardUnpack, hdomain, hm.tag, h]

theorem whadBoardUnpack_of_not_accepts (h : ¬v.Accepts V (m.board.msg row.field)) :
    whadBoardUnpack V (some m) row rid (some p) v = (.error, rid, some p) := by
  rw [Validator.Accepts] at h
  simp [whadBoardUnpack, h]

/-- A message of another kind is refused. -/
theorem whadBoardUnpack_of_not_holds (h : ¬HoldsTag m row.tag) (value : Option row.type.Struct) :
    whadBoardUnpack V (some m) row rid value v = (.error, rid, value) := by
  cases value with
  | none => rfl
  | some p =>
    by_cases hdomain : whadGetMessageDomain m = .board
    · have htag : m.board.whichMsg ≠ row.tag := fun htag =>
        h ⟨(whadGetMessageDomain_eq_iff m rfl).mp hdomain,htag⟩
      simp [whadBoardUnpack, htag]
    · simp [whadBoardUnpack, hdomain]

end

/-- `WHAD_BOARD_MESSAGE_LIST`, by the name of the message. -/
def messageRow : BoardKind → MessageRow
  | .getBoardInfo => ⟨BoardKind.getBoardInfo.tag,.getBoardInfo,.getBoardInfo⟩
  | .listSensors => ⟨BoardKind.listSensors.tag,.listSensors,.listSensors⟩
  | .readSensor => ⟨BoardKind.readSensor.tag,.readSensor,.readSensor⟩
  | .configureStream => ⟨BoardKind.configureStream.tag,.configureStream,.configureStream⟩
  | .stopStream => ⟨BoardKind.stopStream.tag,.stopStream,.stopStream⟩
  | .calibrate => ⟨BoardKind.calibrate.tag,.calibrate,.calibrate⟩
  | .getCalibration => ⟨BoardKind.getCalibration.tag,.getCalibration,.getCalibration⟩
  | .setOutput => ⟨BoardKind.setOutput.tag,.setOutput,.setOutput⟩
  | .getInputState => ⟨BoardKind.getInputState.tag,.getInputState,.getInputState⟩
  | .configureInput => ⟨BoardKind.configureInput.tag,.configureInput,.configureInput⟩
  | .i2cTransfer => ⟨BoardKind.i2cTransfer.tag,.i2cTransfer,.i2cTransfer⟩
  | .gpioConfigure => ⟨BoardKind.gpioConfigure.tag,.gpioConfigure,.gpioConfigure⟩
  | .gpioRead => ⟨BoardKind.gpioRead.tag,.gpioRead,.gpioRead⟩
  | .gpioWrite => ⟨BoardKind.gpioWrite.tag,.gpioWrite,.gpioWrite⟩
  | .adcRead => ⟨BoardKind.adcRead.tag,.adcRead,.adcRead⟩
  | .spiTransfer => ⟨BoardKind.spiTransfer.tag,.spiTransfer,.spiTransfer⟩
  | .storageInfo => ⟨BoardKind.storageInfo.tag,.storageInfo,.storageInfo⟩
  | .storageAdopt => ⟨BoardKind.storageAdopt.tag,.storageAdopt,.storageAdopt⟩
  | .storageReadLog => ⟨BoardKind.storageReadLog.tag,.storageReadLog,.storageReadLog⟩
  | .storageEraseLog => ⟨BoardKind.storageEraseLog.tag,.storageEraseLog,.storageEraseLog⟩
  | .getRuntimeConfig => ⟨BoardKind.getRuntimeConfig.tag,.getRuntimeConfig,.getRuntimeConfig⟩
  | .setRuntimeConfig => ⟨BoardKind.setRuntimeConfig.tag,.setRuntimeConfig,.setRuntimeConfig⟩
  | .setRuntimeMode => ⟨BoardKind.setRuntimeMode.tag,.setRuntimeMode,.setRuntimeMode⟩
  | .remoteProfileGet => ⟨BoardKind.remoteProfileGet.tag,.remoteProfileGet,.remoteProfileGet⟩
  | .remoteProfileSet => ⟨BoardKind.remoteProfileSet.tag,.remoteProfileSet,.remoteProfileSet⟩
  | .audioConfigure => ⟨BoardKind.audioConfigure.tag,.audioConfigure,.audioConfigure⟩
  | .releasePin => ⟨BoardKind.releasePin.tag,.releasePin,.releasePin⟩
  | .rawPcmDiagnostics => ⟨BoardKind.rawPcmDiagnostics.tag,.rawPcmDiagnostics,.rawPcmDiagnostics⟩
  | .commandResult => ⟨BoardKind.commandResult.tag,.commandResult,.commandResult⟩
  | .boardInfo => ⟨BoardKind.boardInfo.tag,.boardInfo,.boardInfo⟩
  | .sensorDescriptor => ⟨BoardKind.sensorDescriptor.tag,.sensorDescriptor,.sensorDescriptor⟩
  | .sensorSample => ⟨BoardKind.sensorSample.tag,.sensorSample,.sensorSample⟩
  | .streamConfigured => ⟨BoardKind.streamConfigured.tag,.streamConfigured,.streamConfigured⟩
  | .calibration => ⟨BoardKind.calibration.tag,.calibration,.calibration⟩
  | .inputState => ⟨BoardKind.inputState.tag,.inputState,.inputState⟩
  | .i2cResult => ⟨BoardKind.i2cResult.tag,.i2cResult,.i2cResult⟩
  | .gpioConfigured => ⟨BoardKind.gpioConfigured.tag,.gpioConfigured,.gpioConfigured⟩
  | .gpioValue => ⟨BoardKind.gpioValue.tag,.gpioValue,.gpioValue⟩
  | .adcValue => ⟨BoardKind.adcValue.tag,.adcValue,.adcValue⟩
  | .spiResult => ⟨BoardKind.spiResult.tag,.spiResult,.spiResult⟩
  | .storageStatus => ⟨BoardKind.storageStatus.tag,.storageStatus,.storageStatus⟩
  | .runtimeConfig => ⟨BoardKind.runtimeConfig.tag,.runtimeConfig,.runtimeConfig⟩
  | .remoteProfile => ⟨BoardKind.remoteProfile.tag,.remoteProfile,.remoteProfile⟩
  | .audioConfigured => ⟨BoardKind.audioConfigured.tag,.audioConfigured,.audioConfigured⟩
  | .audioChunk => ⟨BoardKind.audioChunk.tag,.audioChunk,.audioChunk⟩
  | .inputEvent => ⟨BoardKind.inputEvent.tag,.inputEvent,.inputEvent⟩
  | .gestureEvent => ⟨BoardKind.gestureEvent.tag,.gestureEvent,.gestureEvent⟩
  | .logChunk => ⟨BoardKind.logChunk.tag,.logChunk,.logChunk⟩
  | .boardStatus => ⟨BoardKind.boardStatus.tag,.boardStatus,.boardStatus⟩

/-- The aliases `WHAD_BOARD_VALIDATE_*`; `whad_board_validate_ok` reads nothing of its argument. -/
def validatorOf : BoardKind → Validator
  | .getBoardInfo => ⟨.getBoardInfo,whadBoardValidateOk⟩
  | .listSensors => ⟨.listSensors,whadBoardValidateOk⟩
  | .readSensor => ⟨.readSensor,whadBoardValidateOk⟩
  | .configureStream => ⟨.configureStream,whadBoardValidateOk⟩
  | .stopStream => ⟨.stopStream,whadBoardValidateOk⟩
  | .calibrate => ⟨.calibrate,whadBoardValidateOk⟩
  | .getCalibration => ⟨.getCalibration,whadBoardValidateOk⟩
  | .setOutput => ⟨.setOutput,whadBoardValidateSetOutput⟩
  | .getInputState => ⟨.getInputState,whadBoardValidateOk⟩
  | .configureInput => ⟨.configureInput,whadBoardValidateConfigureInput⟩
  | .i2cTransfer => ⟨.i2cTransfer,whadBoardValidateI2cTransfer⟩
  | .gpioConfigure => ⟨.gpioConfigure,whadBoardValidateGpioConfigure⟩
  | .gpioRead => ⟨.gpioRead,whadBoardValidateGpioRead⟩
  | .gpioWrite => ⟨.gpioWrite,whadBoardValidateGpioWrite⟩
  | .adcRead => ⟨.adcRead,whadBoardValidateOk⟩
  | .spiTransfer => ⟨.spiTransfer,whadBoardValidateSpiTransfer⟩
  | .storageInfo => ⟨.storageInfo,whadBoardValidateOk⟩
  | .storageAdopt => ⟨.storageAdopt,whadBoardValidateOk⟩
  | .storageReadLog => ⟨.storageReadLog,whadBoardValidateStorageReadLog⟩
  | .storageEraseLog => ⟨.storageEraseLog,whadBoardValidateOk⟩
  | .getRuntimeConfig => ⟨.getRuntimeConfig,whadBoardValidateOk⟩
  | .setRuntimeConfig => ⟨.setRuntimeConfig,whadBoardValidateSetRuntimeConfig⟩
  | .setRuntimeMode => ⟨.setRuntimeMode,whadBoardValidateSetRuntimeMode⟩
  | .remoteProfileGet => ⟨.remoteProfileGet,whadBoardValidateOk⟩
  | .remoteProfileSet => ⟨.remoteProfileSet,whadBoardValidateRemoteProfileSet⟩
  | .audioConfigure => ⟨.audioConfigure,whadBoardValidateOk⟩
  | .releasePin => ⟨.releasePin,whadBoardValidateReleasePin⟩
  | .rawPcmDiagnostics => ⟨.rawPcmDiagnostics,whadBoardValidateRawPcmDiagnostics⟩
  | .commandResult => ⟨.commandResult,whadBoardValidateCommandResult⟩
  | .boardInfo => ⟨.boardInfo,whadBoardValidateBoardInfo⟩
  | .sensorDescriptor => ⟨.sensorDescriptor,whadBoardValidateSensorDescriptor⟩
  | .sensorSample => ⟨.sensorSample,whadBoardValidateSensorSample⟩
  | .streamConfigured => ⟨.streamConfigured,whadBoardValidateOk⟩
  | .calibration => ⟨.calibration,whadBoardValidateCalibration⟩
  | .inputState => ⟨.inputState,whadBoardValidateInputState⟩
  | .i2cResult => ⟨.i2cResult,whadBoardValidateI2cResult⟩
  | .gpioConfigured => ⟨.gpioConfigured,whadBoardValidateGpioConfigured⟩
  | .gpioValue => ⟨.gpioValue,whadBoardValidateGpioValue⟩
  | .adcValue => ⟨.adcValue,whadBoardValidateAdcValue⟩
  | .spiResult => ⟨.spiResult,whadBoardValidateSpiResult⟩
  | .storageStatus => ⟨.storageStatus,whadBoardValidateStorageStatus⟩
  | .runtimeConfig => ⟨.runtimeConfig,whadBoardValidateRuntimeConfig⟩
  | .remoteProfile => ⟨.remoteProfile,whadBoardValidateRemoteProfile⟩
  | .audioConfigured => ⟨.audioConfigured,whadBoardValidateOk⟩
  | .audioChunk => ⟨.audioChunk,whadBoardValidateAudioChunk⟩
  | .inputEvent => ⟨.inputEvent,whadBoardValidateInputEvent⟩
  | .gestureEvent => ⟨.gestureEvent,whadBoardValidateGestureEvent⟩
  | .logChunk => ⟨.logChunk,whadBoardValidateLogChunk⟩
  | .boardStatus => ⟨.boardStatus,whadBoardValidateBoardStatus⟩

/-- Each row belongs to the kind it is named after. -/
theorem messageRow_eq (k : BoardKind) : messageRow k = ⟨k.tag,k,k⟩ := by
  cases k <;> rfl

theorem messageRow_tag (k : BoardKind) : (messageRow k).tag = k.tag := by rw [messageRow_eq]

theorem messageRow_field (k : BoardKind) : (messageRow k).field = (messageRow k).type := by rw [messageRow_eq]

theorem validatorOf_subject (k : BoardKind) : (validatorOf k).subject = k := by
  cases k <;> rfl

/-- The builder `whad_board_<name>`. -/
def whadBoardBuild (V : Views) (name : BoardKind) (message : Option Message) (requestId : UInt32)
    (value : Option (messageRow name).type.Struct) : WhadResult × Option Message :=
  whadBoardPack V message requestId (messageRow name) value (validatorOf name)

/-- The parser `whad_board_<name>_parse`. -/
def whadBoardParse (V : Views) (name : BoardKind) (message : Option Message) (requestId : Option UInt32)
    (value : Option (messageRow name).type.Struct) :
    WhadResult × Option UInt32 × Option (messageRow name).type.Struct :=
  whadBoardUnpack V message (messageRow name) requestId value (validatorOf name)

/-- `whad_board_msgtype_t`. -/
inductive WhadBoardMsgtype
  | unknown | getBoardInfo | listSensors | readSensor | configureStream | stopStream | calibrate
  | getCalibration | setOutput | getInputState | configureInput | i2cTransfer | gpioConfigure
  | gpioRead | gpioWrite | adcRead | spiTransfer | storageInfo | storageAdopt | storageReadLog
  | storageEraseLog | getRuntimeConfig | setRuntimeConfig | setRuntimeMode | remoteProfileGet
  | remoteProfileSet | audioConfigure | releasePin | rawPcmDiagnostics | commandResult | info
  | sensorDescriptor | sensorSample | streamConfigured | calibration | inputState | i2cResult
  | gpioConfigured | gpioValue | adcValue | spiResult | storageStatus | runtimeConfig
  | remoteProfile | audioConfigured | audioChunk | inputEvent | gestureEvent | logChunk | status
  deriving DecidableEq, Repr

def WhadBoardMsgtype.val : WhadBoardMsgtype → ℕ
  | .unknown => 0
  | .getBoardInfo => BoardKind.getBoardInfo.tag
  | .listSensors => BoardKind.listSensors.tag
  | .readSensor => BoardKind.readSensor.tag
  | .configureStream => BoardKind.configureStream.tag
  | .stopStream => BoardKind.stopStream.tag
  | .calibrate => BoardKind.calibrate.tag
  | .getCalibration => BoardKind.getCalibration.tag
  | .setOutput => BoardKind.setOutput.tag
  | .getInputState => BoardKind.getInputState.tag
  | .configureInput => BoardKind.configureInput.tag
  | .i2cTransfer => BoardKind.i2cTransfer.tag
  | .gpioConfigure => BoardKind.gpioConfigure.tag
  | .gpioRead => BoardKind.gpioRead.tag
  | .gpioWrite => BoardKind.gpioWrite.tag
  | .adcRead => BoardKind.adcRead.tag
  | .spiTransfer => BoardKind.spiTransfer.tag
  | .storageInfo => BoardKind.storageInfo.tag
  | .storageAdopt => BoardKind.storageAdopt.tag
  | .storageReadLog => BoardKind.storageReadLog.tag
  | .storageEraseLog => BoardKind.storageEraseLog.tag
  | .getRuntimeConfig => BoardKind.getRuntimeConfig.tag
  | .setRuntimeConfig => BoardKind.setRuntimeConfig.tag
  | .setRuntimeMode => BoardKind.setRuntimeMode.tag
  | .remoteProfileGet => BoardKind.remoteProfileGet.tag
  | .remoteProfileSet => BoardKind.remoteProfileSet.tag
  | .audioConfigure => BoardKind.audioConfigure.tag
  | .releasePin => BoardKind.releasePin.tag
  | .rawPcmDiagnostics => BoardKind.rawPcmDiagnostics.tag
  | .commandResult => BoardKind.commandResult.tag
  | .info => BoardKind.boardInfo.tag
  | .sensorDescriptor => BoardKind.sensorDescriptor.tag
  | .sensorSample => BoardKind.sensorSample.tag
  | .streamConfigured => BoardKind.streamConfigured.tag
  | .calibration => BoardKind.calibration.tag
  | .inputState => BoardKind.inputState.tag
  | .i2cResult => BoardKind.i2cResult.tag
  | .gpioConfigured => BoardKind.gpioConfigured.tag
  | .gpioValue => BoardKind.gpioValue.tag
  | .adcValue => BoardKind.adcValue.tag
  | .spiResult => BoardKind.spiResult.tag
  | .storageStatus => BoardKind.storageStatus.tag
  | .runtimeConfig => BoardKind.runtimeConfig.tag
  | .remoteProfile => BoardKind.remoteProfile.tag
  | .audioConfigured => BoardKind.audioConfigured.tag
  | .audioChunk => BoardKind.audioChunk.tag
  | .inputEvent => BoardKind.inputEvent.tag
  | .gestureEvent => BoardKind.gestureEvent.tag
  | .logChunk => BoardKind.logChunk.tag
  | .status => BoardKind.boardStatus.tag

/-- The cases of `whad_board_command_from_message_type`. -/
def commandSwitch : List (WhadBoardMsgtype × BoardCommand) :=
  [(.getBoardInfo,.getBoardInfo),(.listSensors,.listSensors),(.readSensor,.readSensor),
    (.configureStream,.configureStream),(.stopStream,.stopStream),(.calibrate,.calibrate),
    (.getCalibration,.getCalibration),(.setOutput,.setOutput),(.getInputState,.getInputState),
    (.configureInput,.configureInput),(.i2cTransfer,.i2cTransfer),(.gpioConfigure,.gpioConfigure),
    (.gpioRead,.gpioRead),(.gpioWrite,.gpioWrite),(.adcRead,.adcRead),(.spiTransfer,.spiTransfer),
    (.storageInfo,.storageInfo),(.storageAdopt,.storageAdopt),(.storageReadLog,.storageReadLog),
    (.storageEraseLog,.storageEraseLog),(.getRuntimeConfig,.getRuntimeConfig),
    (.setRuntimeConfig,.setRuntimeConfig),(.setRuntimeMode,.setRuntimeMode),
    (.remoteProfileGet,.remoteProfileGet),(.remoteProfileSet,.remoteProfileSet),
    (.audioConfigure,.audioConfigure),(.releasePin,.releasePin),
    (.rawPcmDiagnostics,.rawPcmDiagnostics)]

def whadBoardCommandFromMessageType (msgType : ℤ) (command : Option (EnumField BoardCommand)) :
    WhadResult × Option (EnumField BoardCommand) :=
  if command.isNone then (.error, command)
  else
    match commandSwitch.find? fun row => (row.1.val : ℤ) == msgType with
    | some row => (.success, some ⟨row.2.val⟩)
    | none => (.error, command)

end WhadLib.Board
