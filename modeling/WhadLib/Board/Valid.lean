import WhadLib.Board.Message

/-! What makes the structure of a board message valid, and how far the validators decide it: one
lemma for each validator, and from these the validation done by the builders and the parsers. -/
namespace WhadLib.Board
open Library

/-- Every bit of a sensor status is one of a declared flag. -/
def StatusDeclared (status : UInt32) : Prop :=
  ∀ i, status.toNat.testBit i = true → ∃ flag : SensorStatusFlag, flag.val.testBit i = true

/-- A part at `offset` lies within a whole of `total`, when the size of the whole is known. -/
def SpanWithin (offset count total : UInt32) : Prop := total ≠ 0 → offset.toNat + count.toNat ≤ total.toNat

/-- What is asked of a structure beyond the well-formedness of its fields. -/
def BoardKind.Consistent : (k : BoardKind) → k.Struct → Prop
  | .i2cTransfer, p => p.readLength.toNat ≤ (default : I2cTransferResponse).readData.capacity
  | .spiTransfer, p => p.readLength.toNat ≤ (default : SpiTransferResponse).rxData.capacity
  | .storageReadLog, p => p.maxBytes.toNat ≤ (default : LogChunk).data.capacity
  | .rawPcmDiagnostics, p => p.chunkSize.toNat ≤ (default : AudioChunk).pcm.capacity
  | .sensorSample, p => StatusDeclared p.status
  | .i2cResult, p => p.bytesRead.toNat ≤ p.readData.size
  | .spiResult, p => p.bytesRead.toNat ≤ p.rxData.size
  | .audioChunk, p => p.count.toNat ≤ p.pcm.size ∧ SpanWithin p.offset p.count p.total
  | .logChunk, p => p.count.toNat ≤ p.data.size ∧ SpanWithin p.offset p.count p.total
  | .boardStatus, p => p.progressPerMille.toNat ≤ 1000
  | _, _ => True

instance (k : BoardKind) : Structural k.Struct := by
  cases k <;> exact inferInstance

/-- Structural validity of a board message. -/
def BoardKind.Valid (k : BoardKind) (p : k.Struct) : Prop := valid p ∧ k.Consistent p

/-! The building blocks of the validators. -/

section
variable {α : Type} (last : α → WhadResult) (p : α)

@[simp] theorem whadBoardValidate_nil : whadBoardValidate [] last (some p) = .success ↔ last p = .success := by
  simp [whadBoardValidate]

/-- The first check comes first. -/
@[simp] theorem whadBoardValidate_cons (check : α → Bool) (checks : List (α → Bool)) :
    whadBoardValidate (check :: checks) last (some p) = .success ↔
      check p = true ∧ whadBoardValidate checks last (some p) = .success := by
  cases hcheck : check p <;> simp [whadBoardValidate, hcheck]

end

@[simp] theorem accept_eq {α : Type} (p : α) : accept p = .success := rfl

@[simp] theorem validEnum_iff {E : Type} [CEnum E] (x : EnumField E) :
    whadBoardValidEnum x.raw (enumMin E) (enumMax E) = true ↔ valid x := by
  rw [valid_enum]
  simp only [whadBoardValidEnum, Bool.and_eq_true, decide_eq_true_eq]
  rfl

@[simp] theorem validString_iff {n : ℕ} (text : CharArray n) :
    whadBoardValidString text = true ↔ valid text := by
  simp [whadBoardValidString, valid_charArray]

/-- The sum of two 32-bit numbers fits 64 bits. -/
@[simp] theorem validSpan_iff (offset count total : UInt32) :
    whadBoardValidSpan offset count total = true ↔ SpanWithin offset count total := by
  have ho := offset.toNat_lt
  have hc := count.toNat_lt
  have hsum : (offset.toUInt64 + count.toUInt64).toNat = offset.toNat + count.toNat := by
    rw [UInt64.toNat_add, UInt32.toNat_toUInt64, UInt32.toNat_toUInt64]
    exact Nat.mod_eq_of_lt (by omega)
  simp only [whadBoardValidSpan, SpanWithin, Bool.or_eq_true, beq_iff_eq, decide_eq_true_eq,
    UInt64.le_iff_toNat_le, hsum, UInt32.toNat_toUInt64]
  tauto

/-- The mask has the bits of the declared flags and no others. -/
theorem sensorStatusMask_testBit (i : ℕ) :
    sensorStatusMask.toNat.testBit i = true ↔ ∃ flag : SensorStatusFlag, flag.val.testBit i = true := by
  have hmask : sensorStatusMask.toNat = 2^7-1 := by decide
  rw [hmask, Nat.testBit_two_pow_sub_one, decide_eq_true_eq]
  constructor
  · intro hi
    match i, hi with
    | 0, _ => exact ⟨.sensorStatusCalibrated,by decide⟩
    | 1, _ => exact ⟨.sensorStatusCalibrating,by decide⟩
    | 2, _ => exact ⟨.sensorStatusStale,by decide⟩
    | 3, _ => exact ⟨.sensorStatusSaturated,by decide⟩
    | 4, _ => exact ⟨.sensorStatusOverrun,by decide⟩
    | 5, _ => exact ⟨.sensorStatusMagneticDisturbance,by decide⟩
    | 6, _ => exact ⟨.sensorStatusSensorFault,by decide⟩
  · rintro ⟨flag,hflag⟩
    by_contra hi
    have hsmall : flag.val < 2^7 := by cases flag <;> decide
    have hle : 2^7 ≤ 2^i := Nat.pow_le_pow_right (by decide) (not_lt.mp hi)
    rw [Nat.testBit_lt_two_pow (hsmall.trans_le hle)] at hflag
    contradiction

@[simp] theorem status_iff (status : UInt32) : status &&& ~~~sensorStatusMask = 0 ↔ StatusDeclared status := by
  unfold StatusDeclared
  simp only [← sensorStatusMask_testBit, ← UInt32.toNat_toBitVec, BitVec.testBit_toNat]
  rw [← UInt32.toBitVec_inj, UInt32.toBitVec_and, UInt32.toBitVec_not]
  constructor
  · intro h i hi
    have hlt := BitVec.lt_of_getLsbD hi
    have hbit := congrArg (fun x : BitVec 32 => x.getLsbD i) h
    simpa [hi, hlt] using hbit
  · intro h
    apply BitVec.eq_of_getLsbD_eq
    intro i hi
    have hbit := h i
    simp only [BitVec.getLsbD_and, BitVec.getLsbD_not, hi, decide_true, Bool.true_and]
    cases hs : status.toBitVec.getLsbD i with
    | false => simp
    | true => simp [hbit hs]

theorem ifPresent_iff {α : Type} [Structural α] {validate : Option α → WhadResult}
    (h : ∀ p, validate (some p) = .success ↔ valid p) (x : OptionalField α) :
    ifPresent x validate = .success ↔ valid x := by
  rw [valid_optional, ← h]
  unfold ifPresent
  split <;> simp_all

/-! The validators of structures that lie within others. -/

theorem whadBoardValidateLease_iff (p : LeaseToken) :
    whadBoardValidateLease (some p) = .success ↔ valid p := by
  unfold whadBoardValidateLease instStructuralLeaseToken
  simp

@[simp] theorem ifPresent_lease (x : OptionalField LeaseToken) :
    ifPresent x whadBoardValidateLease = .success ↔ valid x := ifPresent_iff whadBoardValidateLease_iff x

theorem whadBoardValidateSensorDescriptorValue_iff (p : SensorDescriptor) :
    whadBoardValidateSensorDescriptorValue (some p) = .success ↔ valid p := by
  unfold whadBoardValidateSensorDescriptorValue instStructuralSensorDescriptor
  simp [valid_repeated, and_assoc]

@[simp] theorem ifPresent_descriptor (x : OptionalField SensorDescriptor) :
    ifPresent x whadBoardValidateSensorDescriptorValue = .success ↔ valid x :=
  ifPresent_iff whadBoardValidateSensorDescriptorValue_iff x

theorem whadBoardValidateRuntimeUpdate_iff (p : RuntimeConfigUpdate) :
    whadBoardValidateRuntimeUpdate (some p) = .success ↔ valid p := by
  unfold whadBoardValidateRuntimeUpdate instStructuralRuntimeConfigUpdate
  cases hhas : p.persistedRuntime.has <;> simp [valid_optional, hhas]

theorem whadBoardValidateProfileMapping_iff (p : ProfileMapping) :
    whadBoardValidateProfileMapping (some p) = .success ↔ valid p := by
  unfold whadBoardValidateProfileMapping instStructuralProfileMapping
  simp

theorem whadBoardValidateProfile_iff (p : RemoteProfile) :
    whadBoardValidateProfile (some p) = .success ↔ valid p := by
  unfold whadBoardValidateProfile instStructuralRemoteProfile
  simp [valid_repeated, whadBoardValidateProfileMapping_iff]

@[simp] theorem ifPresent_profile (x : OptionalField RemoteProfile) :
    ifPresent x whadBoardValidateProfile = .success ↔ valid x := ifPresent_iff whadBoardValidateProfile_iff x

/-! The validators of messages. -/

theorem whadBoardValidateCommandResult_iff (p : CommandResult) :
    whadBoardValidateCommandResult (some p) = .success ↔ valid p := by
  unfold whadBoardValidateCommandResult instStructuralCommandResult
  simp

theorem whadBoardValidateBoardInfo_iff (p : GetBoardInfoResponse) :
    whadBoardValidateBoardInfo (some p) = .success ↔ valid p := by
  unfold whadBoardValidateBoardInfo instStructuralGetBoardInfoResponse
  simp

theorem whadBoardValidateSensorDescriptor_iff (p : ListSensorsResponse) :
    whadBoardValidateSensorDescriptor (some p) = .success ↔ valid p := by
  unfold whadBoardValidateSensorDescriptor instStructuralListSensorsResponse
  simp

theorem whadBoardValidateSensorSample_iff (p : SensorSample) :
    whadBoardValidateSensorSample (some p) = .success ↔ valid p ∧ StatusDeclared p.status := by
  unfold whadBoardValidateSensorSample instStructuralSensorSample
  simp

theorem whadBoardValidateCalibration_iff (p : CalibrationResponse) :
    whadBoardValidateCalibration (some p) = .success ↔ valid p := by
  unfold whadBoardValidateCalibration instStructuralCalibrationResponse
  simp

theorem whadBoardValidateSetOutput_iff (p : SetOutputRequest) :
    whadBoardValidateSetOutput (some p) = .success ↔ valid p := by
  unfold whadBoardValidateSetOutput instStructuralSetOutputRequest
  simp

theorem whadBoardValidateInputState_iff (p : InputStateResponse) :
    whadBoardValidateInputState (some p) = .success ↔ valid p := by
  unfold whadBoardValidateInputState instStructuralInputStateResponse
  simp

theorem whadBoardValidateConfigureInput_iff (p : ConfigureInputRequest) :
    whadBoardValidateConfigureInput (some p) = .success ↔ valid p := by
  unfold whadBoardValidateConfigureInput instStructuralConfigureInputRequest
  simp

theorem whadBoardValidateI2cTransfer_iff (p : I2cTransferRequest) :
    whadBoardValidateI2cTransfer (some p) = .success ↔
      valid p ∧ p.readLength.toNat ≤ (default : I2cTransferResponse).readData.capacity := by
  unfold whadBoardValidateI2cTransfer instStructuralI2cTransferRequest
  simp only [whadBoardValidate_cons, whadBoardValidate_nil, decide_eq_true_eq, ifPresent_lease,
    valid_bytesArray, valid_uint32, valid_bool]
  tauto

theorem whadBoardValidateI2cResult_iff (p : I2cTransferResponse) :
    whadBoardValidateI2cResult (some p) = .success ↔ valid p ∧ p.bytesRead.toNat ≤ p.readData.size := by
  unfold whadBoardValidateI2cResult instStructuralI2cTransferResponse
  simp only [whadBoardValidate_cons, whadBoardValidate_nil, validEnum_iff, decide_eq_true_eq,
    ifPresent_lease, valid_bytesArray, valid_uint32]
  tauto

theorem whadBoardValidateGpioConfigure_iff (p : GpioConfigureRequest) :
    whadBoardValidateGpioConfigure (some p) = .success ↔ valid p := by
  unfold whadBoardValidateGpioConfigure instStructuralGpioConfigureRequest
  simp

theorem whadBoardValidateGpioRead_iff (p : GpioReadRequest) :
    whadBoardValidateGpioRead (some p) = .success ↔ valid p := by
  unfold whadBoardValidateGpioRead instStructuralGpioReadRequest
  simp

theorem whadBoardValidateGpioWrite_iff (p : GpioWriteRequest) :
    whadBoardValidateGpioWrite (some p) = .success ↔ valid p := by
  unfold whadBoardValidateGpioWrite instStructuralGpioWriteRequest
  simp

theorem whadBoardValidateGpioConfigured_iff (p : GpioConfigureResponse) :
    whadBoardValidateGpioConfigured (some p) = .success ↔ valid p := by
  unfold whadBoardValidateGpioConfigured instStructuralGpioConfigureResponse
  simp

theorem whadBoardValidateGpioValue_iff (p : GpioReadResponse) :
    whadBoardValidateGpioValue (some p) = .success ↔ valid p := by
  unfold whadBoardValidateGpioValue instStructuralGpioReadResponse
  simp

theorem whadBoardValidateAdcValue_iff (p : AdcReadResponse) :
    whadBoardValidateAdcValue (some p) = .success ↔ valid p := by
  unfold whadBoardValidateAdcValue instStructuralAdcReadResponse
  simp

theorem whadBoardValidateSpiTransfer_iff (p : SpiTransferRequest) :
    whadBoardValidateSpiTransfer (some p) = .success ↔
      valid p ∧ p.readLength.toNat ≤ (default : SpiTransferResponse).rxData.capacity := by
  unfold whadBoardValidateSpiTransfer instStructuralSpiTransferRequest
  simp only [whadBoardValidate_cons, whadBoardValidate_nil, validEnum_iff, decide_eq_true_eq,
    ifPresent_lease, valid_bytesArray, valid_uint32, valid_bool]
  tauto

theorem whadBoardValidateSpiResult_iff (p : SpiTransferResponse) :
    whadBoardValidateSpiResult (some p) = .success ↔ valid p ∧ p.bytesRead.toNat ≤ p.rxData.size := by
  unfold whadBoardValidateSpiResult instStructuralSpiTransferResponse
  simp only [whadBoardValidate_cons, whadBoardValidate_nil, validEnum_iff, decide_eq_true_eq,
    ifPresent_lease, valid_bytesArray, valid_uint32]
  tauto

theorem whadBoardValidateStorageStatus_iff (p : StorageInfoResponse) :
    whadBoardValidateStorageStatus (some p) = .success ↔ valid p := by
  unfold whadBoardValidateStorageStatus instStructuralStorageInfoResponse
  simp

theorem whadBoardValidateStorageReadLog_iff (p : StorageReadLogRequest) :
    whadBoardValidateStorageReadLog (some p) = .success ↔
      valid p ∧ p.maxBytes.toNat ≤ (default : LogChunk).data.capacity := by
  unfold whadBoardValidateStorageReadLog instStructuralStorageReadLogRequest
  simp

theorem whadBoardValidateRuntimeConfig_iff (p : RuntimeConfigResponse) :
    whadBoardValidateRuntimeConfig (some p) = .success ↔ valid p := by
  unfold whadBoardValidateRuntimeConfig instStructuralRuntimeConfigResponse
  simp

theorem whadBoardValidateSetRuntimeConfig_iff (p : SetRuntimeConfigRequest) :
    whadBoardValidateSetRuntimeConfig (some p) = .success ↔ valid p := by
  unfold whadBoardValidateSetRuntimeConfig instStructuralSetRuntimeConfigRequest
    instStructuralOpenPairingWindow instStructuralClearBonds
  simp only [whadBoardValidate_nil, valid_uint32, and_true]
  by_cases hupdate : p.whichOperation = SetRuntimeConfigOperation.updateTag
  · simp [hupdate, whadBoardValidateRuntimeUpdate_iff, SetRuntimeConfigOperation.updateTag,
      SetRuntimeConfigOperation.openPairingWindowTag, SetRuntimeConfigOperation.clearBondsTag]
  · simp [hupdate, or_iff_not_imp_left]

theorem whadBoardValidateSetRuntimeMode_iff (p : SetRuntimeModeRequest) :
    whadBoardValidateSetRuntimeMode (some p) = .success ↔ valid p := by
  unfold whadBoardValidateSetRuntimeMode instStructuralSetRuntimeModeRequest
  simp

theorem whadBoardValidateRemoteProfile_iff (p : RemoteProfileResponse) :
    whadBoardValidateRemoteProfile (some p) = .success ↔ valid p := by
  unfold whadBoardValidateRemoteProfile instStructuralRemoteProfileResponse
  simp

theorem whadBoardValidateRemoteProfileSet_iff (p : RemoteProfileSetRequest) :
    whadBoardValidateRemoteProfileSet (some p) = .success ↔ valid p := by
  unfold whadBoardValidateRemoteProfileSet instStructuralRemoteProfileSetRequest
  simp

theorem whadBoardValidateAudioChunk_iff (p : AudioChunk) :
    whadBoardValidateAudioChunk (some p) = .success ↔
      valid p ∧ p.count.toNat ≤ p.pcm.size ∧ SpanWithin p.offset p.count p.total := by
  unfold whadBoardValidateAudioChunk instStructuralAudioChunk
  simp only [whadBoardValidate_cons, whadBoardValidate_nil, validEnum_iff, validSpan_iff,
    decide_eq_true_eq, accept_eq, valid_bytesArray, valid_uint32, valid_bool]
  tauto

theorem whadBoardValidateInputEvent_iff (p : InputEvent) :
    whadBoardValidateInputEvent (some p) = .success ↔ valid p := by
  unfold whadBoardValidateInputEvent instStructuralInputEvent
  simp

theorem whadBoardValidateGestureEvent_iff (p : GestureEvent) :
    whadBoardValidateGestureEvent (some p) = .success ↔ valid p := by
  unfold whadBoardValidateGestureEvent instStructuralGestureEvent
  simp

theorem whadBoardValidateLogChunk_iff (p : LogChunk) :
    whadBoardValidateLogChunk (some p) = .success ↔
      valid p ∧ p.count.toNat ≤ p.data.size ∧ SpanWithin p.offset p.count p.total := by
  unfold whadBoardValidateLogChunk instStructuralLogChunk
  simp only [whadBoardValidate_cons, whadBoardValidate_nil, validEnum_iff, validSpan_iff,
    decide_eq_true_eq, accept_eq, valid_bytesArray, valid_uint32, valid_bool]
  tauto

theorem whadBoardValidateBoardStatus_iff (p : BoardStatus) :
    whadBoardValidateBoardStatus (some p) = .success ↔ valid p ∧ p.progressPerMille.toNat ≤ 1000 := by
  unfold whadBoardValidateBoardStatus instStructuralBoardStatus
  simp only [whadBoardValidate_cons, whadBoardValidate_nil, validEnum_iff, validString_iff,
    decide_eq_true_eq, UInt32.le_iff_toNat_le, UInt32.reduceToNat, accept_eq,
    valid_uint32, valid_uint64, valid_bool]
  tauto

theorem whadBoardValidateRawPcmDiagnostics_iff (p : RawPcmDiagnosticsRequest) :
    whadBoardValidateRawPcmDiagnostics (some p) = .success ↔
      valid p ∧ p.chunkSize.toNat ≤ (default : AudioChunk).pcm.capacity := by
  unfold whadBoardValidateRawPcmDiagnostics instStructuralRawPcmDiagnosticsRequest
  simp

theorem whadBoardValidateOk_iff {α : Type} [Structural α] (h : ∀ p : α, valid p) (p : α) :
    whadBoardValidateOk (some p) = .success ↔ valid p := by
  simp [whadBoardValidateOk, h p]

/-- With a good lease the resource of the request is not looked at. -/
theorem whadBoardValidateReleasePin_iff (p : ReleasePinRequest) :
    whadBoardValidateReleasePin (some p) = .success ↔
      valid p ∨ p.lease.has = true ∧ valid p.lease.value ∧ ¬valid p.resource := by
  unfold whadBoardValidateReleasePin instStructuralReleasePinRequest
  simp only [whadBoardValidate_nil, valid_uint32, and_true, valid_optional]
  cases hhas : p.lease.has with
  | true => simp [whadBoardValidateLease_iff, ← and_or_left, Classical.em]
  | false => simp

/-- The request carries a good lease, and its own resource is not a declared one. -/
def LeaseHidesResource : {k : BoardKind} → k.Struct → Prop
  | .releasePin, p => p.lease.has = true ∧ valid p.lease.value ∧ ¬valid p.resource
  | _, _ => False

theorem LeaseHidesResource.not_valid {k : BoardKind} {p : k.Struct} (h : LeaseHidesResource p) :
    ¬k.Valid p := by
  cases k <;> simp only [LeaseHidesResource] at h
  rintro ⟨⟨_,hresource,_⟩,_⟩
  exact h.2.2 hresource

section
variable (V : Views) {k : BoardKind} {run : Option k.Struct → WhadResult} {p : k.Struct}

theorem accepts_with {C : Prop} (hc : k.Consistent p = C) (hl : LeaseHidesResource p = False)
    (h : run (some p) = .success ↔ valid p ∧ C) :
    Validator.Accepts V ⟨k,run⟩ p ↔ k.Valid p ∨ LeaseHidesResource p := by
  rw [Validator.accepts_own, h, BoardKind.Valid, hc, hl, or_false]

theorem accepts_plain (hc : k.Consistent p = True) (hl : LeaseHidesResource p = False)
    (h : run (some p) = .success ↔ valid p) :
    Validator.Accepts V ⟨k,run⟩ p ↔ k.Valid p ∨ LeaseHidesResource p :=
  accepts_with V hc hl (by rw [h, and_true])

end

theorem accepts_iff (V : Views) (k : BoardKind) (p : (messageRow k).type.Struct) :
    (validatorOf k).Accepts V p ↔ (messageRow k).type.Valid p ∨ LeaseHidesResource p := by
  cases k with
  | getBoardInfo | listSensors | readSensor | configureStream | stopStream | calibrate
    | getCalibration | getInputState | adcRead | storageInfo | storageAdopt | storageEraseLog
    | getRuntimeConfig | remoteProfileGet | audioConfigure | streamConfigured | audioConfigured =>
    exact accepts_plain V rfl rfl (whadBoardValidateOk_iff (fun _ => by repeat' constructor) p)
  | setOutput => exact accepts_plain V rfl rfl (whadBoardValidateSetOutput_iff p)
  | configureInput => exact accepts_plain V rfl rfl (whadBoardValidateConfigureInput_iff p)
  | i2cTransfer => exact accepts_with V rfl rfl (whadBoardValidateI2cTransfer_iff p)
  | gpioConfigure => exact accepts_plain V rfl rfl (whadBoardValidateGpioConfigure_iff p)
  | gpioRead => exact accepts_plain V rfl rfl (whadBoardValidateGpioRead_iff p)
  | gpioWrite => exact accepts_plain V rfl rfl (whadBoardValidateGpioWrite_iff p)
  | spiTransfer => exact accepts_with V rfl rfl (whadBoardValidateSpiTransfer_iff p)
  | storageReadLog => exact accepts_with V rfl rfl (whadBoardValidateStorageReadLog_iff p)
  | setRuntimeConfig => exact accepts_plain V rfl rfl (whadBoardValidateSetRuntimeConfig_iff p)
  | setRuntimeMode => exact accepts_plain V rfl rfl (whadBoardValidateSetRuntimeMode_iff p)
  | remoteProfileSet => exact accepts_plain V rfl rfl (whadBoardValidateRemoteProfileSet_iff p)
  | releasePin =>
    rw [BoardKind.Valid, show BoardKind.Consistent _ p = True from rfl, and_true]
    exact (Validator.accepts_own V p).trans (whadBoardValidateReleasePin_iff p)
  | rawPcmDiagnostics => exact accepts_with V rfl rfl (whadBoardValidateRawPcmDiagnostics_iff p)
  | commandResult => exact accepts_plain V rfl rfl (whadBoardValidateCommandResult_iff p)
  | boardInfo => exact accepts_plain V rfl rfl (whadBoardValidateBoardInfo_iff p)
  | sensorDescriptor => exact accepts_plain V rfl rfl (whadBoardValidateSensorDescriptor_iff p)
  | sensorSample => exact accepts_with V rfl rfl (whadBoardValidateSensorSample_iff p)
  | calibration => exact accepts_plain V rfl rfl (whadBoardValidateCalibration_iff p)
  | inputState => exact accepts_plain V rfl rfl (whadBoardValidateInputState_iff p)
  | i2cResult => exact accepts_with V rfl rfl (whadBoardValidateI2cResult_iff p)
  | gpioConfigured => exact accepts_plain V rfl rfl (whadBoardValidateGpioConfigured_iff p)
  | gpioValue => exact accepts_plain V rfl rfl (whadBoardValidateGpioValue_iff p)
  | adcValue => exact accepts_plain V rfl rfl (whadBoardValidateAdcValue_iff p)
  | spiResult => exact accepts_with V rfl rfl (whadBoardValidateSpiResult_iff p)
  | storageStatus => exact accepts_plain V rfl rfl (whadBoardValidateStorageStatus_iff p)
  | runtimeConfig => exact accepts_plain V rfl rfl (whadBoardValidateRuntimeConfig_iff p)
  | remoteProfile => exact accepts_plain V rfl rfl (whadBoardValidateRemoteProfile_iff p)
  | audioChunk => exact accepts_with V rfl rfl (whadBoardValidateAudioChunk_iff p)
  | inputEvent => exact accepts_plain V rfl rfl (whadBoardValidateInputEvent_iff p)
  | gestureEvent => exact accepts_plain V rfl rfl (whadBoardValidateGestureEvent_iff p)
  | logChunk => exact accepts_with V rfl rfl (whadBoardValidateLogChunk_iff p)
  | boardStatus => exact accepts_with V rfl rfl (whadBoardValidateBoardStatus_iff p)

/-- The builder of the kind succeeds just on valid structures, and so does its parser on messages
of the kind that hold the structure. -/
def ValidationExact (V : Views) (k : BoardKind) (p : (messageRow k).type.Struct) : Prop :=
  (∀ m r, (whadBoardBuild V k (some m) r (some p)).1 = .success ↔ (messageRow k).type.Valid p) ∧
  ∀ m rid prior, HoldsTag m k.tag → m.board.msg (messageRow k).type = p →
    ((whadBoardParse V k (some m) rid (some prior)).1 = .success ↔ (messageRow k).type.Valid p)

section
variable (V : Views) (k : BoardKind)

theorem whadBoardBuild_success_iff (m : Message) (r : UInt32) (p : (messageRow k).type.Struct) :
    (whadBoardBuild V k (some m) r (some p)).1 = .success ↔ (validatorOf k).Accepts V p := by
  by_cases h : (validatorOf k).Accepts V p
  · simp [whadBoardBuild, whadBoardPack_of_accepts r h, h]
  · simp [whadBoardBuild, whadBoardPack_of_not_accepts r h, h]

theorem whadBoardParse_success_iff (m : Message) (rid : Option UInt32) (prior : (messageRow k).type.Struct)
    (hm : HoldsTag m k.tag) : (whadBoardParse V k (some m) rid (some prior)).1 = .success ↔
      (validatorOf k).Accepts V (m.board.msg (messageRow k).type) := by
  have hsame : (validatorOf k).Accepts V (m.board.msg (messageRow k).field) ↔
      (validatorOf k).Accepts V (m.board.msg (messageRow k).type) := by rw [messageRow_field]
  rw [← messageRow_tag] at hm
  rw [← hsame]
  by_cases h : (validatorOf k).Accepts V (m.board.msg (messageRow k).field)
  · simp [whadBoardParse, whadBoardUnpack_of_accepts rid hm h, h]
  · simp [whadBoardParse, whadBoardUnpack_of_not_accepts rid h, h]

end

/-- Validation is exact but for a release request whose good lease hides an undeclared resource. -/
theorem validation_exact_iff (V : Views) (k : BoardKind) (p : (messageRow k).type.Struct) :
    ValidationExact V k p ↔ ¬LeaseHidesResource p := by
  have haccepts := accepts_iff V k p
  constructor
  · intro hexact hhidden
    have hbuilt := (whadBoardBuild_success_iff V k default 0 p).mpr (haccepts.mpr (.inr hhidden))
    exact hhidden.not_valid ((hexact.1 default 0).mp hbuilt)
  · intro hshown
    have hvalid : (validatorOf k).Accepts V p ↔ (messageRow k).type.Valid p := by
      rw [haccepts, or_iff_left hshown]
    refine ⟨fun m r => (whadBoardBuild_success_iff V k m r p).trans hvalid,fun m rid prior hm hp => ?_⟩
    rw [whadBoardParse_success_iff V k m rid prior hm, hp, hvalid]

/-- A lease on a declared resource, and a resource out of range. -/
def hiddenResource : ReleasePinRequest := ⟨⟨true,⟨⟨1⟩,0,0,0⟩⟩,⟨99⟩,0⟩

theorem releasePin_accepts_undeclared_resource :
    let built := whadBoardBuild Views.plain .releasePin (some default) 7 (some hiddenResource)
    built.1 = .success ∧
      (whadBoardParse Views.plain .releasePin built.2 (some 0) (some default)).1 = .success ∧
      ¬BoardKind.Valid .releasePin hiddenResource ∧
      ¬ValidationExact Views.plain .releasePin hiddenResource := by
  intro built
  have hbuilt : built.1 = .success := by decide
  have hinvalid : ¬BoardKind.Valid .releasePin hiddenResource := by
    rintro ⟨⟨_,hresource,_⟩,_⟩
    rw [valid_enum] at hresource
    exact absurd hresource (by decide)
  exact ⟨hbuilt,by decide,hinvalid,fun hexact => hinvalid ((hexact.1 default 7).mp hbuilt)⟩

end WhadLib.Board
