import WhadLib.Types
import WhadLib.Board.Structs

/-! The validators of the board domain. Each is a chain of checks that end in an error, the first
one for `NULL`, and the last step decides; `none` stands for `NULL`. -/
namespace WhadLib.Board
open Library

/-- The constants `_board_*_MIN` and `_board_*_MAX` of the header. -/
def enumMin (E : Type) [CEnum E] : ℤ := CEnum.val (CEnum.min : E)
def enumMax (E : Type) [CEnum E] : ℤ := CEnum.val (CEnum.max : E)

/-- `memchr` finds a terminator within the capacity. -/
def whadBoardValidString {n : ℕ} (text : CharArray n) : Bool := text.chars.toList.contains 0

def whadBoardValidEnum (value min max : ℤ) : Bool := min ≤ value && value ≤ max

def whadBoardValidSpan (offset count total : UInt32) : Bool :=
  let stop : UInt64 := offset.toUInt64 + count.toUInt64
  total == 0 || stop ≤ total.toUInt64

/-- The shape of a validator: the argument is not `NULL`, all checks pass, and `last` decides. -/
def whadBoardValidate {α : Type} (checks : List (α → Bool)) (last : α → WhadResult) : Option α → WhadResult
  | none => .error
  | some p => if checks.all fun check => check p then last p else .error

/-- A field with a presence flag is looked at when it is present. -/
def ifPresent {α : Type} (x : OptionalField α) (validate : Option α → WhadResult) : WhadResult :=
  if x.has then validate (some x.value) else .success

def accept {α : Type} (_ : α) : WhadResult := .success

def whadBoardValidateOk {α : Type} : Option α → WhadResult := whadBoardValidate [] accept

def whadBoardValidateLease : Option LeaseToken → WhadResult :=
  whadBoardValidate
    [fun p => whadBoardValidEnum p.resource.raw (enumMin ResourceKind) (enumMax ResourceKind)] accept

def whadBoardValidateCommandResult : Option CommandResult → WhadResult :=
  whadBoardValidate
    [fun p => whadBoardValidEnum p.command.raw (enumMin BoardCommand) (enumMax BoardCommand),
      fun p => whadBoardValidEnum p.result.raw (enumMin BoardResultCode) (enumMax BoardResultCode),
      fun p => whadBoardValidString p.detail] accept

def whadBoardValidateBoardInfo : Option GetBoardInfoResponse → WhadResult :=
  whadBoardValidate
    [fun p => whadBoardValidString p.boardName,
      fun p => whadBoardValidString p.hardwareRevision,
      fun p => whadBoardValidString p.firmwareVersion,
      fun p => whadBoardValidString p.protocolVariant,
      fun p => p.deviceId.size ≤ p.deviceId.capacity,
      fun p => whadBoardValidEnum p.activeRuntime.raw (enumMin RuntimeMode) (enumMax RuntimeMode)] accept

def whadBoardValidateSensorDescriptorValue : Option SensorDescriptor → WhadResult :=
  whadBoardValidate
    [fun p => whadBoardValidString p.name,
      fun p => whadBoardValidString p.unit,
      fun p => p.componentNames.count ≤ 10,
      fun p => (p.componentNames.items.toList.take p.componentNames.count).all whadBoardValidString,
      fun p => p.supportedRatesMillihz.count ≤ 8] accept

def whadBoardValidateSensorDescriptor : Option ListSensorsResponse → WhadResult :=
  whadBoardValidate [] fun p => ifPresent p.descriptor whadBoardValidateSensorDescriptorValue

/-- The flags a status may hold. -/
def sensorStatusMask : UInt32 :=
  UInt32.ofNat SensorStatusFlag.sensorStatusSensorFault.val |||
    UInt32.ofNat SensorStatusFlag.sensorStatusMagneticDisturbance.val |||
    UInt32.ofNat SensorStatusFlag.sensorStatusOverrun.val |||
    UInt32.ofNat SensorStatusFlag.sensorStatusSaturated.val |||
    UInt32.ofNat SensorStatusFlag.sensorStatusStale.val |||
    UInt32.ofNat SensorStatusFlag.sensorStatusCalibrating.val |||
    UInt32.ofNat SensorStatusFlag.sensorStatusCalibrated.val

def whadBoardValidateSensorSample : Option SensorSample → WhadResult :=
  whadBoardValidate
    [fun p => p.values.count ≤ 10,
      fun p => p.status &&& ~~~sensorStatusMask == 0] accept

def whadBoardValidateCalibration : Option CalibrationResponse → WhadResult :=
  whadBoardValidate [fun p => p.calibrationData.size ≤ p.calibrationData.capacity] accept

def whadBoardValidateSetOutput : Option SetOutputRequest → WhadResult :=
  whadBoardValidate
    [fun p => whadBoardValidEnum p.target.raw (enumMin OutputTarget) (enumMax OutputTarget)]
    fun p => ifPresent p.lease whadBoardValidateLease

def whadBoardValidateInputState : Option InputStateResponse → WhadResult :=
  whadBoardValidate
    [fun p => whadBoardValidEnum p.gesture.raw (enumMin Gesture) (enumMax Gesture),
      fun p => whadBoardValidEnum p.mode.raw (enumMin InputMode) (enumMax InputMode)] accept

def whadBoardValidateConfigureInput : Option ConfigureInputRequest → WhadResult :=
  whadBoardValidate [fun p => whadBoardValidEnum p.mode.raw (enumMin InputMode) (enumMax InputMode)] accept

def whadBoardValidateI2cTransfer : Option I2cTransferRequest → WhadResult :=
  whadBoardValidate
    [fun p => p.writeData.size ≤ p.writeData.capacity,
      fun p => p.readLength.toNat ≤ (default : I2cTransferResponse).readData.capacity]
    fun p => ifPresent p.lease whadBoardValidateLease

def whadBoardValidateI2cResult : Option I2cTransferResponse → WhadResult :=
  whadBoardValidate
    [fun p => whadBoardValidEnum p.result.raw (enumMin BoardResultCode) (enumMax BoardResultCode),
      fun p => p.readData.size ≤ p.readData.capacity,
      fun p => p.bytesRead.toNat ≤ p.readData.size]
    fun p => ifPresent p.lease whadBoardValidateLease

def whadBoardValidateGpioConfigure : Option GpioConfigureRequest → WhadResult :=
  whadBoardValidate
    [fun p => whadBoardValidEnum p.direction.raw (enumMin GpioDirection) (enumMax GpioDirection),
      fun p => whadBoardValidEnum p.pull.raw (enumMin GpioPull) (enumMax GpioPull)]
    fun p => ifPresent p.lease whadBoardValidateLease

def whadBoardValidateGpioRead : Option GpioReadRequest → WhadResult :=
  whadBoardValidate [] fun p => ifPresent p.lease whadBoardValidateLease

def whadBoardValidateGpioWrite : Option GpioWriteRequest → WhadResult :=
  whadBoardValidate [] fun p => ifPresent p.lease whadBoardValidateLease

def whadBoardValidateGpioConfigured : Option GpioConfigureResponse → WhadResult :=
  whadBoardValidate
    [fun p => whadBoardValidEnum p.result.raw (enumMin BoardResultCode) (enumMax BoardResultCode)]
    fun p => ifPresent p.lease whadBoardValidateLease

def whadBoardValidateGpioValue : Option GpioReadResponse → WhadResult :=
  whadBoardValidate
    [fun p => whadBoardValidEnum p.result.raw (enumMin BoardResultCode) (enumMax BoardResultCode)]
    fun p => ifPresent p.lease whadBoardValidateLease

def whadBoardValidateAdcValue : Option AdcReadResponse → WhadResult :=
  whadBoardValidate
    [fun p => whadBoardValidEnum p.result.raw (enumMin BoardResultCode) (enumMax BoardResultCode)] accept

def whadBoardValidateSpiTransfer : Option SpiTransferRequest → WhadResult :=
  whadBoardValidate
    [fun p => whadBoardValidEnum p.mode.raw (enumMin SpiMode) (enumMax SpiMode),
      fun p => p.txData.size ≤ p.txData.capacity,
      fun p => p.readLength.toNat ≤ (default : SpiTransferResponse).rxData.capacity]
    fun p => ifPresent p.lease whadBoardValidateLease

def whadBoardValidateSpiResult : Option SpiTransferResponse → WhadResult :=
  whadBoardValidate
    [fun p => whadBoardValidEnum p.result.raw (enumMin BoardResultCode) (enumMax BoardResultCode),
      fun p => p.rxData.size ≤ p.rxData.capacity,
      fun p => p.bytesRead.toNat ≤ p.rxData.size]
    fun p => ifPresent p.lease whadBoardValidateLease

def whadBoardValidateStorageStatus : Option StorageInfoResponse → WhadResult :=
  whadBoardValidate
    [fun p => whadBoardValidEnum p.state.raw (enumMin StorageState) (enumMax StorageState)] accept

def whadBoardValidateStorageReadLog : Option StorageReadLogRequest → WhadResult :=
  whadBoardValidate [fun p => p.maxBytes.toNat ≤ (default : LogChunk).data.capacity] accept

def whadBoardValidateRuntimeConfig : Option RuntimeConfigResponse → WhadResult :=
  whadBoardValidate
    [fun p => whadBoardValidEnum p.activeRuntime.raw (enumMin RuntimeMode) (enumMax RuntimeMode),
      fun p => whadBoardValidEnum p.persistedRuntime.raw (enumMin RuntimeMode) (enumMax RuntimeMode)] accept

def whadBoardValidateRuntimeUpdate : Option RuntimeConfigUpdate → WhadResult :=
  whadBoardValidate
    [fun p => !(p.persistedRuntime.has &&
      !whadBoardValidEnum p.persistedRuntime.value.raw (enumMin RuntimeMode) (enumMax RuntimeMode))] accept

def whadBoardValidateSetRuntimeConfig : Option SetRuntimeConfigRequest → WhadResult :=
  whadBoardValidate [] fun p =>
    if p.whichOperation = SetRuntimeConfigOperation.updateTag then
      whadBoardValidateRuntimeUpdate (some p.operation.update)
    else if p.whichOperation = SetRuntimeConfigOperation.openPairingWindowTag ∨
        p.whichOperation = SetRuntimeConfigOperation.clearBondsTag then .success
    else .error

def whadBoardValidateSetRuntimeMode : Option SetRuntimeModeRequest → WhadResult :=
  whadBoardValidate
    [fun p => whadBoardValidEnum p.runtime.raw (enumMin RuntimeMode) (enumMax RuntimeMode)] accept

def whadBoardValidateProfileMapping : Option ProfileMapping → WhadResult :=
  whadBoardValidate
    [fun p => whadBoardValidEnum p.source.raw (enumMin InputSource) (enumMax InputSource),
      fun p => whadBoardValidEnum p.action.raw (enumMin InputAction) (enumMax InputAction)] accept

def whadBoardValidateProfile : Option RemoteProfile → WhadResult :=
  whadBoardValidate
    [fun p => whadBoardValidString p.name,
      fun p => p.mappings.count ≤ 16,
      fun p => (p.mappings.items.toList.take p.mappings.count).all fun mapping =>
        whadBoardValidateProfileMapping (some mapping) == .success] accept

def whadBoardValidateRemoteProfile : Option RemoteProfileResponse → WhadResult :=
  whadBoardValidate [] fun p => ifPresent p.profile whadBoardValidateProfile

def whadBoardValidateRemoteProfileSet : Option RemoteProfileSetRequest → WhadResult :=
  whadBoardValidate [] fun p => ifPresent p.profile whadBoardValidateProfile

/-- Unlike its siblings it looks at the lease first: the check of the resource is reached only
without a lease. -/
def whadBoardValidateReleasePin : Option ReleasePinRequest → WhadResult :=
  whadBoardValidate [] fun p =>
    if p.lease.has then whadBoardValidateLease (some p.lease.value)
    else if whadBoardValidEnum p.resource.raw (enumMin ResourceKind) (enumMax ResourceKind) then .success
    else .error

def whadBoardValidateAudioChunk : Option AudioChunk → WhadResult :=
  whadBoardValidate
    [fun p => whadBoardValidEnum p.result.raw (enumMin BoardResultCode) (enumMax BoardResultCode),
      fun p => p.pcm.size ≤ p.pcm.capacity,
      fun p => p.count.toNat ≤ p.pcm.size,
      fun p => whadBoardValidSpan p.offset p.count p.total] accept

def whadBoardValidateInputEvent : Option InputEvent → WhadResult :=
  whadBoardValidate
    [fun p => whadBoardValidEnum p.source.raw (enumMin InputSource) (enumMax InputSource),
      fun p => whadBoardValidEnum p.action.raw (enumMin InputAction) (enumMax InputAction)] accept

def whadBoardValidateGestureEvent : Option GestureEvent → WhadResult :=
  whadBoardValidate [fun p => whadBoardValidEnum p.gesture.raw (enumMin Gesture) (enumMax Gesture)] accept

def whadBoardValidateLogChunk : Option LogChunk → WhadResult :=
  whadBoardValidate
    [fun p => whadBoardValidEnum p.result.raw (enumMin BoardResultCode) (enumMax BoardResultCode),
      fun p => p.data.size ≤ p.data.capacity,
      fun p => p.count.toNat ≤ p.data.size,
      fun p => whadBoardValidSpan p.offset p.count p.total] accept

def whadBoardValidateBoardStatus : Option BoardStatus → WhadResult :=
  whadBoardValidate
    [fun p => whadBoardValidEnum p.code.raw (enumMin BoardStatusCode) (enumMax BoardStatusCode),
      fun p => whadBoardValidEnum p.result.raw (enumMin BoardResultCode) (enumMax BoardResultCode),
      fun p => whadBoardValidEnum p.resource.raw (enumMin ResourceKind) (enumMax ResourceKind),
      fun p => p.progressPerMille ≤ 1000,
      fun p => whadBoardValidString p.detail] accept

def whadBoardValidateRawPcmDiagnostics : Option RawPcmDiagnosticsRequest → WhadResult :=
  whadBoardValidate [fun p => p.chunkSize.toNat ≤ (default : AudioChunk).pcm.capacity] accept

end WhadLib.Board
