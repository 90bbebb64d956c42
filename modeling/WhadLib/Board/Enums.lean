import WhadLib.Library.CData

/-! The enumerations of the board protocol, from the generated header. -/
namespace WhadLib.Board
open Library

/-- `board_BoardCommand`. -/
inductive BoardCommand
  | getBoardInfo | listSensors | readSensor | configureStream | stopStream | calibrate
  | getCalibration | setOutput | getInputState | configureInput | i2cTransfer | gpioConfigure
  | gpioRead | gpioWrite | adcRead | spiTransfer | storageInfo | storageAdopt | storageReadLog
  | storageEraseLog | getRuntimeConfig | setRuntimeConfig | setRuntimeMode | remoteProfileGet
  | remoteProfileSet | audioConfigure | releasePin | rawPcmDiagnostics
  deriving DecidableEq, Repr

def BoardCommand.val : BoardCommand → ℕ
  | .getBoardInfo => 0
  | .listSensors => 1
  | .readSensor => 2
  | .configureStream => 3
  | .stopStream => 4
  | .calibrate => 5
  | .getCalibration => 6
  | .setOutput => 7
  | .getInputState => 8
  | .configureInput => 9
  | .i2cTransfer => 10
  | .gpioConfigure => 11
  | .gpioRead => 12
  | .gpioWrite => 13
  | .adcRead => 14
  | .spiTransfer => 15
  | .storageInfo => 16
  | .storageAdopt => 17
  | .storageReadLog => 18
  | .storageEraseLog => 19
  | .getRuntimeConfig => 20
  | .setRuntimeConfig => 21
  | .setRuntimeMode => 22
  | .remoteProfileGet => 23
  | .remoteProfileSet => 24
  | .audioConfigure => 25
  | .releasePin => 26
  | .rawPcmDiagnostics => 27

instance : CEnum BoardCommand where
  val := BoardCommand.val
  constants := [.getBoardInfo,.listSensors,.readSensor,.configureStream,.stopStream,.calibrate,
    .getCalibration,.setOutput,.getInputState,.configureInput,.i2cTransfer,.gpioConfigure,
    .gpioRead,.gpioWrite,.adcRead,.spiTransfer,.storageInfo,.storageAdopt,.storageReadLog,
    .storageEraseLog,.getRuntimeConfig,.setRuntimeConfig,.setRuntimeMode,.remoteProfileGet,
    .remoteProfileSet,.audioConfigure,.releasePin,.rawPcmDiagnostics]
  complete := fun e => by cases e <;> decide
  values := by decide
  min := .getBoardInfo
  max := .rawPcmDiagnostics
  val_min := by decide
  val_max := by decide

/-- `board_BoardResultCode`. -/
inductive BoardResultCode
  | success | invalidArgument | wrongMode | busy | notFound | permissionDenied | notAdopted
  | sensorFault | ioError | internalError | timeout | checksum | overflow | softdeviceMismatch
  | notImplemented
  deriving DecidableEq, Repr

def BoardResultCode.val : BoardResultCode → ℕ
  | .success => 0
  | .invalidArgument => 1
  | .wrongMode => 2
  | .busy => 3
  | .notFound => 4
  | .permissionDenied => 5
  | .notAdopted => 6
  | .sensorFault => 7
  | .ioError => 8
  | .internalError => 9
  | .timeout => 10
  | .checksum => 11
  | .overflow => 12
  | .softdeviceMismatch => 13
  | .notImplemented => 14

instance : CEnum BoardResultCode where
  val := BoardResultCode.val
  constants := [.success,.invalidArgument,.wrongMode,.busy,.notFound,.permissionDenied,
    .notAdopted,.sensorFault,.ioError,.internalError,.timeout,.checksum,.overflow,
    .softdeviceMismatch,.notImplemented]
  complete := fun e => by cases e <;> decide
  values := by decide
  min := .success
  max := .notImplemented
  val_min := by decide
  val_max := by decide

/-- `board_SensorStatusFlag`. -/
inductive SensorStatusFlag
  | sensorStatusNone | sensorStatusCalibrated | sensorStatusCalibrating | sensorStatusStale
  | sensorStatusSaturated | sensorStatusOverrun | sensorStatusMagneticDisturbance
  | sensorStatusSensorFault
  deriving DecidableEq, Repr

def SensorStatusFlag.val : SensorStatusFlag → ℕ
  | .sensorStatusNone => 0
  | .sensorStatusCalibrated => 1
  | .sensorStatusCalibrating => 2
  | .sensorStatusStale => 4
  | .sensorStatusSaturated => 8
  | .sensorStatusOverrun => 16
  | .sensorStatusMagneticDisturbance => 32
  | .sensorStatusSensorFault => 64

/-- `board_BoardStatusCode`. -/
inductive BoardStatusCode
  | boardStatusUnknown | boardStatusResourceDisplaced | boardStatusResourceRestored
  | boardStatusResourceRestoreFailed | boardStatusCalibrationProgress
  | boardStatusStorageProgress | boardStatusQueueOverflow | boardStatusPersistenceUnavailable
  | boardStatusRuntimeSwitching
  deriving DecidableEq, Repr

def BoardStatusCode.val : BoardStatusCode → ℕ
  | .boardStatusUnknown => 0
  | .boardStatusResourceDisplaced => 1
  | .boardStatusResourceRestored => 2
  | .boardStatusResourceRestoreFailed => 3
  | .boardStatusCalibrationProgress => 4
  | .boardStatusStorageProgress => 5
  | .boardStatusQueueOverflow => 6
  | .boardStatusPersistenceUnavailable => 7
  | .boardStatusRuntimeSwitching => 8

instance : CEnum BoardStatusCode where
  val := BoardStatusCode.val
  constants := [.boardStatusUnknown,.boardStatusResourceDisplaced,.boardStatusResourceRestored,
    .boardStatusResourceRestoreFailed,.boardStatusCalibrationProgress,.boardStatusStorageProgress,
    .boardStatusQueueOverflow,.boardStatusPersistenceUnavailable,.boardStatusRuntimeSwitching]
  complete := fun e => by cases e <;> decide
  values := by decide
  min := .boardStatusUnknown
  max := .boardStatusRuntimeSwitching
  val_min := by decide
  val_max := by decide

/-- `board_RuntimeMode`. -/
inductive RuntimeMode
  | runtimeUnknown | runtimeRawWhad | runtimeBleHid
  deriving DecidableEq, Repr

def RuntimeMode.val : RuntimeMode → ℕ
  | .runtimeUnknown => 0
  | .runtimeRawWhad => 1
  | .runtimeBleHid => 2

instance : CEnum RuntimeMode where
  val := RuntimeMode.val
  constants := [.runtimeUnknown,.runtimeRawWhad,.runtimeBleHid]
  complete := fun e => by cases e <;> decide
  values := by decide
  min := .runtimeUnknown
  max := .runtimeBleHid
  val_min := by decide
  val_max := by decide

/-- `board_ResourceKind`. -/
inductive ResourceKind
  | resourceUnknown | resourceGpioPin | resourceI2cBus | resourceSpiBus | resourceAdcChannel
  | resourceOutput | resourceStorage
  deriving DecidableEq, Repr

def ResourceKind.val : ResourceKind → ℕ
  | .resourceUnknown => 0
  | .resourceGpioPin => 1
  | .resourceI2cBus => 2
  | .resourceSpiBus => 3
  | .resourceAdcChannel => 4
  | .resourceOutput => 5
  | .resourceStorage => 6

instance : CEnum ResourceKind where
  val := ResourceKind.val
  constants := [.resourceUnknown,.resourceGpioPin,.resourceI2cBus,.resourceSpiBus,
    .resourceAdcChannel,.resourceOutput,.resourceStorage]
  complete := fun e => by cases e <;> decide
  values := by decide
  min := .resourceUnknown
  max := .resourceStorage
  val_min := by decide
  val_max := by decide

/-- `board_OutputTarget`. -/
inductive OutputTarget
  | outputUnknown | outputBuzzer | outputNeopixel | outputWhiteLed | outputRedLed
  | outputBacklight
  deriving DecidableEq, Repr

def OutputTarget.val : OutputTarget → ℕ
  | .outputUnknown => 0
  | .outputBuzzer => 1
  | .outputNeopixel => 2
  | .outputWhiteLed => 3
  | .outputRedLed => 4
  | .outputBacklight => 5

instance : CEnum OutputTarget where
  val := OutputTarget.val
  constants := [.outputUnknown,.outputBuzzer,.outputNeopixel,.outputWhiteLed,.outputRedLed,
    .outputBacklight]
  complete := fun e => by cases e <;> decide
  values := by decide
  min := .outputUnknown
  max := .outputBacklight
  val_min := by decide
  val_max := by decide

/-- `board_InputMode`. -/
inductive InputMode
  | inputModeUnknown | inputModeDisabled | inputModeGesture | inputModeAirMouse | inputModeRemote
  deriving DecidableEq, Repr

def InputMode.val : InputMode → ℕ
  | .inputModeUnknown => 0
  | .inputModeDisabled => 1
  | .inputModeGesture => 2
  | .inputModeAirMouse => 3
  | .inputModeRemote => 4

instance : CEnum InputMode where
  val := InputMode.val
  constants := [.inputModeUnknown,.inputModeDisabled,.inputModeGesture,.inputModeAirMouse,
    .inputModeRemote]
  complete := fun e => by cases e <;> decide
  values := by decide
  min := .inputModeUnknown
  max := .inputModeRemote
  val_min := by decide
  val_max := by decide

/-- `board_InputSource`. -/
inductive InputSource
  | inputSourceUnknown | inputSourceButtonA | inputSourceButtonB | inputSourceApds
  | inputSourceMicThreshold | inputSourceImu
  deriving DecidableEq, Repr

def InputSource.val : InputSource → ℕ
  | .inputSourceUnknown => 0
  | .inputSourceButtonA => 1
  | .inputSourceButtonB => 2
  | .inputSourceApds => 3
  | .inputSourceMicThreshold => 4
  | .inputSourceImu => 5

instance : CEnum InputSource where
  val := InputSource.val
  constants := [.inputSourceUnknown,.inputSourceButtonA,.inputSourceButtonB,.inputSourceApds,
    .inputSourceMicThreshold,.inputSourceImu]
  complete := fun e => by cases e <;> decide
  values := by decide
  min := .inputSourceUnknown
  max := .inputSourceImu
  val_min := by decide
  val_max := by decide

/-- `board_InputAction`. -/
inductive InputAction
  | inputActionUnknown | inputActionPress | inputActionRelease | inputActionMove
  | inputActionThreshold
  deriving DecidableEq, Repr

def InputAction.val : InputAction → ℕ
  | .inputActionUnknown => 0
  | .inputActionPress => 1
  | .inputActionRelease => 2
  | .inputActionMove => 3
  | .inputActionThreshold => 4

instance : CEnum InputAction where
  val := InputAction.val
  constants := [.inputActionUnknown,.inputActionPress,.inputActionRelease,.inputActionMove,
    .inputActionThreshold]
  complete := fun e => by cases e <;> decide
  values := by decide
  min := .inputActionUnknown
  max := .inputActionThreshold
  val_min := by decide
  val_max := by decide

/-- `board_Gesture`. -/
inductive Gesture
  | gestureUnknown | gestureUp | gestureDown | gestureLeft | gestureRight | gestureNear
  | gestureFar
  deriving DecidableEq, Repr

def Gesture.val : Gesture → ℕ
  | .gestureUnknown => 0
  | .gestureUp => 1
  | .gestureDown => 2
  | .gestureLeft => 3
  | .gestureRight => 4
  | .gestureNear => 5
  | .gestureFar => 6

instance : CEnum Gesture where
  val := Gesture.val
  constants := [.gestureUnknown,.gestureUp,.gestureDown,.gestureLeft,.gestureRight,.gestureNear,
    .gestureFar]
  complete := fun e => by cases e <;> decide
  values := by decide
  min := .gestureUnknown
  max := .gestureFar
  val_min := by decide
  val_max := by decide

/-- `board_GpioDirection`. -/
inductive GpioDirection
  | gpioDirectionUnknown | gpioInput | gpioOutput
  deriving DecidableEq, Repr

def GpioDirection.val : GpioDirection → ℕ
  | .gpioDirectionUnknown => 0
  | .gpioInput => 1
  | .gpioOutput => 2

instance : CEnum GpioDirection where
  val := GpioDirection.val
  constants := [.gpioDirectionUnknown,.gpioInput,.gpioOutput]
  complete := fun e => by cases e <;> decide
  values := by decide
  min := .gpioDirectionUnknown
  max := .gpioOutput
  val_min := by decide
  val_max := by decide

/-- `board_GpioPull`. -/
inductive GpioPull
  | gpioPullUnknown | gpioPullNone | gpioPullUp | gpioPullDown
  deriving DecidableEq, Repr

def GpioPull.val : GpioPull → ℕ
  | .gpioPullUnknown => 0
  | .gpioPullNone => 1
  | .gpioPullUp => 2
  | .gpioPullDown => 3

instance : CEnum GpioPull where
  val := GpioPull.val
  constants := [.gpioPullUnknown,.gpioPullNone,.gpioPullUp,.gpioPullDown]
  complete := fun e => by cases e <;> decide
  values := by decide
  min := .gpioPullUnknown
  max := .gpioPullDown
  val_min := by decide
  val_max := by decide

/-- `board_SpiMode`. -/
inductive SpiMode
  | spiModeUnknown | spiMode0 | spiMode1 | spiMode2 | spiMode3
  deriving DecidableEq, Repr

def SpiMode.val : SpiMode → ℕ
  | .spiModeUnknown => 0
  | .spiMode0 => 1
  | .spiMode1 => 2
  | .spiMode2 => 3
  | .spiMode3 => 4

instance : CEnum SpiMode where
  val := SpiMode.val
  constants := [.spiModeUnknown,.spiMode0,.spiMode1,.spiMode2,.spiMode3]
  complete := fun e => by cases e <;> decide
  values := by decide
  min := .spiModeUnknown
  max := .spiMode3
  val_min := by decide
  val_max := by decide

/-- `board_StorageState`. -/
inductive StorageState
  | storageStateUnknown | storageUnadopted | storageAdopting | storageAdopted | storageFault
  deriving DecidableEq, Repr

def StorageState.val : StorageState → ℕ
  | .storageStateUnknown => 0
  | .storageUnadopted => 1
  | .storageAdopting => 2
  | .storageAdopted => 3
  | .storageFault => 4

instance : CEnum StorageState where
  val := StorageState.val
  constants := [.storageStateUnknown,.storageUnadopted,.storageAdopting,.storageAdopted,
    .storageFault]
  complete := fun e => by cases e <;> decide
  values := by decide
  min := .storageStateUnknown
  max := .storageFault
  val_min := by decide
  val_max := by decide

end WhadLib.Board
