import WhadLib.Board.Enums

/-! The structures of the board protocol, from the generated header, in its order. With each comes
what makes it well formed: every one of its fields is. A `has_` flag and its field are one
`OptionalField`, a `_count` and its array one `RepeatedField`; the field `instance` of the
source is called `inst`. -/
namespace WhadLib.Board
open Library

structure GetBoardInfoRequest where
  dummyField : UInt8
  deriving Inhabited

instance : Structural GetBoardInfoRequest where
  valid p := valid p.dummyField

structure GetInputStateRequest where
  dummyField : UInt8
  deriving Inhabited

instance : Structural GetInputStateRequest where
  valid p := valid p.dummyField

structure GetRuntimeConfigRequest where
  dummyField : UInt8
  deriving Inhabited

instance : Structural GetRuntimeConfigRequest where
  valid p := valid p.dummyField

structure StorageInfoRequest where
  dummyField : UInt8
  deriving Inhabited

instance : Structural StorageInfoRequest where
  valid p := valid p.dummyField

structure AdcReadRequest where
  channel : UInt32
  samples : UInt32
  deriving Inhabited

instance : Structural AdcReadRequest where
  valid p := valid p.channel ∧ valid p.samples

structure AdcReadResponse where
  result : EnumField BoardResultCode
  channel : UInt32
  millivolts : Int32
  raw : Int32
  deriving Inhabited

instance : Structural AdcReadResponse where
  valid p := valid p.result ∧ valid p.channel ∧ valid p.millivolts ∧ valid p.raw

structure AudioChunk where
  sequence : UInt32
  offset : UInt32
  count : UInt32
  pcm : BytesArray 800
  eof : Bool
  total : UInt32
  result : EnumField BoardResultCode
  deriving Inhabited

instance : Structural AudioChunk where
  valid p := valid p.sequence ∧ valid p.offset ∧ valid p.count ∧ valid p.pcm ∧ valid p.eof ∧
    valid p.total ∧ valid p.result

structure AudioConfigureRequest where
  enabled : Bool
  sampleRateHz : UInt32
  gainDbX2 : Int32
  flags : UInt32
  deriving Inhabited

instance : Structural AudioConfigureRequest where
  valid p := valid p.enabled ∧ valid p.sampleRateHz ∧ valid p.gainDbX2 ∧ valid p.flags

structure AudioConfigureResponse where
  actualSampleRateHz : UInt32
  actualGainDbX2 : Int32
  flags : UInt32
  deriving Inhabited

instance : Structural AudioConfigureResponse where
  valid p := valid p.actualSampleRateHz ∧ valid p.actualGainDbX2 ∧ valid p.flags

structure BoardStatus where
  timestampUs : UInt64
  code : EnumField BoardStatusCode
  result : EnumField BoardResultCode
  resource : EnumField ResourceKind
  inst : UInt32
  progressPerMille : UInt32
  terminal : Bool
  detail : CharArray 96
  deriving Inhabited

instance : Structural BoardStatus where
  valid p := valid p.timestampUs ∧ valid p.code ∧ valid p.result ∧ valid p.resource ∧
    valid p.inst ∧ valid p.progressPerMille ∧ valid p.terminal ∧ valid p.detail

structure CalibrateRequest where
  sensorId : UInt32
  flags : UInt32
  persist : Bool
  deriving Inhabited

instance : Structural CalibrateRequest where
  valid p := valid p.sensorId ∧ valid p.flags ∧ valid p.persist

structure CalibrationResponse where
  sensorId : UInt32
  version : UInt32
  calibrationData : BytesArray 128
  persisted : Bool
  crc32 : UInt32
  deriving Inhabited

instance : Structural CalibrationResponse where
  valid p := valid p.sensorId ∧ valid p.version ∧ valid p.calibrationData ∧ valid p.persisted ∧
    valid p.crc32

structure ClearBonds where
  confirmNonce : UInt32
  deriving Inhabited

instance : Structural ClearBonds where
  valid p := valid p.confirmNonce

structure CommandResult where
  command : EnumField BoardCommand
  result : EnumField BoardResultCode
  terminal : Bool
  detail : CharArray 96
  deriving Inhabited

instance : Structural CommandResult where
  valid p := valid p.command ∧ valid p.result ∧ valid p.terminal ∧ valid p.detail

structure ConfigureInputRequest where
  mode : EnumField InputMode
  flags : UInt32
  dwellMs : UInt32
  deadzone : UInt32
  persist : Bool
  deriving Inhabited

instance : Structural ConfigureInputRequest where
  valid p := valid p.mode ∧ valid p.flags ∧ valid p.dwellMs ∧ valid p.deadzone ∧ valid p.persist

structure ConfigureStreamRequest where
  sensorId : UInt32
  rateMillihz : UInt32
  flags : UInt32
  deriving Inhabited

instance : Structural ConfigureStreamRequest where
  valid p := valid p.sensorId ∧ valid p.rateMillihz ∧ valid p.flags

structure ConfigureStreamResponse where
  sensorId : UInt32
  actualRateMillihz : UInt32
  flags : UInt32
  deriving Inhabited

instance : Structural ConfigureStreamResponse where
  valid p := valid p.sensorId ∧ valid p.actualRateMillihz ∧ valid p.flags

structure GestureEvent where
  sequence : UInt32
  timestampUs : UInt64
  gesture : EnumField Gesture
  deriving Inhabited

instance : Structural GestureEvent where
  valid p := valid p.sequence ∧ valid p.timestampUs ∧ valid p.gesture

structure GetBoardInfoResponse where
  boardName : CharArray 32
  hardwareRevision : CharArray 32
  firmwareVersion : CharArray 32
  protocolVariant : CharArray 32
  deviceId : BytesArray 16
  activeRuntime : EnumField RuntimeMode
  implementedSensorCount : UInt32
  deriving Inhabited

instance : Structural GetBoardInfoResponse where
  valid p := valid p.boardName ∧ valid p.hardwareRevision ∧ valid p.firmwareVersion ∧
    valid p.protocolVariant ∧ valid p.deviceId ∧ valid p.activeRuntime ∧
    valid p.implementedSensorCount

structure GetCalibrationRequest where
  sensorId : UInt32
  deriving Inhabited

instance : Structural GetCalibrationRequest where
  valid p := valid p.sensorId

structure InputEvent where
  sequence : UInt32
  timestampUs : UInt64
  source : EnumField InputSource
  action : EnumField InputAction
  value : Int32
  deriving Inhabited

instance : Structural InputEvent where
  valid p := valid p.sequence ∧ valid p.timestampUs ∧ valid p.source ∧ valid p.action ∧
    valid p.value

structure InputStateResponse where
  sequence : UInt32
  timestampUs : UInt64
  buttons : UInt32
  gesture : EnumField Gesture
  microphoneThreshold : Bool
  mode : EnumField InputMode
  deriving Inhabited

instance : Structural InputStateResponse where
  valid p := valid p.sequence ∧ valid p.timestampUs ∧ valid p.buttons ∧ valid p.gesture ∧
    valid p.microphoneThreshold ∧ valid p.mode

structure LeaseToken where
  resource : EnumField ResourceKind
  inst : UInt32
  generation : UInt32
  owner : UInt32
  deriving Inhabited

instance : Structural LeaseToken where
  valid p := valid p.resource ∧ valid p.inst ∧ valid p.generation ∧ valid p.owner

structure ListSensorsRequest where
  cursor : UInt32
  deriving Inhabited

instance : Structural ListSensorsRequest where
  valid p := valid p.cursor

structure LogChunk where
  sequence : UInt32
  cursor : UInt32
  offset : UInt32
  count : UInt32
  data : BytesArray 900
  eof : Bool
  total : UInt32
  result : EnumField BoardResultCode
  deriving Inhabited

instance : Structural LogChunk where
  valid p := valid p.sequence ∧ valid p.cursor ∧ valid p.offset ∧ valid p.count ∧ valid p.data ∧
    valid p.eof ∧ valid p.total ∧ valid p.result

structure OpenPairingWindow where
  durationMs : UInt32
  deriving Inhabited

instance : Structural OpenPairingWindow where
  valid p := valid p.durationMs

structure ProfileMapping where
  source : EnumField InputSource
  action : EnumField InputAction
  hidUsagePage : UInt32
  hidUsage : UInt32
  value : Int32
  deriving Inhabited

instance : Structural ProfileMapping where
  valid p := valid p.source ∧ valid p.action ∧ valid p.hidUsagePage ∧ valid p.hidUsage ∧
    valid p.value

structure RawPcmDiagnosticsRequest where
  durationMs : UInt32
  chunkSize : UInt32
  deriving Inhabited

instance : Structural RawPcmDiagnosticsRequest where
  valid p := valid p.durationMs ∧ valid p.chunkSize

structure ReadSensorRequest where
  sensorId : UInt32
  deriving Inhabited

instance : Structural ReadSensorRequest where
  valid p := valid p.sensorId

structure RemoteProfileGetRequest where
  profileId : UInt32
  deriving Inhabited

instance : Structural RemoteProfileGetRequest where
  valid p := valid p.profileId

structure RuntimeConfigResponse where
  activeRuntime : EnumField RuntimeMode
  persistedRuntime : EnumField RuntimeMode
  persistenceAvailable : Bool
  bleAdvertising : Bool
  blePairable : Bool
  bleConnected : Bool
  bondCount : UInt32
  eventLogFilter : UInt32
  rawPacketLogFilter : UInt32
  deriving Inhabited

instance : Structural RuntimeConfigResponse where
  valid p := valid p.activeRuntime ∧ valid p.persistedRuntime ∧ valid p.persistenceAvailable ∧
    valid p.bleAdvertising ∧ valid p.blePairable ∧ valid p.bleConnected ∧ valid p.bondCount ∧
    valid p.eventLogFilter ∧ valid p.rawPacketLogFilter

structure RuntimeConfigUpdate where
  persistedRuntime : OptionalField (EnumField RuntimeMode)
  eventLogFilter : OptionalField UInt32
  rawPacketLogFilter : OptionalField UInt32
  deriving Inhabited

instance : Structural RuntimeConfigUpdate where
  valid p := valid p.persistedRuntime ∧ valid p.eventLogFilter ∧ valid p.rawPacketLogFilter

structure SensorDescriptor where
  sensorId : UInt32
  name : CharArray 32
  unit : CharArray 32
  valueCount : UInt32
  componentNames : RepeatedField (CharArray 16) 10
  defaultRateMillihz : UInt32
  minRateMillihz : UInt32
  maxRateMillihz : UInt32
  supportedRatesMillihz : RepeatedField UInt32 8
  deriving Inhabited

instance : Structural SensorDescriptor where
  valid p := valid p.sensorId ∧ valid p.name ∧ valid p.unit ∧ valid p.valueCount ∧
    valid p.componentNames ∧ valid p.defaultRateMillihz ∧ valid p.minRateMillihz ∧
    valid p.maxRateMillihz ∧ valid p.supportedRatesMillihz

structure SensorSample where
  sensorId : UInt32
  sequence : UInt32
  timestampUs : UInt64
  status : UInt32
  values : RepeatedField Int32 10
  deriving Inhabited

instance : Structural SensorSample where
  valid p := valid p.sensorId ∧ valid p.sequence ∧ valid p.timestampUs ∧ valid p.status ∧
    valid p.values

structure SetRuntimeModeRequest where
  runtime : EnumField RuntimeMode
  persist : Bool
  reboot : Bool
  deriving Inhabited

instance : Structural SetRuntimeModeRequest where
  valid p := valid p.runtime ∧ valid p.persist ∧ valid p.reboot

structure StopStreamRequest where
  sensorId : UInt32
  deriving Inhabited

instance : Structural StopStreamRequest where
  valid p := valid p.sensorId

structure StorageAdoptRequest where
  confirmNonce : UInt32
  force : Bool
  deriving Inhabited

instance : Structural StorageAdoptRequest where
  valid p := valid p.confirmNonce ∧ valid p.force

structure StorageEraseLogRequest where
  confirmNonce : UInt32
  deriving Inhabited

instance : Structural StorageEraseLogRequest where
  valid p := valid p.confirmNonce

structure StorageInfoResponse where
  state : EnumField StorageState
  capacityBytes : UInt32
  usedBytes : UInt32
  logRecords : UInt32
  eraseSize : UInt32
  jedecId : Vector UInt8 3
  deriving Inhabited

instance : Structural StorageInfoResponse where
  valid p := valid p.state ∧ valid p.capacityBytes ∧ valid p.usedBytes ∧ valid p.logRecords ∧
    valid p.eraseSize ∧ valid p.jedecId

structure StorageReadLogRequest where
  cursor : UInt32
  maxBytes : UInt32
  deriving Inhabited

instance : Structural StorageReadLogRequest where
  valid p := valid p.cursor ∧ valid p.maxBytes

structure GpioConfigureRequest where
  pin : UInt32
  direction : EnumField GpioDirection
  pull : EnumField GpioPull
  initialValue : Bool
  force : Bool
  lease : OptionalField LeaseToken
  deriving Inhabited

instance : Structural GpioConfigureRequest where
  valid p := valid p.pin ∧ valid p.direction ∧ valid p.pull ∧ valid p.initialValue ∧
    valid p.force ∧ valid p.lease

structure GpioConfigureResponse where
  result : EnumField BoardResultCode
  pin : UInt32
  lease : OptionalField LeaseToken
  deriving Inhabited

instance : Structural GpioConfigureResponse where
  valid p := valid p.result ∧ valid p.pin ∧ valid p.lease

structure GpioReadRequest where
  pin : UInt32
  force : Bool
  lease : OptionalField LeaseToken
  deriving Inhabited

instance : Structural GpioReadRequest where
  valid p := valid p.pin ∧ valid p.force ∧ valid p.lease

structure GpioReadResponse where
  result : EnumField BoardResultCode
  pin : UInt32
  value : Bool
  lease : OptionalField LeaseToken
  deriving Inhabited

instance : Structural GpioReadResponse where
  valid p := valid p.result ∧ valid p.pin ∧ valid p.value ∧ valid p.lease

structure GpioWriteRequest where
  pin : UInt32
  value : Bool
  lease : OptionalField LeaseToken
  deriving Inhabited

instance : Structural GpioWriteRequest where
  valid p := valid p.pin ∧ valid p.value ∧ valid p.lease

structure I2cTransferRequest where
  address : UInt32
  writeData : BytesArray 512
  readLength : UInt32
  repeatedStart : Bool
  frequencyHz : UInt32
  force : Bool
  lease : OptionalField LeaseToken
  deriving Inhabited

instance : Structural I2cTransferRequest where
  valid p := valid p.address ∧ valid p.writeData ∧ valid p.readLength ∧ valid p.repeatedStart ∧
    valid p.frequencyHz ∧ valid p.force ∧ valid p.lease

structure I2cTransferResponse where
  result : EnumField BoardResultCode
  readData : BytesArray 512
  lease : OptionalField LeaseToken
  bytesWritten : UInt32
  bytesRead : UInt32
  deriving Inhabited

instance : Structural I2cTransferResponse where
  valid p := valid p.result ∧ valid p.readData ∧ valid p.lease ∧ valid p.bytesWritten ∧
    valid p.bytesRead

structure ListSensorsResponse where
  descriptor : OptionalField SensorDescriptor
  nextCursor : UInt32
  eof : Bool
  deriving Inhabited

instance : Structural ListSensorsResponse where
  valid p := valid p.descriptor ∧ valid p.nextCursor ∧ valid p.eof

structure ReleasePinRequest where
  lease : OptionalField LeaseToken
  resource : EnumField ResourceKind
  inst : UInt32
  deriving Inhabited

instance : Structural ReleasePinRequest where
  valid p := valid p.lease ∧ valid p.resource ∧ valid p.inst

structure RemoteProfile where
  profileId : UInt32
  name : CharArray 32
  sensitivity : UInt32
  deadzone : UInt32
  pointerMode : Bool
  tiltMode : Bool
  mappings : RepeatedField ProfileMapping 16
  deriving Inhabited

instance : Structural RemoteProfile where
  valid p := valid p.profileId ∧ valid p.name ∧ valid p.sensitivity ∧ valid p.deadzone ∧
    valid p.pointerMode ∧ valid p.tiltMode ∧ valid p.mappings

structure SetOutputRequest where
  target : EnumField OutputTarget
  value : UInt32
  durationMs : UInt32
  stop : Bool
  force : Bool
  lease : OptionalField LeaseToken
  deriving Inhabited

instance : Structural SetOutputRequest where
  valid p := valid p.target ∧ valid p.value ∧ valid p.durationMs ∧ valid p.stop ∧ valid p.force ∧
    valid p.lease

/-- `board_SetRuntimeConfigRequest`'s union: what it reads as through each member. -/
structure SetRuntimeConfigOperation where
  update : RuntimeConfigUpdate
  openPairingWindow : OpenPairingWindow
  clearBonds : ClearBonds
  deriving Inhabited

/-- `board_SetRuntimeConfigRequest_update_tag` and the other tags of the union. -/
def SetRuntimeConfigOperation.updateTag : ℕ := 1
def SetRuntimeConfigOperation.openPairingWindowTag : ℕ := 2
def SetRuntimeConfigOperation.clearBondsTag : ℕ := 3

structure SetRuntimeConfigRequest where
  whichOperation : ℕ
  operation : SetRuntimeConfigOperation
  deriving Inhabited

/-- A declared tag, and a valid member for it. -/
instance : Structural SetRuntimeConfigRequest where
  valid p :=
    p.whichOperation = SetRuntimeConfigOperation.updateTag ∧ valid p.operation.update ∨
      p.whichOperation = SetRuntimeConfigOperation.openPairingWindowTag ∧ valid p.operation.openPairingWindow ∨
      p.whichOperation = SetRuntimeConfigOperation.clearBondsTag ∧ valid p.operation.clearBonds

structure SpiTransferRequest where
  csPin : UInt32
  frequencyHz : UInt32
  mode : EnumField SpiMode
  txData : BytesArray 512
  readLength : UInt32
  force : Bool
  lease : OptionalField LeaseToken
  deriving Inhabited

instance : Structural SpiTransferRequest where
  valid p := valid p.csPin ∧ valid p.frequencyHz ∧ valid p.mode ∧ valid p.txData ∧
    valid p.readLength ∧ valid p.force ∧ valid p.lease

structure SpiTransferResponse where
  result : EnumField BoardResultCode
  rxData : BytesArray 512
  lease : OptionalField LeaseToken
  bytesWritten : UInt32
  bytesRead : UInt32
  deriving Inhabited

instance : Structural SpiTransferResponse where
  valid p := valid p.result ∧ valid p.rxData ∧ valid p.lease ∧ valid p.bytesWritten ∧
    valid p.bytesRead

structure RemoteProfileResponse where
  profile : OptionalField RemoteProfile
  deriving Inhabited

instance : Structural RemoteProfileResponse where
  valid p := valid p.profile

structure RemoteProfileSetRequest where
  profile : OptionalField RemoteProfile
  persist : Bool
  deriving Inhabited

instance : Structural RemoteProfileSetRequest where
  valid p := valid p.profile ∧ valid p.persist

/-- The messages of the board domain, by the member of the union that holds them. -/
inductive BoardKind
  | getBoardInfo | listSensors | readSensor | configureStream | stopStream | calibrate
  | getCalibration | setOutput | getInputState | configureInput | i2cTransfer | gpioConfigure
  | gpioRead | gpioWrite | adcRead | spiTransfer | storageInfo | storageAdopt | storageReadLog
  | storageEraseLog | getRuntimeConfig | setRuntimeConfig | setRuntimeMode | remoteProfileGet
  | remoteProfileSet | audioConfigure | releasePin | rawPcmDiagnostics | commandResult
  | boardInfo | sensorDescriptor | sensorSample | streamConfigured | calibration | inputState
  | i2cResult | gpioConfigured | gpioValue | adcValue | spiResult | storageStatus | runtimeConfig
  | remoteProfile | audioConfigured | audioChunk | inputEvent | gestureEvent | logChunk
  | boardStatus
  deriving DecidableEq, Repr

/-- The types of the members of the union `board_Message.msg`. -/
abbrev BoardKind.Struct : BoardKind → Type
  | .getBoardInfo => GetBoardInfoRequest
  | .listSensors => ListSensorsRequest
  | .readSensor => ReadSensorRequest
  | .configureStream => ConfigureStreamRequest
  | .stopStream => StopStreamRequest
  | .calibrate => CalibrateRequest
  | .getCalibration => GetCalibrationRequest
  | .setOutput => SetOutputRequest
  | .getInputState => GetInputStateRequest
  | .configureInput => ConfigureInputRequest
  | .i2cTransfer => I2cTransferRequest
  | .gpioConfigure => GpioConfigureRequest
  | .gpioRead => GpioReadRequest
  | .gpioWrite => GpioWriteRequest
  | .adcRead => AdcReadRequest
  | .spiTransfer => SpiTransferRequest
  | .storageInfo => StorageInfoRequest
  | .storageAdopt => StorageAdoptRequest
  | .storageReadLog => StorageReadLogRequest
  | .storageEraseLog => StorageEraseLogRequest
  | .getRuntimeConfig => GetRuntimeConfigRequest
  | .setRuntimeConfig => SetRuntimeConfigRequest
  | .setRuntimeMode => SetRuntimeModeRequest
  | .remoteProfileGet => RemoteProfileGetRequest
  | .remoteProfileSet => RemoteProfileSetRequest
  | .audioConfigure => AudioConfigureRequest
  | .releasePin => ReleasePinRequest
  | .rawPcmDiagnostics => RawPcmDiagnosticsRequest
  | .commandResult => CommandResult
  | .boardInfo => GetBoardInfoResponse
  | .sensorDescriptor => ListSensorsResponse
  | .sensorSample => SensorSample
  | .streamConfigured => ConfigureStreamResponse
  | .calibration => CalibrationResponse
  | .inputState => InputStateResponse
  | .i2cResult => I2cTransferResponse
  | .gpioConfigured => GpioConfigureResponse
  | .gpioValue => GpioReadResponse
  | .adcValue => AdcReadResponse
  | .spiResult => SpiTransferResponse
  | .storageStatus => StorageInfoResponse
  | .runtimeConfig => RuntimeConfigResponse
  | .remoteProfile => RemoteProfileResponse
  | .audioConfigured => AudioConfigureResponse
  | .audioChunk => AudioChunk
  | .inputEvent => InputEvent
  | .gestureEvent => GestureEvent
  | .logChunk => LogChunk
  | .boardStatus => BoardStatus

instance (k : BoardKind) : Inhabited k.Struct := by
  cases k <;> exact inferInstance

/-- `board_Message_*_tag`. -/
def BoardKind.tag : BoardKind → ℕ
  | .getBoardInfo => 2
  | .listSensors => 3
  | .readSensor => 4
  | .configureStream => 5
  | .stopStream => 6
  | .calibrate => 7
  | .getCalibration => 8
  | .setOutput => 9
  | .getInputState => 10
  | .configureInput => 11
  | .i2cTransfer => 12
  | .gpioConfigure => 13
  | .gpioRead => 14
  | .gpioWrite => 15
  | .adcRead => 16
  | .spiTransfer => 17
  | .storageInfo => 18
  | .storageAdopt => 19
  | .storageReadLog => 20
  | .storageEraseLog => 21
  | .getRuntimeConfig => 22
  | .setRuntimeConfig => 23
  | .setRuntimeMode => 24
  | .remoteProfileGet => 25
  | .remoteProfileSet => 26
  | .audioConfigure => 27
  | .releasePin => 28
  | .rawPcmDiagnostics => 29
  | .commandResult => 30
  | .boardInfo => 31
  | .sensorDescriptor => 32
  | .sensorSample => 33
  | .streamConfigured => 34
  | .calibration => 35
  | .inputState => 36
  | .i2cResult => 37
  | .gpioConfigured => 38
  | .gpioValue => 39
  | .adcValue => 40
  | .spiResult => 41
  | .storageStatus => 42
  | .runtimeConfig => 43
  | .remoteProfile => 44
  | .audioConfigured => 45
  | .audioChunk => 46
  | .inputEvent => 47
  | .gestureEvent => 48
  | .logChunk => 49
  | .boardStatus => 50

end WhadLib.Board
