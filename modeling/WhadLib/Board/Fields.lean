import WhadLib.SizedFields
import WhadLib.Board.Structs

/-! The field lists of the board protocol, from the generated header: which fields a message has, in
which order, with which tags and types. -/
namespace WhadLib.Board
open Library

def LeaseToken.fieldlist (p : LeaseToken) : SizedFields :=
  .enum 1 p.resource <| .uint32 2 p.inst <| .uint32 3 p.generation <| .uint32 4 p.owner <| .nil

def CommandResult.fieldlist (p : CommandResult) : SizedFields :=
  .enum 1 p.command <| .enum 2 p.result <| .bool 3 p.terminal <| .string 4 p.detail <| .nil

def GetBoardInfoRequest.fieldlist (_ : GetBoardInfoRequest) : SizedFields :=
  .nil

def GetBoardInfoResponse.fieldlist (p : GetBoardInfoResponse) : SizedFields :=
  .string 1 p.boardName <| .string 2 p.hardwareRevision <| .string 3 p.firmwareVersion <|
  .string 4 p.protocolVariant <| .bytes 5 p.deviceId <| .enum 6 p.activeRuntime <|
  .uint32 7 p.implementedSensorCount <| .nil

def ListSensorsRequest.fieldlist (p : ListSensorsRequest) : SizedFields :=
  .uint32 1 p.cursor <| .nil

def SensorDescriptor.fieldlist (p : SensorDescriptor) : SizedFields :=
  .uint32 1 p.sensorId <| .string 2 p.name <| .string 3 p.unit <| .uint32 4 p.valueCount <|
  .repeated p.componentNames (.item 5) 17 (fun _ _ => rfl) <| .uint32 6 p.defaultRateMillihz <|
  .uint32 7 p.minRateMillihz <| .uint32 8 p.maxRateMillihz <|
  .packed 9 p.supportedRatesMillihz (fun v => varint v.toNat) 5 varint_uint32_length <| .nil

def ListSensorsResponse.fieldlist (p : ListSensorsResponse) : SizedFields :=
  .message 1 p.descriptor.has p.descriptor.value.fieldlist <| .uint32 2 p.nextCursor <|
  .bool 3 p.eof <| .nil

def ReadSensorRequest.fieldlist (p : ReadSensorRequest) : SizedFields :=
  .uint32 1 p.sensorId <| .nil

def ConfigureStreamRequest.fieldlist (p : ConfigureStreamRequest) : SizedFields :=
  .uint32 1 p.sensorId <| .uint32 2 p.rateMillihz <| .uint32 3 p.flags <| .nil

def ConfigureStreamResponse.fieldlist (p : ConfigureStreamResponse) : SizedFields :=
  .uint32 1 p.sensorId <| .uint32 2 p.actualRateMillihz <| .uint32 3 p.flags <| .nil

def StopStreamRequest.fieldlist (p : StopStreamRequest) : SizedFields :=
  .uint32 1 p.sensorId <| .nil

def CalibrateRequest.fieldlist (p : CalibrateRequest) : SizedFields :=
  .uint32 1 p.sensorId <| .uint32 2 p.flags <| .bool 3 p.persist <| .nil

def GetCalibrationRequest.fieldlist (p : GetCalibrationRequest) : SizedFields :=
  .uint32 1 p.sensorId <| .nil

def CalibrationResponse.fieldlist (p : CalibrationResponse) : SizedFields :=
  .uint32 1 p.sensorId <| .uint32 2 p.version <| .bytes 3 p.calibrationData <|
  .bool 4 p.persisted <| .uint32 5 p.crc32 <| .nil

def SetOutputRequest.fieldlist (p : SetOutputRequest) : SizedFields :=
  .enum 1 p.target <| .uint32 2 p.value <| .uint32 3 p.durationMs <| .bool 4 p.stop <|
  .bool 5 p.force <| .message 6 p.lease.has p.lease.value.fieldlist <| .nil

def GetInputStateRequest.fieldlist (_ : GetInputStateRequest) : SizedFields :=
  .nil

def InputStateResponse.fieldlist (p : InputStateResponse) : SizedFields :=
  .uint32 1 p.sequence <| .uint64 2 p.timestampUs <| .uint32 3 p.buttons <| .enum 4 p.gesture <|
  .bool 5 p.microphoneThreshold <| .enum 6 p.mode <| .nil

def ConfigureInputRequest.fieldlist (p : ConfigureInputRequest) : SizedFields :=
  .enum 1 p.mode <| .uint32 2 p.flags <| .uint32 3 p.dwellMs <| .uint32 4 p.deadzone <|
  .bool 5 p.persist <| .nil

def I2cTransferRequest.fieldlist (p : I2cTransferRequest) : SizedFields :=
  .uint32 1 p.address <| .bytes 2 p.writeData <| .uint32 3 p.readLength <|
  .bool 4 p.repeatedStart <| .uint32 5 p.frequencyHz <| .bool 6 p.force <|
  .message 7 p.lease.has p.lease.value.fieldlist <| .nil

def I2cTransferResponse.fieldlist (p : I2cTransferResponse) : SizedFields :=
  .enum 1 p.result <| .bytes 2 p.readData <| .message 3 p.lease.has p.lease.value.fieldlist <|
  .uint32 4 p.bytesWritten <| .uint32 5 p.bytesRead <| .nil

def GpioConfigureRequest.fieldlist (p : GpioConfigureRequest) : SizedFields :=
  .uint32 1 p.pin <| .enum 2 p.direction <| .enum 3 p.pull <| .bool 4 p.initialValue <|
  .bool 5 p.force <| .message 6 p.lease.has p.lease.value.fieldlist <| .nil

def GpioConfigureResponse.fieldlist (p : GpioConfigureResponse) : SizedFields :=
  .enum 1 p.result <| .uint32 2 p.pin <| .message 3 p.lease.has p.lease.value.fieldlist <| .nil

def GpioReadRequest.fieldlist (p : GpioReadRequest) : SizedFields :=
  .uint32 1 p.pin <| .bool 2 p.force <| .message 3 p.lease.has p.lease.value.fieldlist <| .nil

def GpioReadResponse.fieldlist (p : GpioReadResponse) : SizedFields :=
  .enum 1 p.result <| .uint32 2 p.pin <| .bool 3 p.value <|
  .message 4 p.lease.has p.lease.value.fieldlist <| .nil

def GpioWriteRequest.fieldlist (p : GpioWriteRequest) : SizedFields :=
  .uint32 1 p.pin <| .bool 2 p.value <| .message 3 p.lease.has p.lease.value.fieldlist <| .nil

def AdcReadRequest.fieldlist (p : AdcReadRequest) : SizedFields :=
  .uint32 1 p.channel <| .uint32 2 p.samples <| .nil

def AdcReadResponse.fieldlist (p : AdcReadResponse) : SizedFields :=
  .enum 1 p.result <| .uint32 2 p.channel <| .sint32 3 p.millivolts <| .sint32 4 p.raw <| .nil

def SpiTransferRequest.fieldlist (p : SpiTransferRequest) : SizedFields :=
  .uint32 1 p.csPin <| .uint32 2 p.frequencyHz <| .enum 3 p.mode <| .bytes 4 p.txData <|
  .uint32 5 p.readLength <| .bool 6 p.force <| .message 7 p.lease.has p.lease.value.fieldlist <| .nil

def SpiTransferResponse.fieldlist (p : SpiTransferResponse) : SizedFields :=
  .enum 1 p.result <| .bytes 2 p.rxData <| .message 3 p.lease.has p.lease.value.fieldlist <|
  .uint32 4 p.bytesWritten <| .uint32 5 p.bytesRead <| .nil

def StorageInfoRequest.fieldlist (_ : StorageInfoRequest) : SizedFields :=
  .nil

def StorageInfoResponse.fieldlist (p : StorageInfoResponse) : SizedFields :=
  .enum 1 p.state <| .uint32 2 p.capacityBytes <| .uint32 3 p.usedBytes <|
  .uint32 4 p.logRecords <| .uint32 5 p.eraseSize <| .fixedBytes 6 p.jedecId <| .nil

def StorageAdoptRequest.fieldlist (p : StorageAdoptRequest) : SizedFields :=
  .uint32 1 p.confirmNonce <| .bool 2 p.force <| .nil

def StorageReadLogRequest.fieldlist (p : StorageReadLogRequest) : SizedFields :=
  .uint32 1 p.cursor <| .uint32 2 p.maxBytes <| .nil

def StorageEraseLogRequest.fieldlist (p : StorageEraseLogRequest) : SizedFields :=
  .uint32 1 p.confirmNonce <| .nil

def GetRuntimeConfigRequest.fieldlist (_ : GetRuntimeConfigRequest) : SizedFields :=
  .nil

def RuntimeConfigResponse.fieldlist (p : RuntimeConfigResponse) : SizedFields :=
  .enum 1 p.activeRuntime <| .enum 2 p.persistedRuntime <| .bool 3 p.persistenceAvailable <|
  .bool 4 p.bleAdvertising <| .bool 5 p.blePairable <| .bool 6 p.bleConnected <|
  .uint32 7 p.bondCount <| .uint32 8 p.eventLogFilter <| .uint32 9 p.rawPacketLogFilter <| .nil

def RuntimeConfigUpdate.fieldlist (p : RuntimeConfigUpdate) : SizedFields :=
  .optionalEnum 1 p.persistedRuntime <| .optionalUint32 2 p.eventLogFilter <|
  .optionalUint32 3 p.rawPacketLogFilter <| .nil

def OpenPairingWindow.fieldlist (p : OpenPairingWindow) : SizedFields :=
  .uint32 1 p.durationMs <| .nil

def ClearBonds.fieldlist (p : ClearBonds) : SizedFields :=
  .uint32 1 p.confirmNonce <| .nil

def SetRuntimeConfigRequest.fieldlist (p : SetRuntimeConfigRequest) : SizedFields :=
  .message 1 (p.whichOperation == SetRuntimeConfigOperation.updateTag) p.operation.update.fieldlist <|
  .message 2 (p.whichOperation == SetRuntimeConfigOperation.openPairingWindowTag) p.operation.openPairingWindow.fieldlist <|
  .message 3 (p.whichOperation == SetRuntimeConfigOperation.clearBondsTag) p.operation.clearBonds.fieldlist <|
  .nil

def SetRuntimeModeRequest.fieldlist (p : SetRuntimeModeRequest) : SizedFields :=
  .enum 1 p.runtime <| .bool 2 p.persist <| .bool 3 p.reboot <| .nil

def RemoteProfileGetRequest.fieldlist (p : RemoteProfileGetRequest) : SizedFields :=
  .uint32 1 p.profileId <| .nil

def ProfileMapping.fieldlist (p : ProfileMapping) : SizedFields :=
  .enum 1 p.source <| .enum 2 p.action <| .uint32 3 p.hidUsagePage <| .uint32 4 p.hidUsage <|
  .sint32 5 p.value <| .nil

def RemoteProfile.fieldlist (p : RemoteProfile) : SizedFields :=
  .uint32 1 p.profileId <| .string 2 p.name <| .uint32 3 p.sensitivity <| .uint32 4 p.deadzone <|
  .bool 5 p.pointerMode <| .bool 6 p.tiltMode <|
  .repeated p.mappings (fun q => .message 7 true q.fieldlist) 32 (fun _ _ => rfl) <| .nil

def RemoteProfileResponse.fieldlist (p : RemoteProfileResponse) : SizedFields :=
  .message 1 p.profile.has p.profile.value.fieldlist <| .nil

def RemoteProfileSetRequest.fieldlist (p : RemoteProfileSetRequest) : SizedFields :=
  .message 1 p.profile.has p.profile.value.fieldlist <| .bool 2 p.persist <| .nil

def AudioConfigureRequest.fieldlist (p : AudioConfigureRequest) : SizedFields :=
  .bool 1 p.enabled <| .uint32 2 p.sampleRateHz <| .sint32 3 p.gainDbX2 <| .uint32 4 p.flags <| .nil

def AudioConfigureResponse.fieldlist (p : AudioConfigureResponse) : SizedFields :=
  .uint32 1 p.actualSampleRateHz <| .sint32 2 p.actualGainDbX2 <| .uint32 3 p.flags <| .nil

def ReleasePinRequest.fieldlist (p : ReleasePinRequest) : SizedFields :=
  .message 1 p.lease.has p.lease.value.fieldlist <| .enum 2 p.resource <| .uint32 3 p.inst <| .nil

def RawPcmDiagnosticsRequest.fieldlist (p : RawPcmDiagnosticsRequest) : SizedFields :=
  .uint32 1 p.durationMs <| .uint32 2 p.chunkSize <| .nil

def SensorSample.fieldlist (p : SensorSample) : SizedFields :=
  .uint32 1 p.sensorId <| .uint32 2 p.sequence <| .uint64 3 p.timestampUs <| .uint32 4 p.status <|
  .packed 5 p.values fixed32Bytes 4 (fun _ => le_rfl) <| .nil

def AudioChunk.fieldlist (p : AudioChunk) : SizedFields :=
  .uint32 1 p.sequence <| .uint32 2 p.offset <| .uint32 3 p.count <| .bytes 4 p.pcm <|
  .bool 5 p.eof <| .uint32 6 p.total <| .enum 7 p.result <| .nil

def InputEvent.fieldlist (p : InputEvent) : SizedFields :=
  .uint32 1 p.sequence <| .uint64 2 p.timestampUs <| .enum 3 p.source <| .enum 4 p.action <|
  .sint32 5 p.value <| .nil

def GestureEvent.fieldlist (p : GestureEvent) : SizedFields :=
  .uint32 1 p.sequence <| .uint64 2 p.timestampUs <| .enum 3 p.gesture <| .nil

def LogChunk.fieldlist (p : LogChunk) : SizedFields :=
  .uint32 1 p.sequence <| .uint32 2 p.cursor <| .uint32 3 p.offset <| .uint32 4 p.count <|
  .bytes 5 p.data <| .bool 6 p.eof <| .uint32 7 p.total <| .enum 8 p.result <| .nil

def BoardStatus.fieldlist (p : BoardStatus) : SizedFields :=
  .uint64 1 p.timestampUs <| .enum 2 p.code <| .enum 3 p.result <| .enum 4 p.resource <|
  .uint32 5 p.inst <| .uint32 6 p.progressPerMille <| .bool 7 p.terminal <| .string 8 p.detail <| .nil

/-- The field list of the member of each kind. -/
def BoardKind.fieldlist : (k : BoardKind) → k.Struct → SizedFields
  | .getBoardInfo, p => GetBoardInfoRequest.fieldlist p
  | .listSensors, p => ListSensorsRequest.fieldlist p
  | .readSensor, p => ReadSensorRequest.fieldlist p
  | .configureStream, p => ConfigureStreamRequest.fieldlist p
  | .stopStream, p => StopStreamRequest.fieldlist p
  | .calibrate, p => CalibrateRequest.fieldlist p
  | .getCalibration, p => GetCalibrationRequest.fieldlist p
  | .setOutput, p => SetOutputRequest.fieldlist p
  | .getInputState, p => GetInputStateRequest.fieldlist p
  | .configureInput, p => ConfigureInputRequest.fieldlist p
  | .i2cTransfer, p => I2cTransferRequest.fieldlist p
  | .gpioConfigure, p => GpioConfigureRequest.fieldlist p
  | .gpioRead, p => GpioReadRequest.fieldlist p
  | .gpioWrite, p => GpioWriteRequest.fieldlist p
  | .adcRead, p => AdcReadRequest.fieldlist p
  | .spiTransfer, p => SpiTransferRequest.fieldlist p
  | .storageInfo, p => StorageInfoRequest.fieldlist p
  | .storageAdopt, p => StorageAdoptRequest.fieldlist p
  | .storageReadLog, p => StorageReadLogRequest.fieldlist p
  | .storageEraseLog, p => StorageEraseLogRequest.fieldlist p
  | .getRuntimeConfig, p => GetRuntimeConfigRequest.fieldlist p
  | .setRuntimeConfig, p => SetRuntimeConfigRequest.fieldlist p
  | .setRuntimeMode, p => SetRuntimeModeRequest.fieldlist p
  | .remoteProfileGet, p => RemoteProfileGetRequest.fieldlist p
  | .remoteProfileSet, p => RemoteProfileSetRequest.fieldlist p
  | .audioConfigure, p => AudioConfigureRequest.fieldlist p
  | .releasePin, p => ReleasePinRequest.fieldlist p
  | .rawPcmDiagnostics, p => RawPcmDiagnosticsRequest.fieldlist p
  | .commandResult, p => CommandResult.fieldlist p
  | .boardInfo, p => GetBoardInfoResponse.fieldlist p
  | .sensorDescriptor, p => ListSensorsResponse.fieldlist p
  | .sensorSample, p => SensorSample.fieldlist p
  | .streamConfigured, p => ConfigureStreamResponse.fieldlist p
  | .calibration, p => CalibrationResponse.fieldlist p
  | .inputState, p => InputStateResponse.fieldlist p
  | .i2cResult, p => I2cTransferResponse.fieldlist p
  | .gpioConfigured, p => GpioConfigureResponse.fieldlist p
  | .gpioValue, p => GpioReadResponse.fieldlist p
  | .adcValue, p => AdcReadResponse.fieldlist p
  | .spiResult, p => SpiTransferResponse.fieldlist p
  | .storageStatus, p => StorageInfoResponse.fieldlist p
  | .runtimeConfig, p => RuntimeConfigResponse.fieldlist p
  | .remoteProfile, p => RemoteProfileResponse.fieldlist p
  | .audioConfigured, p => AudioConfigureResponse.fieldlist p
  | .audioChunk, p => AudioChunk.fieldlist p
  | .inputEvent, p => InputEvent.fieldlist p
  | .gestureEvent, p => GestureEvent.fieldlist p
  | .logChunk, p => LogChunk.fieldlist p
  | .boardStatus, p => BoardStatus.fieldlist p

/-- The members in the order of `board_Message_FIELDLIST`. -/
def boardMessageFieldlist : List BoardKind :=
  [.getBoardInfo,.listSensors,.readSensor,.configureStream,.stopStream,.calibrate,.getCalibration,
    .setOutput,.getInputState,.configureInput,.i2cTransfer,.gpioConfigure,.gpioRead,.gpioWrite,
    .adcRead,.spiTransfer,.storageInfo,.storageAdopt,.storageReadLog,.storageEraseLog,
    .getRuntimeConfig,.setRuntimeConfig,.setRuntimeMode,.remoteProfileGet,.remoteProfileSet,
    .audioConfigure,.releasePin,.rawPcmDiagnostics,.commandResult,.boardInfo,.sensorDescriptor,
    .sensorSample,.streamConfigured,.calibration,.inputState,.i2cResult,.gpioConfigured,.gpioValue,
    .adcValue,.spiResult,.storageStatus,.runtimeConfig,.remoteProfile,.audioConfigured,.audioChunk,
    .inputEvent,.gestureEvent,.logChunk,.boardStatus]

/-- The tag selects the member; an unknown one selects none. -/
def selectedMember (tag : ℕ) : Option BoardKind := boardMessageFieldlist.find? fun k => k.tag == tag

/-- `board_Message_FIELDLIST`. -/
def messageFieldlist (b : BoardMessage) : SizedFields :=
  .uint32 1 b.requestId <|
    match selectedMember b.whichMsg with
    | some k => .message k.tag true (k.fieldlist (b.msg k)) .nil
    | none => .nil

/-- The fields of a board message as the runtime walks them. -/
def boardFields (b : BoardMessage) : Fields CallbackField := (messageFieldlist b).fields

theorem selectedMember_tag (k : BoardKind) : selectedMember k.tag = some k := by
  cases k <;> rfl

end WhadLib.Board
