import WhadLib.Board.Fields
import WhadLib.Board.Valid
import WhadLib.Send

/-! Every board message that a builder accepts can be sent: its encoding exists and fits the transmit
buffer, and an empty queue takes its frame. -/
namespace WhadLib.Board
open Library

theorem fieldlist_limit_eq (k : BoardKind) (p : k.Struct) :
    (k.fieldlist p).limit = (k.fieldlist default).limit := by
  cases k <;> rfl

/-- The bound of each member's encoding; the largest is that of a log chunk. -/
theorem fieldlist_limit (k : BoardKind) (p : k.Struct) : (k.fieldlist p).limit ≤ 941 := by
  rw [fieldlist_limit_eq]
  cases k <;> decide +kernel

theorem lease_encodable (p : LeaseToken) : p.fieldlist.Encodable := by
  simp [LeaseToken.fieldlist]

theorem mapping_encodable (p : ProfileMapping) : p.fieldlist.Encodable := by
  simp [ProfileMapping.fieldlist]

theorem sensorDescriptor_encodable {p : SensorDescriptor} (h : valid p) : p.fieldlist.Encodable := by
  obtain ⟨_,hname,hunit,_,⟨hcount,hnames⟩,_,_,_,⟨hrates,_⟩⟩ := h
  have hone (c : CharArray 16) (r : SizedFields) :
      (SizedFields.item 5 c r).Encodable ↔ valid c ∧ r.Encodable := SizedFields.encodable_item
  simp only [SensorDescriptor.fieldlist, SizedFields.encodable_uint32, SizedFields.encodable_string]
  refine ⟨hname,hunit,(SizedFields.encodable_repeated hone).mpr ⟨hcount,hnames,?_⟩⟩
  simp only [SizedFields.encodable_uint32]
  exact SizedFields.encodable_packed.mpr ⟨hrates,SizedFields.encodable_nil⟩

theorem remoteProfile_encodable {p : RemoteProfile} (h : valid p) : p.fieldlist.Encodable := by
  obtain ⟨_,hname,_,_,_,_,⟨hcount,_⟩⟩ := h
  have hone (m : ProfileMapping) (r : SizedFields) :
      (SizedFields.message 7 true m.fieldlist r).Encodable ↔ True ∧ r.Encodable := by
    rw [SizedFields.encodable_message]
    simp [mapping_encodable]
  simp only [RemoteProfile.fieldlist, SizedFields.encodable_uint32, SizedFields.encodable_bool,
    SizedFields.encodable_string]
  refine ⟨hname,(SizedFields.encodable_repeated hone).mpr ⟨hcount,fun _ _ => trivial,?_⟩⟩
  exact SizedFields.encodable_nil

/-- What the validators check is what the runtime refuses: unterminated texts and counts or sizes
beyond the capacity. -/
theorem fieldlist_encodable {k : BoardKind} {p : k.Struct} (h : valid p) : (k.fieldlist p).Encodable := by
  cases k with
  | i2cTransfer =>
    obtain ⟨_,hdata,_⟩ := h
    simpa [BoardKind.fieldlist, I2cTransferRequest.fieldlist, SizedFields.encodable_message,
      lease_encodable] using hdata
  | spiTransfer =>
    obtain ⟨_,_,_,hdata,_⟩ := h
    simpa [BoardKind.fieldlist, SpiTransferRequest.fieldlist, SizedFields.encodable_message,
      lease_encodable] using hdata
  | remoteProfileSet =>
    obtain ⟨hprofile,_⟩ := h
    simp only [BoardKind.fieldlist, RemoteProfileSetRequest.fieldlist, SizedFields.encodable_message,
      SizedFields.encodable_bool, SizedFields.encodable_nil, and_true]
    exact fun hhas => remoteProfile_encodable (hprofile hhas)
  | remoteProfile =>
    have hprofile : p.profile.has = true → valid p.profile.value := h
    simp only [BoardKind.fieldlist, RemoteProfileResponse.fieldlist, SizedFields.encodable_message,
      SizedFields.encodable_nil, and_true]
    exact fun hhas => remoteProfile_encodable (hprofile hhas)
  | commandResult =>
    obtain ⟨_,_,_,hdetail⟩ := h
    simpa [BoardKind.fieldlist, CommandResult.fieldlist] using hdetail
  | boardInfo =>
    obtain ⟨hname,hrevision,hversion,hvariant,hid,_⟩ := h
    simp only [BoardKind.fieldlist, GetBoardInfoResponse.fieldlist, SizedFields.encodable_string,
      SizedFields.encodable_bytes, SizedFields.encodable_enum, SizedFields.encodable_uint32]
    exact ⟨hname,hrevision,hversion,hvariant,hid,SizedFields.encodable_nil⟩
  | sensorDescriptor =>
    obtain ⟨hdescriptor,_⟩ := h
    simp only [BoardKind.fieldlist, ListSensorsResponse.fieldlist, SizedFields.encodable_message,
      SizedFields.encodable_uint32, SizedFields.encodable_bool, SizedFields.encodable_nil, and_true]
    exact fun hhas => sensorDescriptor_encodable (hdescriptor hhas)
  | sensorSample =>
    obtain ⟨_,_,_,_,hvalues,_⟩ := h
    simp only [BoardKind.fieldlist, SensorSample.fieldlist, SizedFields.encodable_uint32,
      SizedFields.encodable_uint64]
    exact SizedFields.encodable_packed.mpr ⟨hvalues,SizedFields.encodable_nil⟩
  | calibration =>
    obtain ⟨_,_,hdata,_⟩ := h
    simpa [BoardKind.fieldlist, CalibrationResponse.fieldlist] using hdata
  | i2cResult =>
    obtain ⟨_,hdata,_⟩ := h
    simpa [BoardKind.fieldlist, I2cTransferResponse.fieldlist, SizedFields.encodable_message,
      lease_encodable] using hdata
  | spiResult =>
    obtain ⟨_,hdata,_⟩ := h
    simpa [BoardKind.fieldlist, SpiTransferResponse.fieldlist, SizedFields.encodable_message,
      lease_encodable] using hdata
  | audioChunk =>
    obtain ⟨_,_,_,hpcm,_⟩ := h
    simpa [BoardKind.fieldlist, AudioChunk.fieldlist] using hpcm
  | logChunk =>
    obtain ⟨_,_,_,_,hdata,_⟩ := h
    simpa [BoardKind.fieldlist, LogChunk.fieldlist] using hdata
  | boardStatus =>
    obtain ⟨_,_,_,_,_,_,_,hdetail⟩ := h
    simpa [BoardKind.fieldlist, BoardStatus.fieldlist] using hdetail
  -- the other members hold nothing but numbers
  | setRuntimeConfig =>
    simp [BoardKind.fieldlist, SetRuntimeConfigRequest.fieldlist, SizedFields.encodable_message,
      RuntimeConfigUpdate.fieldlist, OpenPairingWindow.fieldlist, ClearBonds.fieldlist]
  | setOutput =>
    simp [BoardKind.fieldlist, SetOutputRequest.fieldlist, SizedFields.encodable_message, lease_encodable]
  | gpioConfigure =>
    simp [BoardKind.fieldlist, GpioConfigureRequest.fieldlist, SizedFields.encodable_message, lease_encodable]
  | gpioRead =>
    simp [BoardKind.fieldlist, GpioReadRequest.fieldlist, SizedFields.encodable_message, lease_encodable]
  | gpioWrite =>
    simp [BoardKind.fieldlist, GpioWriteRequest.fieldlist, SizedFields.encodable_message, lease_encodable]
  | gpioConfigured =>
    simp [BoardKind.fieldlist, GpioConfigureResponse.fieldlist, SizedFields.encodable_message,
      lease_encodable]
  | gpioValue =>
    simp [BoardKind.fieldlist, GpioReadResponse.fieldlist, SizedFields.encodable_message, lease_encodable]
  | releasePin =>
    simp [BoardKind.fieldlist, ReleasePinRequest.fieldlist, SizedFields.encodable_message, lease_encodable]
  | getBoardInfo | listSensors | readSensor | configureStream | stopStream | calibrate |
    getCalibration | getInputState | configureInput | adcRead | storageInfo | storageAdopt |
    storageReadLog | storageEraseLog | getRuntimeConfig | setRuntimeMode | remoteProfileGet |
    audioConfigure | rawPcmDiagnostics | streamConfigured | inputState | adcValue |
    storageStatus | runtimeConfig | audioConfigured | inputEvent | gestureEvent =>
    simp [BoardKind.fieldlist, GetBoardInfoRequest.fieldlist, ListSensorsRequest.fieldlist,
      ReadSensorRequest.fieldlist, ConfigureStreamRequest.fieldlist, StopStreamRequest.fieldlist,
      CalibrateRequest.fieldlist, GetCalibrationRequest.fieldlist, GetInputStateRequest.fieldlist,
      ConfigureInputRequest.fieldlist, AdcReadRequest.fieldlist, StorageInfoRequest.fieldlist,
      StorageAdoptRequest.fieldlist, StorageReadLogRequest.fieldlist,
      StorageEraseLogRequest.fieldlist, GetRuntimeConfigRequest.fieldlist,
      SetRuntimeModeRequest.fieldlist, RemoteProfileGetRequest.fieldlist,
      AudioConfigureRequest.fieldlist, RawPcmDiagnosticsRequest.fieldlist,
      ConfigureStreamResponse.fieldlist, InputStateResponse.fieldlist, AdcReadResponse.fieldlist,
      StorageInfoResponse.fieldlist, RuntimeConfigResponse.fieldlist,
      AudioConfigureResponse.fieldlist, InputEvent.fieldlist, GestureEvent.fieldlist]

theorem LeaseHidesResource.encodable {k : BoardKind} {p : k.Struct} (h : LeaseHidesResource p) :
    (k.fieldlist p).Encodable := by
  cases k <;> simp only [LeaseHidesResource] at h
  simp [BoardKind.fieldlist, ReleasePinRequest.fieldlist, SizedFields.encodable_message, lease_encodable]

/-- A validator that accepts a structure leaves nothing in it that the runtime refuses; the structures
of a release request it accepts by mistake hold nothing but numbers. -/
theorem encodable_of_accepts (V : Views) (k : BoardKind) {p : (messageRow k).type.Struct}
    (h : (validatorOf k).Accepts V p) : ((messageRow k).type.fieldlist p).Encodable := by
  rcases (accepts_iff V k p).mp h with hvalid | hhidden
  · exact fieldlist_encodable hvalid.1
  · exact hhidden.encodable

theorem varint_length_le_two {v : ℕ} (h : v < 16384) : (varint v).length ≤ 2 :=
  varintBytes_length_le h

theorem BoardKind.keySize_le (k : BoardKind) : keySize k.tag .len ≤ 2 := by
  have htag : k.tag ≤ 50 := by cases k <;> decide
  exact varint_length_le_two (by simp only [WireType.code]; omega)

/-- The encoding of a message that holds a structure of a board kind. -/
theorem encoding_of_member (heap : Heap) {m : Message} {k : BoardKind} (hm : HoldsTag m k.tag)
    (h : (k.fieldlist (m.board.msg k)).Encodable) :
    ∃ bytes, m.encoding boardFields heap = some bytes ∧ bytes ≠ [] ∧ bytes.length ≤ 960 := by
  have hlist : messageFieldlist m.board =
      .uint32 1 m.board.requestId (.message k.tag true (k.fieldlist (m.board.msg k)) .nil) := by
    rw [messageFieldlist, hm.tag, selectedMember_tag]
  have hbody : (messageFieldlist m.board).Encodable := by
    rw [hlist, SizedFields.encodable_uint32, SizedFields.encodable_message]
    exact ⟨fun _ => h,SizedFields.encodable_nil⟩
  obtain ⟨body,hencoding⟩ := hbody fun c => c.output heap
  have hlen : body.length ≤ 951 := by
    have hbounded := (messageFieldlist m.board).bounded _ body hencoding
    have hlimit := fieldlist_limit k (m.board.msg k)
    have hkey := k.keySize_le
    have hfirst : keySize 1 .varint = 1 := by decide
    have hprefix := varint_length_le_two (v := (k.fieldlist (m.board.msg k)).limit) (by omega)
    rw [hlist] at hbounded
    simp only [SizedFields.uint32, SizedFields.static, SizedFields.message, SizedFields.nil, hfirst] at hbounded
    omega
  refine ⟨fieldKey ⟨Message.boardTag,.len⟩ ++ ((varint body.length ++ body) ++ []),?_,?_,?_⟩
  · simp only [Message.encoding, Message.fields, hm.domain, Message.boardTag, Fields.encoding, boardFields,
      hencoding]
    rfl
  · exact fun hnil => varint_ne_nil _ (List.append_eq_nil_iff.mp hnil).1
  · have hkey : (fieldKey ⟨Message.boardTag,.len⟩).length = 1 := by decide
    have hprefix := varint_length_le_two (v := body.length) (by omega)
    simp only [List.length_append, hkey, List.length_nil]
    omega

/-- The member of the message built is the structure given. -/
theorem built_encodable (V : Views) {row : MessageRow} {k : BoardKind} (hrow : row = ⟨k.tag,k,k⟩) (m : Message)
    (requestId : UInt32) {p : row.type.Struct} (h : (row.type.fieldlist p).Encodable) :
    (k.fieldlist ((boardMessage V m requestId row.tag p).board.msg k)).Encodable := by
  subst hrow
  have hread : (boardMessage V m requestId k.tag p).board.msg k = p := V.same k p
  rw [hread]
  exact h

/-- Every accepted board message can be sent: for every kind, request id and structure its validator
accepts, the message built from it encodes into at most 1019 bytes, and with an empty queue
`whad_send_message` queues it, in either state of the transport. -/
theorem board_sendable {pb : Nanopb} (hpb : pb.Documented) (V : Views) (k : BoardKind) (m : Message)
    (requestId : UInt32) (p : (messageRow k).type.Struct) (h : (validatorOf k).Accepts V p) :
    ∃ m', whadBoardBuild V k (some m) requestId (some p) = (.success, some m') ∧
      ∀ (heap : Heap) (t : Transport),
        (∃ bytes, m'.encoding boardFields heap = some bytes ∧ bytes.length ≤ maxEncodedMessageSize) ∧
          (t.txBuf.toList = [] → (whadSendMessage pb boardFields heap m' t).result = .success) := by
  refine ⟨_,whadBoardPack_of_accepts requestId h,fun heap t => ?_⟩
  have hholds := boardMessage_holds V m requestId (messageRow k).tag p
  rw [messageRow_tag] at hholds
  have hmember := built_encodable V (messageRow_eq k) m requestId (encodable_of_accepts V k h)
  rw [messageRow_tag] at hmember ⊢
  obtain ⟨bytes,hbytes,hne,hlen⟩ := encoding_of_member heap hholds hmember
  have hfits : bytes.length ≤ maxEncodedMessageSize := hlen.trans (by decide)
  refine ⟨⟨bytes,hbytes,hfits⟩,fun hempty => ?_⟩
  exact whadSendMessage_of_empty boardFields hpb heap _ t hbytes hne hfits hempty

/-- A log chunk with all its 900 bytes. -/
theorem board_sendable_log_chunk :
    let p : (messageRow .logChunk).type.Struct :=
      { (default : LogChunk) with data := ⟨900,Vector.replicate 900 0xFF⟩ }
    ∃ m', whadBoardBuild Views.plain .logChunk (some default) 1 (some p) = (.success, some m') ∧
      ∀ (heap : Heap) (t : Transport), t.txBuf.toList = [] →
        (whadSendMessage Nanopb.plain boardFields heap m' t).result = .success := by
  intro p
  have hvalid : BoardKind.Valid .logChunk p := ⟨⟨trivial,trivial,trivial,trivial,Nat.le_refl 900,trivial,trivial,.success,rfl⟩,
    Nat.zero_le 900,fun h => absurd rfl h⟩
  have haccepts := (accepts_iff Views.plain .logChunk p).mpr (.inl hvalid)
  obtain ⟨m',hbuilt,hsend⟩ := board_sendable Nanopb.plain_documented Views.plain .logChunk default 1 p haccepts
  exact ⟨m',hbuilt,fun heap t => (hsend heap t).2⟩

end WhadLib.Board
