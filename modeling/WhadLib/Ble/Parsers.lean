import WhadLib.Parse

/-! The parsers of the BLE domain, in the order of the source. No one of them looks at the tags of the
message. A pointer into the message is what the message holds there. -/
namespace WhadLib.Ble
open Library

/-- `whad_ble_pdu_t`. -/
structure BlePdu where
  connHandle : UInt32
  pPdu : Buffer
  pduLength : ℕ
  direction : EnumField BleDirection
  processed : Bool
  decrypted : Bool
  deriving Inhabited

/-- The direction is not read. -/
def whadBlePduParse (message : Option FullMessage) (pParameters : Option BlePdu) : Parsed BlePdu :=
  fetch message pParameters fun m s =>
    let p : PduReceived := m.msg (.ble .pdu)
    { s with
      connHandle := p.connHandle, processed := p.processed, decrypted := p.decrypted, pduLength := p.pdu.size
      pPdu := bufferOf p.pdu.bytes }

/-- `whad_ble_disconnected_params_t`. -/
structure BleDisconnectedParams where
  connHandle : UInt32
  reason : UInt32

def whadBleNotifyDisconnectedParse (message : Option FullMessage) (pParameters : Option BleDisconnectedParams) :
    Parsed BleDisconnectedParams :=
  fetch message pParameters fun m _ =>
    let p : Disconnected := m.msg (.ble .disconnected)
    ⟨p.connHandle,p.reason⟩

/-- Two pointers are written through. -/
def whadBleSetBdaddressParse (message : Option FullMessage) (pAddrType : Option (EnumField BleAddrType))
    (pBdaddr : Option (Vector UInt8 6)) : Parsed (EnumField BleAddrType × Vector UInt8 6) :=
  fetch message (pAddrType.bind fun t => pBdaddr.map fun b => (t,b)) fun m _ =>
    let p : SetBdAddressCmd := m.msg (.ble .setBdAddr)
    (p.addrType,p.bdAddress)

/-- `whad_ble_sniff_adv_params_t`. -/
structure BleSniffAdvParams where
  useExtAdv : Bool
  channel : UInt32
  pBdaddr : Buffer

def whadBleSniffAdvParse (message : Option FullMessage) (pParameters : Option BleSniffAdvParams) :
    Parsed BleSniffAdvParams :=
  fetch message pParameters fun m _ =>
    let p : SniffAdvCmd := m.msg (.ble .sniffAdv)
    ⟨p.useExtendedAdv,p.channel,bufferOf p.bdAddress⟩

def whadBleJamAdvChannelParse (message : Option FullMessage) (pChannel : Option UInt32) : Parsed UInt32 :=
  fetch message pChannel fun m _ => ChannelCmd.channel (m.msg (.ble .jamAdvChan))

/-- `whad_ble_sniff_connreq_params_t`. -/
structure BleSniffConnreqParams where
  showEmptyPackets : Bool
  showAdv : Bool
  channel : UInt32
  pBdaddr : Vector UInt8 6

def whadBleSniffConnReqParse (message : Option FullMessage) (pParameters : Option BleSniffConnreqParams) :
    Parsed BleSniffConnreqParams :=
  fetch message pParameters fun m _ =>
    let p : SniffConnReqCmd := m.msg (.ble .sniffConnreq)
    ⟨p.showEmptyPackets,p.showAdvertisements,p.channel,p.bdAddress⟩

def whadBleSniffAccessAddressParse (message : Option FullMessage) (pChannelmap : Option (Vector UInt8 5)) :
    Parsed (Vector UInt8 5) :=
  fetch message pChannelmap fun m _ => SniffAccessAddressCmd.monitoredChannels (m.msg (.ble .sniffAa))

/-- `whad_ble_sniff_conn_params_t`, which is `whad_ble_synchro_params_t` as well. -/
structure BleSniffConnParams where
  accessAddress : UInt32
  crcInit : UInt32
  hopInterval : UInt32
  hopIncrement : UInt32
  channelmap : Vector UInt8 5
  channels : Vector UInt8 5

def whadBleSniffActiveConnParse (message : Option FullMessage) (pParameters : Option BleSniffConnParams) :
    Parsed BleSniffConnParams :=
  fetch message pParameters fun m _ =>
    let p : SniffActiveConnCmd := m.msg (.ble .sniffConn)
    ⟨p.accessAddress,p.crcInit,p.hopInterval,p.hopIncrement,p.channelMap,p.monitoredChannels⟩

def whadBleJamActiveConnParse (message : Option FullMessage) (pAccessAddress : Option UInt32) : Parsed UInt32 :=
  fetch message pAccessAddress fun m _ => AccessAddressMsg.accessAddress (m.msg (.ble .jamConn))

def whadBleScanModeParse (message : Option FullMessage) (pActiveScan : Option Bool) : Parsed Bool :=
  fetch message pActiveScan fun m _ => ScanModeCmd.activeScan (m.msg (.ble .scanMode))

/-- `whad_ble_adv_mode_params_t`; its lengths have eight bits. -/
structure BleAdvModeParams where
  advData : Vector UInt8 31
  advDataLength : UInt8
  scanrspData : Vector UInt8 31
  scanrspDataLength : UInt8
  deriving Inhabited

/-- Advertising data of 31 bytes is not copied: the array is cleared behind its length. -/
def loadAdvData (data : Vector UInt8 31) (x : BytesArray 31) : Option (Vector UInt8 31 × UInt8) :=
  let length := UInt8.ofNat x.size
  if 0 < length ∧ length < 31 then do
    let data ← memcpy data (bufferOf x.bytes) length.toNat
    some (data,length)
  else some (memset 0,length)

/-- The body of the two parsers with advertising data. -/
def loadAdvMode (p : AdvModeCmd) (s : BleAdvModeParams) : Option (WhadResult × BleAdvModeParams) := do
  let (advData,advDataLength) ← loadAdvData s.advData p.scanData
  let (scanrspData,scanrspDataLength) ← loadAdvData s.scanrspData p.scanrspData
  done ⟨advData,advDataLength,scanrspData,scanrspDataLength⟩

def whadBleAdvModeParse (message : Option FullMessage) (pParameters : Option BleAdvModeParams) :
    Parsed BleAdvModeParams :=
  parse message pParameters fun m => loadAdvMode (m.msg (.ble .advMode))

/-- Not implemented: the four pointers are not even looked at. -/
def whadBleSetAdvDataParse {S : Type} (_message : Option FullMessage) (out : Option S) : Parsed S := some (.error, out)

/-- `whad_ble_connect_params_t`. -/
structure BleConnectParams where
  bdaddr : Vector UInt8 6
  addrType : EnumField BleAddrType
  accessAddress : UInt32
  channelmap : Vector UInt8 5
  hopInterval : UInt32
  hopIncrement : UInt32
  crcInit : UInt32

/-- A parameter that the message does not have is read as zero. -/
def orZero (x : OptionalField UInt32) : UInt32 := if x.has then x.value else 0

def whadBleConnectToParse (message : Option FullMessage) (pParameters : Option BleConnectParams) :
    Parsed BleConnectParams :=
  fetch message pParameters fun m _ =>
    let p : ConnectToCmd := m.msg (.ble .connect)
    { bdaddr := p.bdAddress, addrType := p.addrType, accessAddress := orZero p.accessAddress
      channelmap := if p.channelMap.has then p.channelMap.value else memset 0
      hopInterval := orZero p.hopInterval, hopIncrement := orZero p.hopIncrement, crcInit := orZero p.crcInit }

/-- `whad_ble_pdu_params_t`. -/
structure BlePduParams where
  direction : EnumField BleDirection
  connHandle : UInt32
  accessAddress : UInt32
  pPdu : Buffer
  length : ℤ
  crc : UInt32
  encrypt : Bool
  deriving Inhabited

def whadBleSendRawPduParse (message : Option FullMessage) (pParameters : Option BlePduParams) :
    Parsed BlePduParams :=
  fetch message pParameters fun m _ =>
    let p : SendRawPDUCmd := m.msg (.ble .sendRawPdu)
    ⟨p.direction,p.connHandle,p.accessAddress,bufferOf p.pdu.bytes,p.pdu.size,p.crc,p.encrypt⟩

def whadBleSendPduParse (message : Option FullMessage) (pParameters : Option BlePduParams) : Parsed BlePduParams :=
  fetch message pParameters fun m _ =>
    let p : SendPDUCmd := m.msg (.ble .sendPdu)
    ⟨p.direction,p.connHandle,0,bufferOf p.pdu.bytes,p.pdu.size,0,p.encrypt⟩

def whadBleDisconnectParse (message : Option FullMessage) (pConnHandle : Option UInt32) : Parsed UInt32 :=
  fetch message pConnHandle fun m _ => (DisconnectCmd.connHandle (m.msg (.ble .disconnect))).toUInt32

def whadBlePeripheralModeParse (message : Option FullMessage) (pParameters : Option BleAdvModeParams) :
    Parsed BleAdvModeParams :=
  parse message pParameters fun m => loadAdvMode (m.msg (.ble .periphMode))

def whadBleHijackMasterParse (message : Option FullMessage) (pAccessAddress : Option UInt32) : Parsed UInt32 :=
  fetch message pAccessAddress fun m _ => AccessAddressMsg.accessAddress (m.msg (.ble .hijackMaster))

def whadBleHijackSlaveParse (message : Option FullMessage) (pAccessAddress : Option UInt32) : Parsed UInt32 :=
  fetch message pAccessAddress fun m _ => AccessAddressMsg.accessAddress (m.msg (.ble .hijackSlave))

def whadBleHijackBothParse (message : Option FullMessage) (pAccessAddress : Option UInt32) : Parsed UInt32 :=
  fetch message pAccessAddress fun m _ => AccessAddressMsg.accessAddress (m.msg (.ble .hijackBoth))

/-- `whad_ble_encryption_params_t`. -/
structure BleEncryptionParams where
  connHandle : UInt32
  enabled : Bool
  pLlKey : Buffer
  pLlIv : Buffer
  pKey : Buffer
  pRand : Buffer
  pEdiv : Buffer

def whadBleSetEncryptionParse (message : Option FullMessage) (pParameters : Option BleEncryptionParams) :
    Parsed BleEncryptionParams :=
  fetch message pParameters fun m _ =>
    let p : SetEncryptionCmd := m.msg (.ble .encryption)
    ⟨p.connHandle.toUInt32,p.enabled,bufferOf p.llKey,bufferOf p.llIv,bufferOf p.key,bufferOf p.rand,bufferOf p.ediv⟩

/-- `whad_ble_reactive_jam_params_t`. -/
structure BleReactiveJamParams where
  channel : UInt32
  pattern : Vector UInt8 20
  patternLength : ℤ
  position : UInt32

/-- The body of its parser; the size is checked last. -/
def loadReactiveJam (p : ReactiveJamCmd) (s : BleReactiveJamParams) : Option (WhadResult × BleReactiveJamParams) :=
  let s := { s with channel := p.channel, position := p.position, patternLength := p.pattern.size }
  if 0 < s.patternLength ∧ s.patternLength ≤ 20 then do
    let pattern ← memcpy s.pattern (bufferOf p.pattern.bytes) s.patternLength
    done { s with pattern := pattern }
  else if 20 < s.patternLength then failed s
  else done { s with pattern := memset 0 }

def whadBleReactiveJamParse (message : Option FullMessage) (pParameters : Option BleReactiveJamParams) :
    Parsed BleReactiveJamParams :=
  parse message pParameters fun m => loadReactiveJam (m.msg (.ble .reactiveJam))

/-- `whad_ble_trigger_t`. -/
inductive BleTrigger
  | pattern | connEvt | manual
  deriving DecidableEq, Repr, Inhabited

def whadBlePrepareSequenceGetTriggerType (message : Option FullMessage) (pTriggerType : Option BleTrigger) :
    Parsed BleTrigger :=
  parse message pTriggerType fun m s =>
    let whichTrigger := (PrepareSequenceCmd.trigger (m.msg (.ble .prepare))).value.whichTrigger
    if whichTrigger = Trigger.manualTag then done .manual
    else if whichTrigger = Trigger.connectionEventTag then done .connEvt
    else if whichTrigger = Trigger.receptionTag then done .pattern
    else failed s

/-- `whad_prepared_packet_ref_t`. -/
structure PreparedPacketRef where
  pBytes : Option Buffer
  length : ℕ
  deriving Inhabited

/-- `whad_ble_prepseq_params_t`. -/
structure BlePrepseqParams where
  id : UInt32
  connEvt : UInt32
  pPattern : Option Buffer
  pMask : Option Buffer
  length : ℤ
  offset : ℤ
  direction : EnumField BleDirection
  packets : Vector PreparedPacketRef 25
  packetCount : ℕ
  deriving Inhabited

/-- The loop of the two parsers of sequences; a count beyond the array is followed. -/
def loadPackets (x : RepeatedField PendingPacket 25) : Option (Vector PreparedPacketRef 25) :=
  if x.count ≤ 25 then
    some (Vector.ofFn fun i =>
      if i < x.count then ⟨some (bufferOf x.items[i].packet.bytes),x.items[i].packet.size⟩ else ⟨none,0⟩)
  else none

/-- The structure is cleared first. The number of packets is not stored. -/
def loadSequence (p : PrepareSequenceCmd) (connEvt : UInt32) : Option (WhadResult × BlePrepseqParams) := do
  let packets ← loadPackets p.sequence
  done {
    id := p.id, connEvt := connEvt, pPattern := none, pMask := none, length := 0, offset := 0
    direction := p.direction, packets := packets, packetCount := 0 }

/-- The number of packets of a decoded message is within the array. -/
theorem sequence_fits {m : FullMessage} (hm : Decoded m) (hown : m.Holds (.ble .prepare)) :
    (PrepareSequenceCmd.sequence (m.msg (.ble .prepare))).count ≤ 25 := by
  have h := Wire.optional_accepted (hm.accepted _ hown)
  exact Wire.repeated_accepted h.2.2

def whadBlePrepareSequenceManualParse (message : Option FullMessage) (pParameters : Option BlePrepseqParams) :
    Parsed BlePrepseqParams :=
  parse message pParameters fun m _ => loadSequence (m.msg (.ble .prepare)) 0

def whadBlePrepareSequenceConnEvtParse (message : Option FullMessage) (pParameters : Option BlePrepseqParams) :
    Parsed BlePrepseqParams :=
  parse message pParameters fun m _ =>
    let p : PrepareSequenceCmd := m.msg (.ble .prepare)
    loadSequence p p.trigger.value.connectionEvent.connectionEvent

def whadBlePrepareSequenceTriggerParse (message : Option FullMessage) (pId : Option UInt32) : Parsed UInt32 :=
  fetch message pId fun m _ => SequenceMsg.id (m.msg (.ble .trigger))

def whadBleTriggeredParse (message : Option FullMessage) (pId : Option UInt32) : Parsed UInt32 :=
  fetch message pId fun m _ => SequenceMsg.id (m.msg (.ble .triggered))

/-- `whad_ble_aa_disc_params_t`. -/
structure BleAaDiscParams where
  accessAddress : UInt32
  timestamp : UInt32
  incTs : Bool
  rssi : Int32
  incRssi : Bool
  deriving Inhabited

def whadBleAccessAddressDiscoveredParse (message : Option FullMessage) (pParameters : Option BleAaDiscParams) :
    Parsed BleAaDiscParams :=
  fetch message pParameters fun m _ =>
    let p : AccessAddressDiscovered := m.msg (.ble .aaDisc)
    { accessAddress := p.accessAddress
      timestamp := if p.timestamp.has then p.timestamp.value.toUInt32 else 0
      incTs := p.timestamp.has
      rssi := if p.rssi.has then p.rssi.value else 0
      incRssi := p.rssi.has }

/-- `whad_ble_adv_pdu_t`. -/
structure BleAdvPdu where
  advType : EnumField BleAdvType
  rssi : Int32
  pBdaddr : Buffer
  addrType : EnumField BleAddrType
  pAdvData : Buffer
  advDataLength : ℤ
  deriving Inhabited

def whadBleAdvPduParse (message : Option FullMessage) (pParameters : Option BleAdvPdu) : Parsed BleAdvPdu :=
  fetch message pParameters fun m _ =>
    let p : AdvPduReceived := m.msg (.ble .advPdu)
    ⟨p.advType,p.rssi,bufferOf p.bdAddress,p.addrType,bufferOf p.advData.bytes,p.advData.size⟩

/-- The monitored channels are not written. -/
def whadBleSynchronizedParse (message : Option FullMessage) (pParameters : Option BleSniffConnParams) :
    Parsed BleSniffConnParams :=
  fetch message pParameters fun m s =>
    let p : Synchronized := m.msg (.ble .synchronized)
    { s with
      accessAddress := p.accessAddress, hopInterval := p.hopInterval, hopIncrement := p.hopIncrement
      crcInit := p.crcInit, channelmap := p.channelMap }

def whadBleDesynchronizedParse (message : Option FullMessage) (pAccessAddress : Option UInt32) : Parsed UInt32 :=
  fetch message pAccessAddress fun m _ => AccessAddressMsg.accessAddress (m.msg (.ble .desynchronized))

/-- `whad_ble_hijacked_params_t`. -/
structure BleHijackedParams where
  accessAddress : UInt32
  success : Bool

def whadBleHijackedParse (message : Option FullMessage) (pParameters : Option BleHijackedParams) :
    Parsed BleHijackedParams :=
  fetch message pParameters fun m _ =>
    let p : Hijacked := m.msg (.ble .hijacked)
    ⟨p.accessAddress,p.success⟩

/-- `whad_ble_injected_params_t`. -/
structure BleInjectedParams where
  accessAddress : UInt32
  attempts : UInt32
  success : Bool

def whadBleInjectedParse (message : Option FullMessage) (pParameters : Option BleInjectedParams) :
    Parsed BleInjectedParams :=
  fetch message pParameters fun m _ =>
    let p : Injected := m.msg (.ble .injected)
    ⟨p.accessAddress,p.injectionAttempts,p.success⟩

/-- The calls of the parsers, with their outputs. -/
inductive BleParser
  | pdu (pParameters : Option BlePdu)
  | notifyDisconnected (pParameters : Option BleDisconnectedParams)
  | setBdaddress (pAddrType : Option (EnumField BleAddrType)) (pBdaddr : Option (Vector UInt8 6))
  | sniffAdv (pParameters : Option BleSniffAdvParams)
  | jamAdvChannel (pChannel : Option UInt32)
  | sniffConnReq (pParameters : Option BleSniffConnreqParams)
  | sniffAccessAddress (pChannelmap : Option (Vector UInt8 5))
  | sniffActiveConn (pParameters : Option BleSniffConnParams)
  | jamActiveConn (pAccessAddress : Option UInt32)
  | scanMode (pActiveScan : Option Bool)
  | advMode (pParameters : Option BleAdvModeParams)
  | setAdvData
  | connectTo (pParameters : Option BleConnectParams)
  | sendRawPdu (pParameters : Option BlePduParams)
  | sendPdu (pParameters : Option BlePduParams)
  | disconnect (pConnHandle : Option UInt32)
  | peripheralMode (pParameters : Option BleAdvModeParams)
  | hijackMaster (pAccessAddress : Option UInt32)
  | hijackSlave (pAccessAddress : Option UInt32)
  | hijackBoth (pAccessAddress : Option UInt32)
  | setEncryption (pParameters : Option BleEncryptionParams)
  | reactiveJam (pParameters : Option BleReactiveJamParams)
  | prepareSequenceManual (pParameters : Option BlePrepseqParams)
  | prepareSequenceConnEvt (pParameters : Option BlePrepseqParams)
  | prepareSequenceTrigger (pId : Option UInt32)
  | triggered (pId : Option UInt32)
  | accessAddressDiscovered (pParameters : Option BleAaDiscParams)
  | advPdu (pParameters : Option BleAdvPdu)
  | synchronized (pParameters : Option BleSniffConnParams)
  | desynchronized (pAccessAddress : Option UInt32)
  | hijacked (pParameters : Option BleHijackedParams)
  | injected (pParameters : Option BleInjectedParams)

/-- What a call returns. -/
abbrev BleParser.result : BleParser → FullMessage → Option WhadResult
  | .pdu pParameters, m => (whadBlePduParse (some m) pParameters).map Prod.fst
  | .notifyDisconnected pParameters, m => (whadBleNotifyDisconnectedParse (some m) pParameters).map Prod.fst
  | .setBdaddress pAddrType pBdaddr, m => (whadBleSetBdaddressParse (some m) pAddrType pBdaddr).map Prod.fst
  | .sniffAdv pParameters, m => (whadBleSniffAdvParse (some m) pParameters).map Prod.fst
  | .jamAdvChannel pChannel, m => (whadBleJamAdvChannelParse (some m) pChannel).map Prod.fst
  | .sniffConnReq pParameters, m => (whadBleSniffConnReqParse (some m) pParameters).map Prod.fst
  | .sniffAccessAddress pChannelmap, m => (whadBleSniffAccessAddressParse (some m) pChannelmap).map Prod.fst
  | .sniffActiveConn pParameters, m => (whadBleSniffActiveConnParse (some m) pParameters).map Prod.fst
  | .jamActiveConn pAccessAddress, m => (whadBleJamActiveConnParse (some m) pAccessAddress).map Prod.fst
  | .scanMode pActiveScan, m => (whadBleScanModeParse (some m) pActiveScan).map Prod.fst
  | .advMode pParameters, m => (whadBleAdvModeParse (some m) pParameters).map Prod.fst
  | .setAdvData, m => (whadBleSetAdvDataParse (some m) (none : Option Unit)).map Prod.fst
  | .connectTo pParameters, m => (whadBleConnectToParse (some m) pParameters).map Prod.fst
  | .sendRawPdu pParameters, m => (whadBleSendRawPduParse (some m) pParameters).map Prod.fst
  | .sendPdu pParameters, m => (whadBleSendPduParse (some m) pParameters).map Prod.fst
  | .disconnect pConnHandle, m => (whadBleDisconnectParse (some m) pConnHandle).map Prod.fst
  | .peripheralMode pParameters, m => (whadBlePeripheralModeParse (some m) pParameters).map Prod.fst
  | .hijackMaster pAccessAddress, m => (whadBleHijackMasterParse (some m) pAccessAddress).map Prod.fst
  | .hijackSlave pAccessAddress, m => (whadBleHijackSlaveParse (some m) pAccessAddress).map Prod.fst
  | .hijackBoth pAccessAddress, m => (whadBleHijackBothParse (some m) pAccessAddress).map Prod.fst
  | .setEncryption pParameters, m => (whadBleSetEncryptionParse (some m) pParameters).map Prod.fst
  | .reactiveJam pParameters, m => (whadBleReactiveJamParse (some m) pParameters).map Prod.fst
  | .prepareSequenceManual pParameters, m => (whadBlePrepareSequenceManualParse (some m) pParameters).map Prod.fst
  | .prepareSequenceConnEvt pParameters, m => (whadBlePrepareSequenceConnEvtParse (some m) pParameters).map Prod.fst
  | .prepareSequenceTrigger pId, m => (whadBlePrepareSequenceTriggerParse (some m) pId).map Prod.fst
  | .triggered pId, m => (whadBleTriggeredParse (some m) pId).map Prod.fst
  | .accessAddressDiscovered pParameters, m => (whadBleAccessAddressDiscoveredParse (some m) pParameters).map Prod.fst
  | .advPdu pParameters, m => (whadBleAdvPduParse (some m) pParameters).map Prod.fst
  | .synchronized pParameters, m => (whadBleSynchronizedParse (some m) pParameters).map Prod.fst
  | .desynchronized pAccessAddress, m => (whadBleDesynchronizedParse (some m) pAccessAddress).map Prod.fst
  | .hijacked pParameters, m => (whadBleHijackedParse (some m) pParameters).map Prod.fst
  | .injected pParameters, m => (whadBleInjectedParse (some m) pParameters).map Prod.fst

/-- The messages that a parser is for. -/
def BleParser.kind : BleParser → Kind
  | .pdu .. => .ble .pdu
  | .notifyDisconnected .. => .ble .disconnected
  | .setBdaddress .. => .ble .setBdAddr
  | .sniffAdv .. => .ble .sniffAdv
  | .jamAdvChannel .. => .ble .jamAdvChan
  | .sniffConnReq .. => .ble .sniffConnreq
  | .sniffAccessAddress .. => .ble .sniffAa
  | .sniffActiveConn .. => .ble .sniffConn
  | .jamActiveConn .. => .ble .jamConn
  | .scanMode .. => .ble .scanMode
  | .advMode .. => .ble .advMode
  | .setAdvData => .ble .setAdvData
  | .connectTo .. => .ble .connect
  | .sendRawPdu .. => .ble .sendRawPdu
  | .sendPdu .. => .ble .sendPdu
  | .disconnect .. => .ble .disconnect
  | .peripheralMode .. => .ble .periphMode
  | .hijackMaster .. => .ble .hijackMaster
  | .hijackSlave .. => .ble .hijackSlave
  | .hijackBoth .. => .ble .hijackBoth
  | .setEncryption .. => .ble .encryption
  | .reactiveJam .. => .ble .reactiveJam
  | .prepareSequenceManual .. => .ble .prepare
  | .prepareSequenceConnEvt .. => .ble .prepare
  | .prepareSequenceTrigger .. => .ble .trigger
  | .triggered .. => .ble .triggered
  | .accessAddressDiscovered .. => .ble .aaDisc
  | .advPdu .. => .ble .advPdu
  | .synchronized .. => .ble .synchronized
  | .desynchronized .. => .ble .desynchronized
  | .hijacked .. => .ble .hijacked
  | .injected .. => .ble .injected

/-- Every output is there. -/
def BleParser.given : BleParser → Bool
  | .pdu pParameters => pParameters.isSome
  | .notifyDisconnected pParameters => pParameters.isSome
  | .setBdaddress pAddrType pBdaddr => pAddrType.isSome && pBdaddr.isSome
  | .sniffAdv pParameters => pParameters.isSome
  | .jamAdvChannel pChannel => pChannel.isSome
  | .sniffConnReq pParameters => pParameters.isSome
  | .sniffAccessAddress pChannelmap => pChannelmap.isSome
  | .sniffActiveConn pParameters => pParameters.isSome
  | .jamActiveConn pAccessAddress => pAccessAddress.isSome
  | .scanMode pActiveScan => pActiveScan.isSome
  | .advMode pParameters => pParameters.isSome
  | .setAdvData => true
  | .connectTo pParameters => pParameters.isSome
  | .sendRawPdu pParameters => pParameters.isSome
  | .sendPdu pParameters => pParameters.isSome
  | .disconnect pConnHandle => pConnHandle.isSome
  | .peripheralMode pParameters => pParameters.isSome
  | .hijackMaster pAccessAddress => pAccessAddress.isSome
  | .hijackSlave pAccessAddress => pAccessAddress.isSome
  | .hijackBoth pAccessAddress => pAccessAddress.isSome
  | .setEncryption pParameters => pParameters.isSome
  | .reactiveJam pParameters => pParameters.isSome
  | .prepareSequenceManual pParameters => pParameters.isSome
  | .prepareSequenceConnEvt pParameters => pParameters.isSome
  | .prepareSequenceTrigger pId => pId.isSome
  | .triggered pId => pId.isSome
  | .accessAddressDiscovered pParameters => pParameters.isSome
  | .advPdu pParameters => pParameters.isSome
  | .synchronized pParameters => pParameters.isSome
  | .desynchronized pAccessAddress => pAccessAddress.isSome
  | .hijacked pParameters => pParameters.isSome
  | .injected pParameters => pParameters.isSome

end WhadLib.Ble
