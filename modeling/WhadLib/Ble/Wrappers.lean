import WhadLib.Ble.Builders
import WhadLib.Ble.Parsers
import WhadLib.Cpp.Wrapper

/-! The wrapper classes of the BLE domain, in the order of the source. A member that is constructed by
default is not part of what lies in memory; the type of an address is left out where neither the
builder nor the parser has it. -/
namespace WhadLib.Ble.Wrapper
open Library Cpp

/-- `AdvMode` and `PeripheralMode`. -/
structure AdvMode where
  advData : Vector UInt8 31
  advDataLength : ℤ
  scanRsp : Vector UInt8 31
  scanRspLength : ℤ

/-- `AdvMode::unpack` leaves the array alone when there is nothing to copy. -/
def keepAdvData (memory data : Vector UInt8 31) (length : ℤ) : Option (Vector UInt8 31) :=
  if 0 < length ∧ length ≤ 31 then memcpy memory (bufferOf data) length else some memory

/-- `PeripheralMode::unpack` clears the array when there is too much to copy. -/
def keepPeripheralData (memory data : Vector UInt8 31) (length : ℤ) : Option (Vector UInt8 31) :=
  if length ≤ 31 then memcpy memory (bufferOf data) length else some (memset 0)

/-- The two classes with advertising data. -/
def advertising (kind : Kind) (parser : Option FullMessage → Option BleAdvModeParams → Parsed BleAdvModeParams)
    (keep : Vector UInt8 31 → Vector UInt8 31 → ℤ → Option (Vector UInt8 31))
    (builder : Option FullMessage → Option Buffer → ℤ → Option Buffer → ℤ → Outcome)
    (member : FullMessage → AdvModeCmd) : WrapperClass where
  kind := kind
  Memory := AdvMode × BleAdvModeParams
  Object := AdvMode
  construct m memory := do
    let params ← parsedBy (parser (some m) (some memory.2))
    let advData ← keep memory.1.advData params.advData params.advDataLength.toNat
    let scanRsp ← keep memory.1.scanRsp params.scanrspData params.scanrspDataLength.toNat
    some (m,⟨advData,params.advDataLength.toNat,scanRsp,params.scanrspDataLength.toNat⟩)
  pack m o := packed (builder (some m) (some (bufferOf o.advData)) o.advDataLength (some (bufferOf o.scanRsp))
    o.scanRspLength)
  Shows m o :=
    ReadsAs (member m).scanData (bufferOf o.advData) o.advDataLength ∧
      ReadsAs (member m).scanrspData (bufferOf o.scanRsp) o.scanRspLength

def advMode : WrapperClass :=
  advertising (.ble .advMode) whadBleAdvModeParse keepAdvData whadBleAdvMode fun m => m.msg (.ble .advMode)

def centralMode : WrapperClass := .plain (.ble .centralMode) whadBleCentralMode

/-- `ConnectTo`. -/
structure ConnectTo where
  targetAddr : Vector UInt8 6
  targetType : EnumField BleAddrType
  accessAddr : UInt32
  channelMap : Vector UInt8 5
  hopInterval : UInt32
  hopIncrement : UInt32
  crcInit : UInt32

def connectTo : WrapperClass where
  kind := .ble .connect
  Memory := BleConnectParams
  Object := ConnectTo
  construct m memory := do
    let params ← parsedBy (whadBleConnectToParse (some m) (some memory))
    some (m,⟨params.bdaddr,params.addrType,params.accessAddress,params.channelmap,params.hopInterval,
      params.hopIncrement,params.crcInit⟩)
  pack m o := packed (whadBleConnectTo (some m) (some (bufferOf o.targetAddr)) o.targetType o.accessAddr
    (some (bufferOf o.channelMap)) o.hopInterval o.hopIncrement o.crcInit)
  Shows m o :=
    let p : ConnectToCmd := m.msg (.ble .connect)
    o.targetAddr = p.bdAddress ∧ o.targetType = p.addrType ∧ p.accessAddress.Shown o.accessAddr ∧
      p.channelMap.Shown o.channelMap ∧ p.hopInterval.Shown o.hopInterval ∧ p.hopIncrement.Shown o.hopIncrement ∧
      p.crcInit.Shown o.crcInit

/-- `Connected`; the access address of the message is none of its members. -/
structure Connected where
  connHandle : UInt32
  advType : EnumField BleAddrType
  advAddr : Vector UInt8 6
  initType : EnumField BleAddrType
  initAddr : Vector UInt8 6

def connected : WrapperClass where
  kind := .ble .connected
  Memory := Unit
  Object := Connected
  construct m _ :=
    let p : Ble.Connected := m.msg (.ble .connected)
    some (m,⟨p.connHandle,p.advAddrType,p.advertiser,p.initAddrType,p.initiator⟩)
  pack m o := packed (whadBleNotifyConnected (some m) o.advType (some (bufferOf o.advAddr)) o.initType
    (some (bufferOf o.initAddr)) o.connHandle)
  Shows m o :=
    let p : Ble.Connected := m.msg (.ble .connected)
    o.connHandle = p.connHandle ∧ o.advType = p.advAddrType ∧ o.advAddr = p.advertiser ∧
      o.initType = p.initAddrType ∧ o.initAddr = p.initiator

def deleteSequence : WrapperClass where
  kind := .ble .deleteSeq
  Memory := Unit
  Object := UInt32
  construct m _ := some (m,SequenceMsg.id (m.msg (.ble .deleteSeq)))
  pack m id := packed (whadBlePrepareSequenceDelete (some m) id)
  Shows m id := id = SequenceMsg.id (m.msg (.ble .deleteSeq))

/-- Its accessor is declared and not defined. -/
def disconnect : WrapperClass :=
  .unpacking (.ble .disconnect) whadBleDisconnectParse whadBleDisconnect fun _ _ => True

/-- The parameters that are parsed are not stored. -/
def disconnected : WrapperClass where
  kind := .ble .disconnected
  Memory := BleDisconnectedParams × BleDisconnectedParams
  Object := BleDisconnectedParams
  construct m memory := do
    let _ ← parsedBy (whadBleNotifyDisconnectedParse (some m) (some memory.2))
    some (m,memory.1)
  pack m o := packed (whadBleNotifyDisconnected (some m) o.connHandle o.reason)
  Shows m o :=
    let p : Ble.Disconnected := m.msg (.ble .disconnected)
    o.connHandle = p.connHandle ∧ o.reason = p.reason

def hijackBoth : WrapperClass :=
  .unpacking (.ble .hijackBoth) whadBleHijackBothParse whadBleHijackBoth fun m o =>
    o = AccessAddressMsg.accessAddress (m.msg (.ble .hijackBoth))

def hijackMaster : WrapperClass :=
  .unpacking (.ble .hijackMaster) whadBleHijackMasterParse whadBleHijackMaster fun m o =>
    o = AccessAddressMsg.accessAddress (m.msg (.ble .hijackMaster))

def hijackSlave : WrapperClass :=
  .unpacking (.ble .hijackSlave) whadBleHijackSlaveParse whadBleHijackSlave fun m o =>
    o = AccessAddressMsg.accessAddress (m.msg (.ble .hijackSlave))

/-- `HijackBase` clears the access address, and nothing is unpacked. -/
def hijacked : WrapperClass where
  kind := .ble .hijacked
  Memory := Bool
  Object := BleHijackedParams
  construct m memory := some (m,⟨0,memory⟩)
  pack m o := packed (whadBleHijacked (some m) o.accessAddress o.success)
  Shows m o := o.accessAddress = Ble.Hijacked.accessAddress (m.msg (.ble .hijacked))

def injected : WrapperClass :=
  .unpacking (.ble .injected) whadBleInjectedParse
    (fun message o => whadBleInjected message o.accessAddress o.attempts o.success) fun m o =>
      let p : Ble.Injected := m.msg (.ble .injected)
      o.accessAddress = p.accessAddress ∧ o.attempts = p.injectionAttempts ∧ o.success = p.success

/-- `HijackBase` clears the access address, and nothing is unpacked. -/
def jamActiveConn : WrapperClass where
  kind := .ble .jamConn
  Memory := Unit
  Object := UInt32
  construct m _ := some (m,0)
  pack m o := packed (whadBleJamActiveConn (some m) o)
  Shows m o := o = AccessAddressMsg.accessAddress (m.msg (.ble .jamConn))

/-- `JamAdv`. -/
structure JamAdv where
  channel : UInt32
  hasChannel : Bool

/-- `whad_ble_get_message_type`, whose numbers are the tags. -/
def whadBleGetMessageType (m : FullMessage) : ℕ := if m.whichMsg = Message.bleTag then m.whichDomainMsg else 0

/-- It takes two commands, and does not store which one it is. -/
def jamAdv (kind : BleKind) : WrapperClass where
  kind := .ble kind
  Memory := JamAdv
  Object := JamAdv
  construct m memory :=
    if whadBleGetMessageType m = BleKind.tag .jamAdv then some (m,memory)
    else if whadBleGetMessageType m = BleKind.tag .jamAdvChan then do
      let channel ← parsedBy (whadBleJamAdvChannelParse (some m) (some memory.channel))
      some (m,{ memory with channel := channel })
    else none
  pack m o := packed (if o.hasChannel then whadBleJamAdvChannel (some m) o.channel else whadBleJamAdv (some m))
  Shows m o :=
    (o.hasChannel = true ↔ m.Holds (.ble .jamAdvChan)) ∧
      (m.Holds (.ble .jamAdvChan) → o.channel = ChannelCmd.channel (m.msg (.ble .jamAdvChan)))

/-- `ReactiveJam`. -/
structure ReactiveJam where
  channel : UInt32
  pattern : Vector UInt8 20
  patternLength : ℤ
  position : UInt32

def reactiveJam : WrapperClass where
  kind := .ble .reactiveJam
  Memory := ReactiveJam × BleReactiveJamParams
  Object := ReactiveJam
  construct m memory := do
    let params ← parsedBy (whadBleReactiveJamParse (some m) (some memory.2))
    let pattern ← if params.patternLength ≤ 20 then
        memcpy memory.1.pattern (bufferOf params.pattern) params.patternLength
      else some memory.1.pattern
    some (m,⟨params.channel,pattern,params.patternLength,params.position⟩)
  pack m o := packed (whadBleReactiveJam (some m) o.channel (some (bufferOf o.pattern)) o.patternLength o.position)
  Shows m o :=
    let p : ReactiveJamCmd := m.msg (.ble .reactiveJam)
    o.channel = p.channel ∧ ReadsAs p.pattern (bufferOf o.pattern) o.patternLength ∧ o.position = p.position

/-- `LinkLayerPdu`. -/
structure LinkLayerPdu where
  connHandle : UInt32
  pdu : Packet 255
  direction : EnumField BleDirection
  processed : Bool
  decrypted : Bool

/-- The direction of the parameters is not parsed, and a packet is shorter than the array of the message. -/
def linkLayerPdu : WrapperClass where
  kind := .ble .pdu
  Memory := BlePdu
  Object := LinkLayerPdu
  construct m memory := do
    let params ← parsedBy (whadBlePduParse (some m) (some memory))
    let pdu ← Packet.setBytes params.pPdu params.pduLength
    some (m,⟨params.connHandle,pdu,params.direction,params.processed,params.decrypted⟩)
  pack m o := packed (whadBlePdu (some m) (some o.pdu.getBytes) o.pdu.getSize o.direction
    o.connHandle.toInt32.toInt o.processed o.decrypted)
  Shows m o :=
    let p : PduReceived := m.msg (.ble .pdu)
    o.connHandle = p.connHandle ∧ ReadsAs p.pdu o.pdu.getBytes o.pdu.getSize ∧ o.direction = p.direction ∧
      o.processed = p.processed ∧ o.decrypted = p.decrypted

def manualTrigger : WrapperClass :=
  .unpacking (.ble .trigger) whadBlePrepareSequenceTriggerParse whadBlePrepareSequenceTrigger fun m o =>
    o = SequenceMsg.id (m.msg (.ble .trigger))

def peripheralMode : WrapperClass :=
  advertising (.ble .periphMode) whadBlePeripheralModeParse keepPeripheralData whadBlePeripheralMode fun m =>
    m.msg (.ble .periphMode)

/-- `buildPacketsArray`. -/
def buildPacketsArray (packets : List (Packet 255)) : Option (ℕ → PreparedPacket) :=
  if 0 < packets.length then some fun i =>
    let packet := packets.getD i .empty
    ⟨packet.getBytes,packet.getSize⟩
  else none

/-- The loop of both constructors, over as many packets as the parameters say. -/
def unpackPackets (params : BlePrepseqParams) : Option (List (Packet 255)) :=
  if params.packetCount ≤ 25 then
    (params.packets.toList.take params.packetCount).mapM fun packet => do
      Packet.setBytes (← packet.pBytes) packet.length
  else none

/-- Some packets are those of a prepared sequence. -/
def ShowsPackets (packets : List (Packet 255)) (x : RepeatedField PendingPacket 25) : Prop :=
  packets.length = x.count ∧
    ∀ i (hi : i < 25), i < x.count → ∃ packet, packets[i]? = some packet ∧
      ReadsAs x.items[i].packet packet.getBytes packet.getSize

/-- `PrepareSequence`, the base of both classes. -/
structure PrepareSequence where
  id : UInt32
  direction : EnumField BleDirection
  packets : List (Packet 255)

def prepareSequenceManual : WrapperClass where
  kind := .ble .prepare
  Memory := BlePrepseqParams
  Object := PrepareSequence
  construct m memory := do
    let params ← parsedBy (whadBlePrepareSequenceManualParse (some m) (some memory))
    let packets ← unpackPackets params
    some (m,⟨params.id,params.direction,packets⟩)
  pack m o := packed (whadBlePrepareSequenceManual (some m) o.id o.direction (buildPacketsArray o.packets)
    o.packets.length)
  Shows m o :=
    let p : PrepareSequenceCmd := m.msg (.ble .prepare)
    o.id = p.id ∧ o.direction = p.direction ∧ ShowsPackets o.packets p.sequence

/-- `PrepareSequenceConnEvt`. -/
structure PrepareSequenceConnEvt extends PrepareSequence where
  connEvt : UInt32

def prepareSequenceConnEvt : WrapperClass where
  kind := .ble .prepare
  Memory := BlePrepseqParams
  Object := PrepareSequenceConnEvt
  construct m memory := do
    let params ← parsedBy (whadBlePrepareSequenceConnEvtParse (some m) (some memory))
    let packets ← unpackPackets params
    some (m,⟨⟨params.id,params.direction,packets⟩,params.connEvt⟩)
  pack m o := packed (whadBlePrepareSequenceConnEvt (some m) o.connEvt o.id o.direction
    (buildPacketsArray o.packets) o.packets.length)
  Shows m o :=
    let p : PrepareSequenceCmd := m.msg (.ble .prepare)
    o.id = p.id ∧ o.direction = p.direction ∧ ShowsPackets o.packets p.sequence ∧
      (p.trigger.value.whichTrigger = Trigger.connectionEventTag →
        o.connEvt = p.trigger.value.connectionEvent.connectionEvent)

/-- `RawPdu`. -/
structure RawPdu where
  channel : UInt32
  rssi : Int32
  connHandle : UInt32
  accessAddress : UInt32
  pdu : Packet 255
  crc : UInt32
  crcValidity : Bool
  timestamp : UInt32
  relativeTimestamp : UInt32
  direction : EnumField BleDirection
  processed : Bool
  decrypted : Bool
  hasTimestamp : Bool

/-- Nothing is unpacked, and there is no accessor. -/
def rawPdu : WrapperClass where
  kind := .ble .rawPdu
  Memory := RawPdu
  Object := RawPdu
  construct m memory := some (m,{ memory with pdu := .empty })
  pack m o := packed (
    if o.hasTimestamp then
      whadBleRawPdu (some m) o.channel o.rssi o.connHandle o.accessAddress (some o.pdu.getBytes) o.pdu.getSize
        o.crc o.crcValidity o.timestamp o.relativeTimestamp o.direction o.processed o.decrypted true
    else
      whadBleRawPdu (some m) o.channel o.rssi o.connHandle o.accessAddress (some o.pdu.getBytes) o.pdu.getSize
        o.crc o.crcValidity 0 0 o.direction o.processed o.decrypted false)
  Shows _ _ := True

def scanMode : WrapperClass :=
  .unpacking (.ble .scanMode) whadBleScanModeParse whadBleScanMode fun m o =>
    o = ScanModeCmd.activeScan (m.msg (.ble .scanMode))

/-- `AdvPdu`, whose accessors are declared and not defined. The data stays in the message. -/
structure AdvPdu where
  advType : EnumField BleAdvType
  rssi : Int32
  address : Vector UInt8 6
  addrType : EnumField BleAddrType
  advData : Buffer
  advDataLength : ℤ

def advPdu : WrapperClass where
  kind := .ble .advPdu
  Memory := BleAdvPdu
  Object := AdvPdu
  construct m memory := do
    let params ← parsedBy (whadBleAdvPduParse (some m) (some memory))
    some (m,⟨params.advType,params.rssi,copyOf params.pBdaddr,params.addrType,params.pAdvData,params.advDataLength⟩)
  pack m o := packed (whadBleAdvPdu (some m) o.advType o.rssi (some (bufferOf o.address)) o.addrType
    (some o.advData) o.advDataLength)
  Shows _ _ := True

/-- `SendPdu`. -/
structure SendPdu where
  direction : EnumField BleDirection
  connHandle : UInt32
  pdu : Packet 255
  encrypt : Bool

def sendPdu : WrapperClass where
  kind := .ble .sendPdu
  Memory := BlePduParams
  Object := SendPdu
  construct m memory := do
    let params ← parsedBy (whadBleSendPduParse (some m) (some memory))
    let pdu ← Packet.setBytes params.pPdu params.length
    some (m,⟨params.direction,params.connHandle,pdu,params.encrypt⟩)
  pack m o := packed (whadBleSendPdu (some m) o.direction o.connHandle (some o.pdu.getBytes) o.pdu.getSize o.encrypt)
  Shows m o :=
    let p : SendPDUCmd := m.msg (.ble .sendPdu)
    o.direction = p.direction ∧ o.connHandle = p.connHandle ∧ ReadsAs p.pdu o.pdu.getBytes o.pdu.getSize ∧
      o.encrypt = p.encrypt

/-- `SendRawPdu`. -/
structure SendRawPdu where
  direction : EnumField BleDirection
  connHandle : UInt32
  accessAddr : UInt32
  pdu : Packet 255
  crc : UInt32
  encrypt : Bool

def sendRawPdu : WrapperClass where
  kind := .ble .sendRawPdu
  Memory := BlePduParams
  Object := SendRawPdu
  construct m memory := do
    let params ← parsedBy (whadBleSendRawPduParse (some m) (some memory))
    let pdu ← Packet.setBytes params.pPdu params.length
    some (m,⟨params.direction,params.connHandle,params.accessAddress,pdu,params.crc,params.encrypt⟩)
  pack m o := packed (whadBleSendRawPdu (some m) o.direction o.connHandle o.accessAddr (some o.pdu.getBytes)
    o.pdu.getSize o.crc o.encrypt)
  Shows m o :=
    let p : SendRawPDUCmd := m.msg (.ble .sendRawPdu)
    o.direction = p.direction ∧ o.connHandle = p.connHandle ∧ o.accessAddr = p.accessAddress ∧
      ReadsAs p.pdu o.pdu.getBytes o.pdu.getSize ∧ o.crc = p.crc ∧ o.encrypt = p.encrypt

/-- Its accessor is declared and not defined. -/
def sequenceTriggered : WrapperClass :=
  .unpacking (.ble .triggered) whadBleTriggeredParse whadBleTriggered fun _ _ => True

/-- The parser always returns an error. -/
def setAdvData : WrapperClass where
  kind := .ble .setAdvData
  Memory := Unit
  Object := Unit
  construct m _ := (parsedBy (whadBleSetAdvDataParse (some m) (some ()))).map fun o => (m,o)
  pack _ _ := none
  Shows _ _ := True

/-- It packs nothing, and its accessor calls the parser. -/
def setBdAddress : WrapperClass where
  kind := .ble .setBdAddr
  Memory := Unit
  Object := Unit
  construct m _ := some (m,())
  pack m _ := some m
  Shows m _ :=
    let p : SetBdAddressCmd := m.msg (.ble .setBdAddr)
    ∀ addrType bdAddress, parsedBy (whadBleSetBdaddressParse (some m) (some addrType) (some bdAddress)) =
      some (p.addrType,p.bdAddress)

/-- `SetEncryption`. -/
structure SetEncryption where
  connHandle : UInt32
  enabled : Bool
  llKey : Vector UInt8 16
  llIv : Vector UInt8 8
  key : Vector UInt8 16
  rand : Vector UInt8 8
  eDiv : Vector UInt8 2

def SetEncryption.pack (m : FullMessage) (o : SetEncryption) : Option FullMessage :=
  packed (whadBleSetEncryption (some m) o.connHandle o.enabled (some (bufferOf o.llKey)) (some (bufferOf o.llIv))
    (some (bufferOf o.key)) (some (bufferOf o.rand)) (some (bufferOf o.eDiv)))

/-- `unpack()` calls `getRaw()`, so that the message is packed before it is parsed. -/
def setEncryption : WrapperClass where
  kind := .ble .encryption
  Memory := SetEncryption × BleEncryptionParams
  Object := SetEncryption
  construct m memory := do
    let m ← memory.1.pack m
    let params ← parsedBy (whadBleSetEncryptionParse (some m) (some memory.2))
    some (m,⟨params.connHandle,params.enabled,copyOf params.pLlKey,copyOf params.pLlIv,copyOf params.pKey,
      copyOf params.pRand,copyOf params.pEdiv⟩)
  pack := SetEncryption.pack
  Shows m o :=
    let p : SetEncryptionCmd := m.msg (.ble .encryption)
    o.connHandle = p.connHandle.toUInt32 ∧ o.enabled = p.enabled ∧ o.llKey = p.llKey ∧ o.llIv = p.llIv ∧
      o.key = p.key ∧ o.rand = p.rand ∧ o.eDiv = p.ediv

def sniffAccessAddress : WrapperClass :=
  .unpacking (.ble .sniffAa) whadBleSniffAccessAddressParse
    (fun message o => whadBleSniffAccessAddress message (some (bufferOf o))) fun m o =>
      o = SniffAccessAddressCmd.monitoredChannels (m.msg (.ble .sniffAa))

def accessAddressDiscovered : WrapperClass :=
  .unpacking (.ble .aaDisc) whadBleAccessAddressDiscoveredParse
    (fun message o => whadBleAccessAddressDiscovered message o.accessAddress o.timestamp o.rssi o.incTs o.incRssi)
    fun m o =>
      let p : Ble.AccessAddressDiscovered := m.msg (.ble .aaDisc)
      o.accessAddress = p.accessAddress ∧ o.incRssi = p.rssi.has ∧ p.rssi.Shown o.rssi ∧
        o.incTs = p.timestamp.has ∧ p.timestamp.Shown o.timestamp.toUInt64

def sniffActiveConn : WrapperClass :=
  .unpacking (.ble .sniffConn) whadBleSniffActiveConnParse
    (fun message o => whadBleSniffActiveConn message o.accessAddress o.crcInit o.hopInterval o.hopIncrement
      (some (bufferOf o.channelmap)) (some (bufferOf o.channels)))
    fun m o =>
      let p : SniffActiveConnCmd := m.msg (.ble .sniffConn)
      o.accessAddress = p.accessAddress ∧ o.crcInit = p.crcInit ∧ o.hopInterval = p.hopInterval ∧
        o.hopIncrement = p.hopIncrement ∧ o.channelmap = p.channelMap ∧ o.channels = p.monitoredChannels

/-- `SniffAdv`. -/
structure SniffAdv where
  channel : UInt32
  targetAddr : Vector UInt8 6
  useExtAdv : Bool

def sniffAdv : WrapperClass where
  kind := .ble .sniffAdv
  Memory := BleSniffAdvParams
  Object := SniffAdv
  construct m memory := do
    let params ← parsedBy (whadBleSniffAdvParse (some m) (some memory))
    some (m,⟨params.channel,copyOf params.pBdaddr,params.useExtAdv⟩)
  pack m o := packed (whadBleSniffAdv (some m) o.useExtAdv o.channel (some (bufferOf o.targetAddr)))
  Shows m o :=
    let p : SniffAdvCmd := m.msg (.ble .sniffAdv)
    o.channel = p.channel ∧ o.useExtAdv = p.useExtendedAdv ∧ o.targetAddr = p.bdAddress

def sniffConnReq : WrapperClass :=
  .unpacking (.ble .sniffConnreq) whadBleSniffConnReqParse
    (fun message o => whadBleSniffConnReq message o.showEmptyPackets o.showAdv o.channel (some (bufferOf o.pBdaddr)))
    fun m o =>
      let p : SniffConnReqCmd := m.msg (.ble .sniffConnreq)
      o.channel = p.channel ∧ o.pBdaddr = p.bdAddress ∧ o.showAdv = p.showAdvertisements ∧
        o.showEmptyPackets = p.showEmptyPackets

def start : WrapperClass := .plain (.ble .start) whadBleStart

def stop : WrapperClass := .plain (.ble .stop) whadBleStop

def synchronized : WrapperClass :=
  .unpacking (.ble .synchronized) whadBleSynchronizedParse
    (fun message o => whadBleSynchronized message o.accessAddress o.crcInit o.hopInterval o.hopIncrement
      (some (bufferOf o.channelmap)))
    fun m o =>
      let p : Ble.Synchronized := m.msg (.ble .synchronized)
      o.accessAddress = p.accessAddress ∧ o.crcInit = p.crcInit ∧ o.hopInterval = p.hopInterval ∧
        o.hopIncrement = p.hopIncrement ∧ o.channelmap = p.channelMap

def desynchronized : WrapperClass :=
  .unpacking (.ble .desynchronized) whadBleDesynchronizedParse whadBleDesynchronized fun m o =>
    o = AccessAddressMsg.accessAddress (m.msg (.ble .desynchronized))

/-- Nothing is unpacked. The number has eight bits. -/
def triggered : WrapperClass where
  kind := .ble .triggered
  Memory := UInt8
  Object := UInt8
  construct m memory := some (m,memory)
  pack m o := packed (whadBleTriggered (some m) o.toUInt32)
  Shows m o := o.toUInt32 = SequenceMsg.id (m.msg (.ble .triggered))

end WhadLib.Ble.Wrapper
