import WhadLib.FullMessage

/-! The builders of the BLE domain, in the order of the source. An `int` is an integer, a pointer is
`none` when it is `NULL`. -/
namespace WhadLib.Ble
open Library

/-- `BLE_RSSI_NONE`. -/
def bleRssiNone : Int32 := -4096

/-- `BLE_PREPSEQ_PACKET_MAX_SIZE` and `BLE_PREPSEQ_TRIGGER_MAX_SIZE`. -/
def blePrepseqPacketMaxSize : ℤ := 255
def blePrepseqTriggerMaxSize : ℤ := 255

def whadBleRawPdu (message : Option FullMessage) (channel : UInt32) (rssi : Int32)
    (connHandle accessAddress : UInt32) (pPdu : Option Buffer) (length : ℤ) (crc : UInt32) (crcValidity : Bool)
    (timestamp relativeTimestamp : UInt32) (direction : EnumField BleDirection)
    (processed decrypted useTimestamp : Bool) : Outcome :=
  match message, pPdu with
  | some m, some pPdu => m.build (.ble .rawPdu) fun (p : RawPduReceived) => do
    let pdu ← p.pdu.fill pPdu length
    -- without a timestamp both flags stay as they are
    let p := if useTimestamp then { p with
        timestamp := ⟨true,timestamp.toUInt64⟩, relativeTimestamp := ⟨true,relativeTimestamp.toUInt64⟩ }
      else p
    done { p with
      channel := channel, accessAddress := accessAddress, connHandle := connHandle, direction := direction
      pdu := pdu, crc := crc, crcValidity := ⟨true,crcValidity⟩
      rssi := if rssi ≠ bleRssiNone then ⟨true,rssi⟩ else ⟨false,0⟩
      processed := processed, decrypted := decrypted }
  | _, _ => refuse message

def whadBlePdu (message : Option FullMessage) (pPdu : Option Buffer) (length : ℤ)
    (direction : EnumField BleDirection) (connHandle : ℤ) (processed decrypted : Bool) : Outcome :=
  match message, pPdu with
  | some m, some pPdu => m.build (.ble .pdu) fun (p : PduReceived) => do
    let pdu ← p.pdu.fill pPdu length
    done { p with
      processed := processed, decrypted := decrypted, direction := direction
      connHandle := UInt32.ofInt connHandle, pdu := pdu }
  | _, _ => refuse message

def whadBleNotifyConnected (message : Option FullMessage) (advAddrType : EnumField BleAddrType)
    (pAdvAddr : Option Buffer) (initAddrType : EnumField BleAddrType) (pInitAddr : Option Buffer)
    (connHandle : UInt32) : Outcome :=
  match message, pAdvAddr, pInitAddr with
  | some m, some pAdvAddr, some pInitAddr => m.assign (.ble .connected) fun (p : Connected) => { p with
      accessAddress := 0, connHandle := connHandle, advertiser := copyOf pAdvAddr, advAddrType := advAddrType
      initiator := copyOf pInitAddr, initAddrType := initAddrType }
  | _, _, _ => refuse message

def whadBleNotifyDisconnected (message : Option FullMessage) (connHandle reason : UInt32) : Outcome :=
  checked message fun m => m.assign (.ble .disconnected) fun (p : Disconnected) =>
    { p with connHandle := connHandle, reason := reason }

def whadBleSetBdaddress (message : Option FullMessage) (addrType : EnumField BleAddrType)
    (pBdaddr : Option Buffer) : Outcome :=
  match message, pBdaddr with
  | some m, some pBdaddr => m.assign (.ble .setBdAddr) fun (p : SetBdAddressCmd) =>
      { p with addrType := addrType, bdAddress := copyOf pBdaddr }
  | _, _ => refuse message

def whadBleSniffAdv (message : Option FullMessage) (useExtAdv : Bool) (channel : UInt32)
    (pBdaddr : Option Buffer) : Outcome :=
  match message, pBdaddr with
  | some m, some pBdaddr => m.assign (.ble .sniffAdv) fun (p : SniffAdvCmd) =>
      { p with useExtendedAdv := useExtAdv, channel := channel, bdAddress := copyOf pBdaddr }
  | _, _ => refuse message

def whadBleJamAdv (message : Option FullMessage) : Outcome :=
  checked message fun m => m.assign (.ble .jamAdv) fun p => p

def whadBleJamAdvChannel (message : Option FullMessage) (channel : UInt32) : Outcome :=
  checked message fun m => m.assign (.ble .jamAdvChan) fun (p : ChannelCmd) => { p with channel := channel }

def whadBleSniffConnReq (message : Option FullMessage) (showEmptyPackets showAdv : Bool) (channel : UInt32)
    (pBdaddr : Option Buffer) : Outcome :=
  match message, pBdaddr with
  | some m, some pBdaddr => m.assign (.ble .sniffConnreq) fun (p : SniffConnReqCmd) => { p with
      showEmptyPackets := showEmptyPackets, showAdvertisements := showAdv, channel := channel
      bdAddress := copyOf pBdaddr }
  | _, _ => refuse message

def whadBleSniffAccessAddress (message : Option FullMessage) (pChannelmap : Option Buffer) : Outcome :=
  match message, pChannelmap with
  | some m, some pChannelmap => m.assign (.ble .sniffAa) fun (p : SniffAccessAddressCmd) =>
      { p with monitoredChannels := copyOf pChannelmap }
  | _, _ => refuse message

def whadBleSniffActiveConn (message : Option FullMessage) (accessAddress crcInit hopInterval hopIncrement : UInt32)
    (pChannelmap pChannels : Option Buffer) : Outcome :=
  match message, pChannelmap, pChannels with
  | some m, some pChannelmap, some pChannels => m.assign (.ble .sniffConn) fun (p : SniffActiveConnCmd) => { p with
      accessAddress := accessAddress, crcInit := crcInit, hopInterval := hopInterval
      hopIncrement := hopIncrement, channelMap := copyOf pChannelmap, monitoredChannels := copyOf pChannels }
  | _, _, _ => refuse message

def whadBleJamActiveConn (message : Option FullMessage) (accessAddress : UInt32) : Outcome :=
  checked message fun m => m.assign (.ble .jamConn) fun (p : AccessAddressMsg) =>
    { p with accessAddress := accessAddress }

def whadBleScanMode (message : Option FullMessage) (activeScan : Bool) : Outcome :=
  checked message fun m => m.assign (.ble .scanMode) fun (p : ScanModeCmd) => { p with activeScan := activeScan }

/-- Advertising data, if provided, cut to 31 bytes. -/
def storeAdvData (x : BytesArray 31) (src : Buffer) (length : ℤ) : Option (BytesArray 31) :=
  if 0 < length then x.fill src (if 31 < length then 31 else length) else some x

/-- The body of the two builders with advertising data. -/
def storeAdvMode (pAdvData : Buffer) (advDataLength : ℤ) (pScanrspData : Buffer) (scanrspDataLength : ℤ)
    (p : AdvModeCmd) : Option (WhadResult × AdvModeCmd) := do
  let scanData ← storeAdvData p.scanData pAdvData advDataLength
  let scanrspData ← storeAdvData p.scanrspData pScanrspData scanrspDataLength
  done { p with scanData := scanData, scanrspData := scanrspData }

def whadBleAdvMode (message : Option FullMessage) (pAdvData : Option Buffer) (advDataLength : ℤ)
    (pScanrspData : Option Buffer) (scanrspDataLength : ℤ) : Outcome :=
  match message, pAdvData, pScanrspData with
  | some m, some pAdvData, some pScanrspData =>
      m.build (.ble .advMode) (storeAdvMode pAdvData advDataLength pScanrspData scanrspDataLength)
  | _, _, _ => refuse message

def whadBleSetAdvData (message : Option FullMessage) (pAdvData : Option Buffer) (advDataLength : ℤ)
    (pScanrspData : Option Buffer) (scanrspDataLength : ℤ) : Outcome :=
  match message, pAdvData, pScanrspData with
  | some m, some _, some _ => m.build (.ble .setAdvData) fun p =>
      if 31 < advDataLength ∨ 31 < scanrspDataLength then failed p else failed p
  | _, _, _ => refuse message

def whadBleCentralMode (message : Option FullMessage) : Outcome :=
  checked message fun m => m.assign (.ble .centralMode) fun p => p

/-- What is not given keeps its flag and its value. -/
def whadBleConnectTo (message : Option FullMessage) (pBdaddr : Option Buffer) (addrType : EnumField BleAddrType)
    (accessAddress : UInt32) (pChannelmap : Option Buffer) (hopInterval hopIncrement crcInit : UInt32) : Outcome :=
  match message, pBdaddr with
  | some m, some pBdaddr => m.assign (.ble .connect) fun (p : ConnectToCmd) => { p with
      addrType := addrType, bdAddress := copyOf pBdaddr
      accessAddress := if accessAddress ≠ 0 then ⟨true,accessAddress⟩ else p.accessAddress
      channelMap := match pChannelmap with
        | some pChannelmap => ⟨true,copyOf pChannelmap⟩
        | none => p.channelMap
      hopInterval := if 0 < hopInterval then ⟨true,hopInterval⟩ else p.hopInterval
      hopIncrement := if 0 < hopIncrement then ⟨true,hopIncrement⟩ else p.hopIncrement
      crcInit := if crcInit ≠ 0 then ⟨true,crcInit⟩ else p.crcInit }
  | _, _ => refuse message

/-- The size of the PDU is not set. -/
def whadBleSendRawPdu (message : Option FullMessage) (direction : EnumField BleDirection)
    (connHandle accessAddress : UInt32) (pPdu : Option Buffer) (length : ℤ) (crc : UInt32) (encrypt : Bool) : Outcome :=
  match message, pPdu with
  | some m, some pPdu => m.build (.ble .sendRawPdu) fun (p : SendRawPDUCmd) => do
    let bytes ← memcpy p.pdu.bytes pPdu length
    done { p with
      direction := direction, connHandle := connHandle, accessAddress := accessAddress, crc := crc
      encrypt := encrypt, pdu := { p.pdu with bytes := bytes } }
  | _, _ => refuse message

/-- A copy into the array of `send_raw_pdu`, seen through `send_pdu`: that array has 300 bytes too, and
its structure has an access address more in front of it. Its bytes 296 and up lie behind the array
of `send_pdu`; the first of them is `encrypt`. -/
def SendPDUCmd.copyToRaw (p : SendPDUCmd) (src : Buffer) (length : ℤ) : Option SendPDUCmd :=
  if 0 ≤ length ∧ length ≤ 300 then some { p with
    pdu := { p.pdu with
      bytes := Vector.ofFn fun i => if 4 ≤ i.val ∧ (i : ℤ) < length+4 then src (i.val-4) else p.pdu.bytes[i] }
    encrypt := if 296 < length then src 296 != 0 else p.encrypt }
  else none

/-- The size of the PDU is not set, and its bytes go to the member of another message. -/
def whadBleSendPdu (message : Option FullMessage) (direction : EnumField BleDirection) (connHandle : UInt32)
    (pPdu : Option Buffer) (length : ℤ) (encrypt : Bool) : Outcome :=
  match message, pPdu with
  | some m, some pPdu => m.build (.ble .sendPdu) fun (p : SendPDUCmd) => do
    let p ← { p with direction := direction, connHandle := connHandle, encrypt := encrypt }.copyToRaw pPdu length
    done p
  | _, _ => refuse message

def whadBleDisconnect (message : Option FullMessage) (connHandle : UInt32) : Outcome :=
  checked message fun m => m.assign (.ble .disconnect) fun (p : DisconnectCmd) =>
    { p with connHandle := connHandle.toInt32 }

/-- The data goes to `adv_mode`, whose fields lie where those of `periph_mode` do. -/
def whadBlePeripheralMode (message : Option FullMessage) (pAdvData : Option Buffer) (advDataLength : ℤ)
    (pScanrspData : Option Buffer) (scanrspDataLength : ℤ) : Outcome :=
  match message, pAdvData, pScanrspData with
  | some m, some pAdvData, some pScanrspData =>
      m.build (.ble .periphMode) (storeAdvMode pAdvData advDataLength pScanrspData scanrspDataLength)
  | _, _, _ => refuse message

def whadBleStart (message : Option FullMessage) : Outcome :=
  checked message fun m => m.assign (.ble .start) fun p => p

def whadBleStop (message : Option FullMessage) : Outcome :=
  checked message fun m => m.assign (.ble .stop) fun p => p

def whadBleHijackMaster (message : Option FullMessage) (accessAddress : UInt32) : Outcome :=
  checked message fun m => m.assign (.ble .hijackMaster) fun (p : AccessAddressMsg) =>
    { p with accessAddress := accessAddress }

def whadBleHijackSlave (message : Option FullMessage) (accessAddress : UInt32) : Outcome :=
  checked message fun m => m.assign (.ble .hijackSlave) fun (p : AccessAddressMsg) =>
    { p with accessAddress := accessAddress }

def whadBleHijackBoth (message : Option FullMessage) (accessAddress : UInt32) : Outcome :=
  checked message fun m => m.assign (.ble .hijackBoth) fun (p : AccessAddressMsg) =>
    { p with accessAddress := accessAddress }

def whadBleSetEncryption (message : Option FullMessage) (connHandle : UInt32) (enabled : Bool)
    (pLlKey pLlIv pKey pRand pEdiv : Option Buffer) : Outcome :=
  match message, pLlKey, pLlIv, pKey, pRand, pEdiv with
  | some m, some pLlKey, some pLlIv, some pKey, some pRand, some pEdiv =>
    m.assign (.ble .encryption) fun (p : SetEncryptionCmd) => { p with
      connHandle := connHandle.toInt32, enabled := enabled, llKey := copyOf pLlKey, llIv := copyOf pLlIv
      key := copyOf pKey, rand := copyOf pRand, ediv := copyOf pEdiv }
  | _, _, _, _, _, _ => refuse message

/-- The pointer to the pattern is not checked, and the size is set before it is. -/
def whadBleReactiveJam (message : Option FullMessage) (channel : UInt32) (pPattern : Option Buffer)
    (patternLength : ℤ) (position : UInt32) : Outcome :=
  checked message fun m => m.build (.ble .reactiveJam) fun (p : ReactiveJamCmd) =>
    let p := { p with
      channel := channel, position := position, pattern := { p.pattern with size := sizeOf16 patternLength } }
    if 0 < patternLength then
      if 20 < patternLength then failed p
      else do
        let bytes ← memcpy p.pattern.bytes (← pPattern) patternLength
        done { p with pattern := { p.pattern with bytes := bytes } }
    else done p

/-- `whad_prepared_packet_t`; its bytes are those of an array, so that they have an address. -/
structure PreparedPacket where
  pBytes : Buffer
  length : ℤ

/-- The loop of `_whad_ble_sequence_copy_packets`: `rest` packets from number `i` on. -/
def copyPacketsFrom (packets : ℕ → PreparedPacket) :
    (rest i : ℕ) → Vector PendingPacket 25 → Option (WhadResult × Vector PendingPacket 25)
  | 0, _, sequence => done sequence
  | rest+1, i, sequence =>
    if h : i < 25 then
      let packet := sequence[i].packet
      let length := (packets i).length
      if 0 < length ∧ length ≤ blePrepseqPacketMaxSize then do
        let packet ← packet.fill (packets i).pBytes length
        copyPacketsFrom packets rest (i+1) (sequence.set i ⟨packet⟩)
      else failed (sequence.set i ⟨{ packet with size := sizeOf16 length }⟩)
    else none

/-- `_whad_ble_sequence_copy_packets`. -/
def whadBleSequenceCopyPackets (pPackets : Option (ℕ → PreparedPacket)) (pktCount : ℤ)
    (p : PrepareSequenceCmd) : Option (WhadResult × PrepareSequenceCmd) :=
  let p := { p with sequence := { p.sequence with count := sizeOf16 pktCount } }
  if 0 < pktCount then do
    let (result,items) ← copyPacketsFrom (← pPackets) pktCount.toNat 0 p.sequence.items
    some (result,{ p with sequence := { p.sequence with items := items } })
  else done p

/-- The check of `p_packets` is the wrong way round, and the offset is not stored. -/
def whadBlePrepareSequenceOnRecv (message : Option FullMessage) (pPattern pMask : Option Buffer) (length : ℤ)
    (_offset : ℤ) (id : UInt32) (direction : EnumField BleDirection) (pPackets : Option (ℕ → PreparedPacket))
    (pktCount : ℤ) : Outcome :=
  match message, pPattern, pMask, pPackets with
  | some m, some pPattern, some pMask, none => m.build (.ble .prepare) fun (p : PrepareSequenceCmd) =>
    let trigger := { p.trigger.value with whichTrigger := Trigger.receptionTag }
    let p := { p with id := id, trigger := ⟨true,trigger⟩ }
    if 0 < length ∧ length < blePrepseqTriggerMaxSize then do
      let pattern ← trigger.reception.pattern.fill pPattern length
      let mask ← trigger.reception.mask.fill pMask length
      let trigger := { trigger with reception := { trigger.reception with pattern := pattern, mask := mask } }
      whadBleSequenceCopyPackets none pktCount { p with trigger := ⟨true,trigger⟩, direction := direction }
    else failed p
  | _, _, _, _ => refuse message

def whadBlePrepareSequenceManual (message : Option FullMessage) (id : UInt32) (direction : EnumField BleDirection)
    (pPackets : Option (ℕ → PreparedPacket)) (pktCount : ℤ) : Outcome :=
  match message, pPackets with
  | some m, some pPackets => m.build (.ble .prepare) fun (p : PrepareSequenceCmd) =>
    whadBleSequenceCopyPackets (some pPackets) pktCount { p with
      id := id, trigger := ⟨true,{ p.trigger.value with whichTrigger := Trigger.manualTag }⟩
      direction := direction }
  | _, _ => refuse message

def whadBlePrepareSequenceConnEvt (message : Option FullMessage) (connectionEvent id : UInt32)
    (direction : EnumField BleDirection) (pPackets : Option (ℕ → PreparedPacket)) (pktCount : ℤ) : Outcome :=
  match message, pPackets with
  | some m, some pPackets => m.build (.ble .prepare) fun (p : PrepareSequenceCmd) =>
    whadBleSequenceCopyPackets (some pPackets) pktCount { p with
      id := id
      trigger := ⟨true,{ p.trigger.value with
        whichTrigger := Trigger.connectionEventTag, connectionEvent := ⟨connectionEvent⟩ }⟩
      direction := direction }
  | _, _ => refuse message

def whadBlePrepareSequenceTrigger (message : Option FullMessage) (id : UInt32) : Outcome :=
  checked message fun m => m.assign (.ble .trigger) fun (p : SequenceMsg) => { p with id := id }

def whadBlePrepareSequenceDelete (message : Option FullMessage) (id : UInt32) : Outcome :=
  checked message fun m => m.assign (.ble .deleteSeq) fun (p : SequenceMsg) => { p with id := id }

def whadBleTriggered (message : Option FullMessage) (id : UInt32) : Outcome :=
  checked message fun m => m.assign (.ble .triggered) fun (p : SequenceMsg) => { p with id := id }

/-- A timestamp or RSSI that is not included keeps its flag. -/
def whadBleAccessAddressDiscovered (message : Option FullMessage) (accessAddress timestamp : UInt32) (rssi : Int32)
    (incTs incRssi : Bool) : Outcome :=
  checked message fun m => m.assign (.ble .aaDisc) fun (p : AccessAddressDiscovered) => { p with
    accessAddress := accessAddress
    timestamp := if incTs then ⟨true,timestamp.toUInt64⟩ else p.timestamp
    rssi := if incRssi then ⟨true,rssi⟩ else p.rssi }

def whadBleAdvPdu (message : Option FullMessage) (advType : EnumField BleAdvType) (rssi : Int32)
    (pBdaddr : Option Buffer) (addrType : EnumField BleAddrType) (pAdvData : Option Buffer)
    (advDataLength : ℤ) : Outcome :=
  match message, pBdaddr, pAdvData with
  | some m, some pBdaddr, some pAdvData => m.build (.ble .advPdu) fun (p : AdvPduReceived) => do
    let advData ← if 0 < advDataLength ∧ advDataLength < 31 then p.advData.fill pAdvData advDataLength
      else some p.advData
    done { p with
      addrType := addrType, rssi := rssi, advType := advType, bdAddress := copyOf pBdaddr, advData := advData }
  | _, _, _ => refuse message

def whadBleSynchronized (message : Option FullMessage) (accessAddress crcInit hopInterval hopIncrement : UInt32)
    (pChannelmap : Option Buffer) : Outcome :=
  match message, pChannelmap with
  | some m, some pChannelmap => m.assign (.ble .synchronized) fun (p : Synchronized) => { p with
      accessAddress := accessAddress, hopInterval := hopInterval, hopIncrement := hopIncrement
      crcInit := crcInit, channelMap := copyOf pChannelmap }
  | _, _ => refuse message

def whadBleDesynchronized (message : Option FullMessage) (accessAddress : UInt32) : Outcome :=
  checked message fun m => m.assign (.ble .desynchronized) fun (p : AccessAddressMsg) =>
    { p with accessAddress := accessAddress }

def whadBleHijacked (message : Option FullMessage) (accessAddress : UInt32) (success : Bool) : Outcome :=
  checked message fun m => m.assign (.ble .hijacked) fun (p : Hijacked) =>
    { p with accessAddress := accessAddress, success := success }

def whadBleInjected (message : Option FullMessage) (accessAddress attempts : UInt32) (success : Bool) : Outcome :=
  checked message fun m => m.assign (.ble .injected) fun (p : Injected) =>
    { p with accessAddress := accessAddress, injectionAttempts := attempts, success := success }

/-- The calls of the builders, with every argument but the message. -/
inductive BleBuilder
  | rawPdu (channel : UInt32) (rssi : Int32) (connHandle accessAddress : UInt32) (pPdu : Option Buffer)
      (length : ℤ) (crc : UInt32) (crcValidity : Bool) (timestamp relativeTimestamp : UInt32)
      (direction : EnumField BleDirection) (processed decrypted useTimestamp : Bool)
  | pdu (pPdu : Option Buffer) (length : ℤ) (direction : EnumField BleDirection) (connHandle : ℤ)
      (processed decrypted : Bool)
  | notifyConnected (advAddrType : EnumField BleAddrType) (pAdvAddr : Option Buffer)
      (initAddrType : EnumField BleAddrType) (pInitAddr : Option Buffer) (connHandle : UInt32)
  | notifyDisconnected (connHandle reason : UInt32)
  | setBdaddress (addrType : EnumField BleAddrType) (pBdaddr : Option Buffer)
  | sniffAdv (useExtAdv : Bool) (channel : UInt32) (pBdaddr : Option Buffer)
  | jamAdv
  | jamAdvChannel (channel : UInt32)
  | sniffConnReq (showEmptyPackets showAdv : Bool) (channel : UInt32) (pBdaddr : Option Buffer)
  | sniffAccessAddress (pChannelmap : Option Buffer)
  | sniffActiveConn (accessAddress crcInit hopInterval hopIncrement : UInt32)
      (pChannelmap pChannels : Option Buffer)
  | jamActiveConn (accessAddress : UInt32)
  | scanMode (activeScan : Bool)
  | advMode (pAdvData : Option Buffer) (advDataLength : ℤ) (pScanrspData : Option Buffer)
      (scanrspDataLength : ℤ)
  | setAdvData (pAdvData : Option Buffer) (advDataLength : ℤ) (pScanrspData : Option Buffer)
      (scanrspDataLength : ℤ)
  | centralMode
  | connectTo (pBdaddr : Option Buffer) (addrType : EnumField BleAddrType) (accessAddress : UInt32)
      (pChannelmap : Option Buffer) (hopInterval hopIncrement crcInit : UInt32)
  | sendRawPdu (direction : EnumField BleDirection) (connHandle accessAddress : UInt32)
      (pPdu : Option Buffer) (length : ℤ) (crc : UInt32) (encrypt : Bool)
  | sendPdu (direction : EnumField BleDirection) (connHandle : UInt32) (pPdu : Option Buffer)
      (length : ℤ) (encrypt : Bool)
  | disconnect (connHandle : UInt32)
  | peripheralMode (pAdvData : Option Buffer) (advDataLength : ℤ) (pScanrspData : Option Buffer)
      (scanrspDataLength : ℤ)
  | start
  | stop
  | hijackMaster (accessAddress : UInt32)
  | hijackSlave (accessAddress : UInt32)
  | hijackBoth (accessAddress : UInt32)
  | setEncryption (connHandle : UInt32) (enabled : Bool) (pLlKey pLlIv pKey pRand pEdiv : Option Buffer)
  | reactiveJam (channel : UInt32) (pPattern : Option Buffer) (patternLength : ℤ) (position : UInt32)
  | prepareSequenceOnRecv (pPattern pMask : Option Buffer) (length : ℤ) (offset : ℤ) (id : UInt32)
      (direction : EnumField BleDirection) (pPackets : Option (ℕ → PreparedPacket)) (pktCount : ℤ)
  | prepareSequenceManual (id : UInt32) (direction : EnumField BleDirection)
      (pPackets : Option (ℕ → PreparedPacket)) (pktCount : ℤ)
  | prepareSequenceConnEvt (connectionEvent id : UInt32) (direction : EnumField BleDirection)
      (pPackets : Option (ℕ → PreparedPacket)) (pktCount : ℤ)
  | prepareSequenceTrigger (id : UInt32)
  | prepareSequenceDelete (id : UInt32)
  | triggered (id : UInt32)
  | accessAddressDiscovered (accessAddress timestamp : UInt32) (rssi : Int32) (incTs incRssi : Bool)
  | advPdu (advType : EnumField BleAdvType) (rssi : Int32) (pBdaddr : Option Buffer)
      (addrType : EnumField BleAddrType) (pAdvData : Option Buffer) (advDataLength : ℤ)
  | synchronized (accessAddress crcInit hopInterval hopIncrement : UInt32) (pChannelmap : Option Buffer)
  | desynchronized (accessAddress : UInt32)
  | hijacked (accessAddress : UInt32) (success : Bool)
  | injected (accessAddress attempts : UInt32) (success : Bool)

abbrev BleBuilder.run : BleBuilder → Option FullMessage → Outcome
  | .rawPdu channel rssi connHandle accessAddress pPdu length crc crcValidity timestamp
      relativeTimestamp direction processed decrypted useTimestamp, m =>
    whadBleRawPdu m channel rssi connHandle accessAddress pPdu length crc crcValidity timestamp
      relativeTimestamp direction processed decrypted useTimestamp
  | .pdu pPdu length direction connHandle processed decrypted, m =>
    whadBlePdu m pPdu length direction connHandle processed decrypted
  | .notifyConnected advAddrType pAdvAddr initAddrType pInitAddr connHandle, m =>
    whadBleNotifyConnected m advAddrType pAdvAddr initAddrType pInitAddr connHandle
  | .notifyDisconnected connHandle reason, m => whadBleNotifyDisconnected m connHandle reason
  | .setBdaddress addrType pBdaddr, m => whadBleSetBdaddress m addrType pBdaddr
  | .sniffAdv useExtAdv channel pBdaddr, m => whadBleSniffAdv m useExtAdv channel pBdaddr
  | .jamAdv, m => whadBleJamAdv m
  | .jamAdvChannel channel, m => whadBleJamAdvChannel m channel
  | .sniffConnReq showEmptyPackets showAdv channel pBdaddr, m =>
    whadBleSniffConnReq m showEmptyPackets showAdv channel pBdaddr
  | .sniffAccessAddress pChannelmap, m => whadBleSniffAccessAddress m pChannelmap
  | .sniffActiveConn accessAddress crcInit hopInterval hopIncrement pChannelmap pChannels, m =>
    whadBleSniffActiveConn m accessAddress crcInit hopInterval hopIncrement pChannelmap pChannels
  | .jamActiveConn accessAddress, m => whadBleJamActiveConn m accessAddress
  | .scanMode activeScan, m => whadBleScanMode m activeScan
  | .advMode pAdvData advDataLength pScanrspData scanrspDataLength, m =>
    whadBleAdvMode m pAdvData advDataLength pScanrspData scanrspDataLength
  | .setAdvData pAdvData advDataLength pScanrspData scanrspDataLength, m =>
    whadBleSetAdvData m pAdvData advDataLength pScanrspData scanrspDataLength
  | .centralMode, m => whadBleCentralMode m
  | .connectTo pBdaddr addrType accessAddress pChannelmap hopInterval hopIncrement crcInit, m =>
    whadBleConnectTo m pBdaddr addrType accessAddress pChannelmap hopInterval hopIncrement crcInit
  | .sendRawPdu direction connHandle accessAddress pPdu length crc encrypt, m =>
    whadBleSendRawPdu m direction connHandle accessAddress pPdu length crc encrypt
  | .sendPdu direction connHandle pPdu length encrypt, m =>
    whadBleSendPdu m direction connHandle pPdu length encrypt
  | .disconnect connHandle, m => whadBleDisconnect m connHandle
  | .peripheralMode pAdvData advDataLength pScanrspData scanrspDataLength, m =>
    whadBlePeripheralMode m pAdvData advDataLength pScanrspData scanrspDataLength
  | .start, m => whadBleStart m
  | .stop, m => whadBleStop m
  | .hijackMaster accessAddress, m => whadBleHijackMaster m accessAddress
  | .hijackSlave accessAddress, m => whadBleHijackSlave m accessAddress
  | .hijackBoth accessAddress, m => whadBleHijackBoth m accessAddress
  | .setEncryption connHandle enabled pLlKey pLlIv pKey pRand pEdiv, m =>
    whadBleSetEncryption m connHandle enabled pLlKey pLlIv pKey pRand pEdiv
  | .reactiveJam channel pPattern patternLength position, m =>
    whadBleReactiveJam m channel pPattern patternLength position
  | .prepareSequenceOnRecv pPattern pMask length offset id direction pPackets pktCount, m =>
    whadBlePrepareSequenceOnRecv m pPattern pMask length offset id direction pPackets pktCount
  | .prepareSequenceManual id direction pPackets pktCount, m =>
    whadBlePrepareSequenceManual m id direction pPackets pktCount
  | .prepareSequenceConnEvt connectionEvent id direction pPackets pktCount, m =>
    whadBlePrepareSequenceConnEvt m connectionEvent id direction pPackets pktCount
  | .prepareSequenceTrigger id, m => whadBlePrepareSequenceTrigger m id
  | .prepareSequenceDelete id, m => whadBlePrepareSequenceDelete m id
  | .triggered id, m => whadBleTriggered m id
  | .accessAddressDiscovered accessAddress timestamp rssi incTs incRssi, m =>
    whadBleAccessAddressDiscovered m accessAddress timestamp rssi incTs incRssi
  | .advPdu advType rssi pBdaddr addrType pAdvData advDataLength, m =>
    whadBleAdvPdu m advType rssi pBdaddr addrType pAdvData advDataLength
  | .synchronized accessAddress crcInit hopInterval hopIncrement pChannelmap, m =>
    whadBleSynchronized m accessAddress crcInit hopInterval hopIncrement pChannelmap
  | .desynchronized accessAddress, m => whadBleDesynchronized m accessAddress
  | .hijacked accessAddress success, m => whadBleHijacked m accessAddress success
  | .injected accessAddress attempts success, m => whadBleInjected m accessAddress attempts success

end WhadLib.Ble
