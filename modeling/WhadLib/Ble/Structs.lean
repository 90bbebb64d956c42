import WhadLib.Structs

/-! The structures of the BLE protocol, from the generated header. `PeripheralModeCmd` has the fields of
`AdvModeCmd`. -/
namespace WhadLib.Ble
open Library

/-- `ble_BleAdvType`. -/
inductive BleAdvType
  | advUnknown | advInd | advDirectInd | advNonconnInd | advScanInd | advScanRsp
  deriving DecidableEq, Repr

/-- `ble_BleDirection`. -/
inductive BleDirection
  | unknown | masterToSlave | slaveToMaster | injectionToSlave | injectionToMaster
  deriving DecidableEq, Repr

/-- `ble_BleAddrType`. -/
inductive BleAddrType
  | publicAddr | randomAddr
  deriving DecidableEq, Repr

/-- The messages with nothing but an access address: `JamConnCmd`, the three hijacking commands and
`Desynchronized`. -/
structure AccessAddressMsg where
  accessAddress : UInt32
  deriving Inhabited

def AccessAddressMsg.wire (p : AccessAddressMsg) : Wire :=
  .field 1 (value p.accessAddress) <| .nil

/-- The messages with nothing but the number of a sequence: `TriggerSequenceCmd`, `Triggered` and
`DeleteSequenceCmd`. -/
structure SequenceMsg where
  id : UInt32
  deriving Inhabited

def SequenceMsg.wire (p : SequenceMsg) : Wire :=
  .field 1 (value p.id) <| .nil

structure SetAdvDataCmd where
  scanData : PbCallback
  scanrspData : PbCallback
  deriving Inhabited

def SetAdvDataCmd.wire (p : SetAdvDataCmd) : Wire :=
  .field 1 (.callback .len p.scanData) <| .field 2 (.callback .len p.scanrspData) <| .nil

structure AccessAddressDiscovered where
  accessAddress : UInt32
  rssi : OptionalField Int32
  timestamp : OptionalField UInt64
  deriving Inhabited

def AccessAddressDiscovered.wire (p : AccessAddressDiscovered) : Wire :=
  .field 1 (value p.accessAddress) <| .field 2 (value p.rssi) <| .field 3 (value p.timestamp) <|
  .nil

structure AdvModeCmd where
  scanData : BytesArray 31
  scanrspData : BytesArray 31
  deriving Inhabited

def AdvModeCmd.wire (p : AdvModeCmd) : Wire :=
  .field 1 (value p.scanData) <| .field 2 (value p.scanrspData) <| .nil

structure AdvPduReceived where
  advType : EnumField BleAdvType
  rssi : Int32
  bdAddress : Vector UInt8 6
  advData : BytesArray 31
  addrType : EnumField BleAddrType
  deriving Inhabited

def AdvPduReceived.wire (p : AdvPduReceived) : Wire :=
  .field 1 (value p.advType) <| .field 2 (value p.rssi) <| .field 3 (value p.bdAddress) <|
  .field 4 (value p.advData) <| .field 5 (value p.addrType) <| .nil

structure ConnectToCmd where
  bdAddress : Vector UInt8 6
  addrType : EnumField BleAddrType
  accessAddress : OptionalField UInt32
  channelMap : OptionalField (Vector UInt8 5)
  hopInterval : OptionalField UInt32
  hopIncrement : OptionalField UInt32
  crcInit : OptionalField UInt32
  deriving Inhabited

def ConnectToCmd.wire (p : ConnectToCmd) : Wire :=
  .field 1 (value p.bdAddress) <| .field 2 (value p.addrType) <|
  .field 3 (value p.accessAddress) <| .field 4 (value p.channelMap) <|
  .field 5 (value p.hopInterval) <| .field 6 (value p.hopIncrement) <|
  .field 7 (value p.crcInit) <| .nil

structure Connected where
  initiator : Vector UInt8 6
  advertiser : Vector UInt8 6
  accessAddress : UInt32
  connHandle : UInt32
  advAddrType : EnumField BleAddrType
  initAddrType : EnumField BleAddrType
  deriving Inhabited

def Connected.wire (p : Connected) : Wire :=
  .field 1 (value p.initiator) <| .field 2 (value p.advertiser) <|
  .field 3 (value p.accessAddress) <| .field 8 (value p.connHandle) <|
  .field 9 (value p.advAddrType) <| .field 10 (value p.initAddrType) <| .nil

structure DisconnectCmd where
  connHandle : Int32
  deriving Inhabited

def DisconnectCmd.wire (p : DisconnectCmd) : Wire :=
  .field 1 (value p.connHandle) <| .nil

structure Disconnected where
  reason : UInt32
  connHandle : UInt32
  deriving Inhabited

def Disconnected.wire (p : Disconnected) : Wire :=
  .field 1 (value p.reason) <| .field 2 (value p.connHandle) <| .nil

structure Hijacked where
  success : Bool
  accessAddress : UInt32
  deriving Inhabited

def Hijacked.wire (p : Hijacked) : Wire :=
  .field 1 (value p.success) <| .field 2 (value p.accessAddress) <| .nil

structure Injected where
  success : Bool
  accessAddress : UInt32
  injectionAttempts : UInt32
  deriving Inhabited

def Injected.wire (p : Injected) : Wire :=
  .field 1 (value p.success) <| .field 2 (value p.accessAddress) <|
  .field 3 (value p.injectionAttempts) <| .nil

structure PduReceived where
  direction : EnumField BleDirection
  pdu : BytesArray 300
  connHandle : UInt32
  processed : Bool
  decrypted : Bool
  deriving Inhabited

def PduReceived.wire (p : PduReceived) : Wire :=
  .field 1 (value p.direction) <| .field 2 (value p.pdu) <| .field 3 (value p.connHandle) <|
  .field 4 (value p.processed) <| .field 5 (value p.decrypted) <| .nil

structure ConnectionEventTrigger where
  connectionEvent : UInt32
  deriving Inhabited

def ConnectionEventTrigger.wire (p : ConnectionEventTrigger) : Wire :=
  .field 1 (value p.connectionEvent) <| .nil

structure PendingPacket where
  packet : BytesArray 255
  deriving Inhabited

def PendingPacket.wire (p : PendingPacket) : Wire :=
  .field 1 (value p.packet) <| .nil

structure ReceptionTrigger where
  pattern : BytesArray 255
  mask : BytesArray 255
  offset : UInt32
  deriving Inhabited

def ReceptionTrigger.wire (p : ReceptionTrigger) : Wire :=
  .field 1 (value p.pattern) <| .field 2 (value p.mask) <| .field 3 (value p.offset) <| .nil

structure RawPduReceived where
  direction : EnumField BleDirection
  channel : UInt32
  rssi : OptionalField Int32
  timestamp : OptionalField UInt64
  relativeTimestamp : OptionalField UInt64
  crcValidity : OptionalField Bool
  accessAddress : UInt32
  pdu : BytesArray 255
  crc : UInt32
  connHandle : UInt32
  processed : Bool
  decrypted : Bool
  deriving Inhabited

def RawPduReceived.wire (p : RawPduReceived) : Wire :=
  .field 1 (value p.direction) <| .field 2 (value p.channel) <| .field 3 (value p.rssi) <|
  .field 4 (value p.timestamp) <| .field 5 (value p.relativeTimestamp) <|
  .field 6 (value p.crcValidity) <| .field 7 (value p.accessAddress) <| .field 8 (value p.pdu) <|
  .field 9 (value p.crc) <| .field 10 (value p.connHandle) <| .field 11 (value p.processed) <|
  .field 12 (value p.decrypted) <| .nil

structure ReactiveJamCmd where
  channel : UInt32
  pattern : BytesArray 20
  position : UInt32
  deriving Inhabited

def ReactiveJamCmd.wire (p : ReactiveJamCmd) : Wire :=
  .field 1 (value p.channel) <| .field 2 (value p.pattern) <| .field 3 (value p.position) <| .nil

structure ScanModeCmd where
  activeScan : Bool
  deriving Inhabited

def ScanModeCmd.wire (p : ScanModeCmd) : Wire :=
  .field 1 (value p.activeScan) <| .nil

structure SendPDUCmd where
  direction : EnumField BleDirection
  connHandle : UInt32
  pdu : BytesArray 300
  encrypt : Bool
  deriving Inhabited

def SendPDUCmd.wire (p : SendPDUCmd) : Wire :=
  .field 1 (value p.direction) <| .field 2 (value p.connHandle) <| .field 3 (value p.pdu) <|
  .field 4 (value p.encrypt) <| .nil

structure SendRawPDUCmd where
  direction : EnumField BleDirection
  connHandle : UInt32
  accessAddress : UInt32
  pdu : BytesArray 300
  crc : UInt32
  encrypt : Bool
  deriving Inhabited

def SendRawPDUCmd.wire (p : SendRawPDUCmd) : Wire :=
  .field 1 (value p.direction) <| .field 2 (value p.connHandle) <|
  .field 3 (value p.accessAddress) <| .field 4 (value p.pdu) <| .field 5 (value p.crc) <|
  .field 6 (value p.encrypt) <| .nil

structure SetBdAddressCmd where
  bdAddress : Vector UInt8 6
  addrType : EnumField BleAddrType
  deriving Inhabited

def SetBdAddressCmd.wire (p : SetBdAddressCmd) : Wire :=
  .field 1 (value p.bdAddress) <| .field 2 (value p.addrType) <| .nil

structure SetEncryptionCmd where
  connHandle : Int32
  enabled : Bool
  llKey : Vector UInt8 16
  llIv : Vector UInt8 8
  key : Vector UInt8 16
  rand : Vector UInt8 8
  ediv : Vector UInt8 2
  deriving Inhabited

def SetEncryptionCmd.wire (p : SetEncryptionCmd) : Wire :=
  .field 1 (value p.connHandle) <| .field 2 (value p.enabled) <| .field 3 (value p.llKey) <|
  .field 4 (value p.llIv) <| .field 5 (value p.key) <| .field 6 (value p.rand) <|
  .field 7 (value p.ediv) <| .nil

structure SniffAccessAddressCmd where
  monitoredChannels : Vector UInt8 5
  deriving Inhabited

def SniffAccessAddressCmd.wire (p : SniffAccessAddressCmd) : Wire :=
  .field 6 (value p.monitoredChannels) <| .nil

structure SniffActiveConnCmd where
  accessAddress : UInt32
  crcInit : UInt32
  channelMap : Vector UInt8 5
  hopInterval : UInt32
  hopIncrement : UInt32
  monitoredChannels : Vector UInt8 5
  deriving Inhabited

def SniffActiveConnCmd.wire (p : SniffActiveConnCmd) : Wire :=
  .field 1 (value p.accessAddress) <| .field 2 (value p.crcInit) <|
  .field 3 (value p.channelMap) <| .field 4 (value p.hopInterval) <|
  .field 5 (value p.hopIncrement) <| .field 6 (value p.monitoredChannels) <| .nil

structure SniffAdvCmd where
  useExtendedAdv : Bool
  channel : UInt32
  bdAddress : Vector UInt8 6
  deriving Inhabited

def SniffAdvCmd.wire (p : SniffAdvCmd) : Wire :=
  .field 1 (value p.useExtendedAdv) <| .field 2 (value p.channel) <|
  .field 3 (value p.bdAddress) <| .nil

structure SniffConnReqCmd where
  showEmptyPackets : Bool
  showAdvertisements : Bool
  channel : UInt32
  bdAddress : Vector UInt8 6
  deriving Inhabited

def SniffConnReqCmd.wire (p : SniffConnReqCmd) : Wire :=
  .field 1 (value p.showEmptyPackets) <| .field 2 (value p.showAdvertisements) <|
  .field 3 (value p.channel) <| .field 4 (value p.bdAddress) <| .nil

structure Synchronized where
  accessAddress : UInt32
  crcInit : UInt32
  hopInterval : UInt32
  hopIncrement : UInt32
  channelMap : Vector UInt8 5
  deriving Inhabited

def Synchronized.wire (p : Synchronized) : Wire :=
  .field 1 (value p.accessAddress) <| .field 2 (value p.crcInit) <|
  .field 3 (value p.hopInterval) <| .field 4 (value p.hopIncrement) <|
  .field 5 (value p.channelMap) <| .nil

/-- The union of a trigger: its tag and what it reads as through each member with a field. -/
structure Trigger where
  whichTrigger : ℕ
  reception : ReceptionTrigger
  connectionEvent : ConnectionEventTrigger
  deriving Inhabited

/-- `ble_PrepareSequenceCmd_Trigger_*_tag`. -/
def Trigger.receptionTag : ℕ := 1
def Trigger.connectionEventTag : ℕ := 2
def Trigger.manualTag : ℕ := 3

def Trigger.wire (p : Trigger) : Wire :=
  match p.whichTrigger with
  | 1 => .message Trigger.receptionTag p.reception.wire .nil
  | 2 => .message Trigger.connectionEventTag p.connectionEvent.wire .nil
  | 3 => .message Trigger.manualTag .nil .nil
  | _ => .nil

structure PrepareSequenceCmd where
  trigger : OptionalField Trigger
  id : UInt32
  direction : EnumField BleDirection
  sequence : RepeatedField PendingPacket 25
  deriving Inhabited

def PrepareSequenceCmd.wire (p : PrepareSequenceCmd) : Wire :=
  .optional 1 p.trigger Trigger.wire <| .field 2 (value p.id) <|
  .field 3 (value p.direction) <| .repeated 4 p.sequence PendingPacket.wire <|
  .nil

/-- The members of the union of `ble_Message`. -/
inductive BleKind
  | setBdAddr | sniffAdv | jamAdv | jamAdvChan | sniffConnreq | sniffAa | sniffConn | jamConn
  | scanMode | advMode | setAdvData | centralMode | connect | sendRawPdu | sendPdu | disconnect
  | periphMode | start | stop | hijackMaster | hijackSlave | hijackBoth | aaDisc | advPdu
  | connected | disconnected | synchronized | hijacked | pdu | rawPdu | injected | desynchronized
  | encryption | reactiveJam | prepare | trigger | triggered | deleteSeq
  deriving DecidableEq, Repr

/-- Their types. -/
abbrev BleKind.Struct : BleKind → Type
  | .setBdAddr => SetBdAddressCmd
  | .sniffAdv => SniffAdvCmd
  | .jamAdv => EmptyMessage
  | .jamAdvChan => ChannelCmd
  | .sniffConnreq => SniffConnReqCmd
  | .sniffAa => SniffAccessAddressCmd
  | .sniffConn => SniffActiveConnCmd
  | .jamConn => AccessAddressMsg
  | .scanMode => ScanModeCmd
  | .advMode => AdvModeCmd
  | .setAdvData => SetAdvDataCmd
  | .centralMode => EmptyMessage
  | .connect => ConnectToCmd
  | .sendRawPdu => SendRawPDUCmd
  | .sendPdu => SendPDUCmd
  | .disconnect => DisconnectCmd
  | .periphMode => AdvModeCmd
  | .start => EmptyMessage
  | .stop => EmptyMessage
  | .hijackMaster => AccessAddressMsg
  | .hijackSlave => AccessAddressMsg
  | .hijackBoth => AccessAddressMsg
  | .aaDisc => AccessAddressDiscovered
  | .advPdu => AdvPduReceived
  | .connected => Connected
  | .disconnected => Disconnected
  | .synchronized => Synchronized
  | .hijacked => Hijacked
  | .pdu => PduReceived
  | .rawPdu => RawPduReceived
  | .injected => Injected
  | .desynchronized => AccessAddressMsg
  | .encryption => SetEncryptionCmd
  | .reactiveJam => ReactiveJamCmd
  | .prepare => PrepareSequenceCmd
  | .trigger => SequenceMsg
  | .triggered => SequenceMsg
  | .deleteSeq => SequenceMsg

instance (k : BleKind) : Inhabited k.Struct := by
  cases k <;> exact inferInstance

/-- `ble_Message_*_tag`. -/
def BleKind.tag : BleKind → ℕ
  | .setBdAddr => 1
  | .sniffAdv => 2
  | .jamAdv => 3
  | .jamAdvChan => 4
  | .sniffConnreq => 5
  | .sniffAa => 6
  | .sniffConn => 7
  | .jamConn => 8
  | .scanMode => 9
  | .advMode => 10
  | .setAdvData => 11
  | .centralMode => 12
  | .connect => 13
  | .sendRawPdu => 14
  | .sendPdu => 15
  | .disconnect => 16
  | .periphMode => 17
  | .start => 18
  | .stop => 19
  | .hijackMaster => 20
  | .hijackSlave => 21
  | .hijackBoth => 22
  | .aaDisc => 23
  | .advPdu => 24
  | .connected => 25
  | .disconnected => 26
  | .synchronized => 27
  | .hijacked => 28
  | .pdu => 29
  | .rawPdu => 30
  | .injected => 31
  | .desynchronized => 32
  | .encryption => 33
  | .reactiveJam => 34
  | .prepare => 35
  | .trigger => 36
  | .triggered => 37
  | .deleteSeq => 38

def BleKind.wire : (k : BleKind) → k.Struct → Wire
  | .setBdAddr, p => SetBdAddressCmd.wire p
  | .sniffAdv, p => SniffAdvCmd.wire p
  | .jamAdv, p => EmptyMessage.wire p
  | .jamAdvChan, p => ChannelCmd.wire p
  | .sniffConnreq, p => SniffConnReqCmd.wire p
  | .sniffAa, p => SniffAccessAddressCmd.wire p
  | .sniffConn, p => SniffActiveConnCmd.wire p
  | .jamConn, p => AccessAddressMsg.wire p
  | .scanMode, p => ScanModeCmd.wire p
  | .advMode, p => AdvModeCmd.wire p
  | .setAdvData, p => SetAdvDataCmd.wire p
  | .centralMode, p => EmptyMessage.wire p
  | .connect, p => ConnectToCmd.wire p
  | .sendRawPdu, p => SendRawPDUCmd.wire p
  | .sendPdu, p => SendPDUCmd.wire p
  | .disconnect, p => DisconnectCmd.wire p
  | .periphMode, p => AdvModeCmd.wire p
  | .start, p => EmptyMessage.wire p
  | .stop, p => EmptyMessage.wire p
  | .hijackMaster, p => AccessAddressMsg.wire p
  | .hijackSlave, p => AccessAddressMsg.wire p
  | .hijackBoth, p => AccessAddressMsg.wire p
  | .aaDisc, p => AccessAddressDiscovered.wire p
  | .advPdu, p => AdvPduReceived.wire p
  | .connected, p => Connected.wire p
  | .disconnected, p => Disconnected.wire p
  | .synchronized, p => Synchronized.wire p
  | .hijacked, p => Hijacked.wire p
  | .pdu, p => PduReceived.wire p
  | .rawPdu, p => RawPduReceived.wire p
  | .injected, p => Injected.wire p
  | .desynchronized, p => AccessAddressMsg.wire p
  | .encryption, p => SetEncryptionCmd.wire p
  | .reactiveJam, p => ReactiveJamCmd.wire p
  | .prepare, p => PrepareSequenceCmd.wire p
  | .trigger, p => SequenceMsg.wire p
  | .triggered, p => SequenceMsg.wire p
  | .deleteSeq, p => SequenceMsg.wire p

/-- The members in the order of `ble_Message_FIELDLIST`. -/
def BleKind.all : List BleKind :=
  [.setBdAddr,.sniffAdv,.jamAdv,.jamAdvChan,.sniffConnreq,.sniffAa,.sniffConn,.jamConn,.scanMode,
    .advMode,.setAdvData,.centralMode,.connect,.sendRawPdu,.sendPdu,.disconnect,.periphMode,.start,
    .stop,.hijackMaster,.hijackSlave,.hijackBoth,.aaDisc,.advPdu,.connected,.disconnected,
    .synchronized,.hijacked,.pdu,.rawPdu,.injected,.desynchronized,.encryption,.reactiveJam,
    .prepare,.trigger,.triggered,.deleteSeq]

end WhadLib.Ble
