import WhadLib.FullMessage

/-! The builders of the PHY domain, in the order of the source. -/
namespace WhadLib.Phy
open Library

def whadPhySetAskMod (message : Option FullMessage) (onOffKeying : Bool) : Outcome :=
  checked message fun m => m.assign (.phy .modAsk) fun (p : SetASKModulationCmd) => { p with ook := onOffKeying }

def whadPhySetFskMod (message : Option FullMessage) (deviation : UInt32) : Outcome :=
  checked message fun m => m.assign (.phy .modFsk) fun (p : DeviationCmd) => { p with deviation := deviation }

def whadPhySet4fskMod (message : Option FullMessage) (deviation : UInt32) : Outcome :=
  checked message fun m => m.assign (.phy .mod4fsk) fun (p : DeviationCmd) => { p with deviation := deviation }

def whadPhySetGfskMod (message : Option FullMessage) (deviation : UInt32) : Outcome :=
  checked message fun m => m.assign (.phy .modGfsk) fun (p : DeviationCmd) => { p with deviation := deviation }

def whadPhySetBpskMod (message : Option FullMessage) : Outcome :=
  checked message fun m => m.assign (.phy .modBpsk) fun p => p

def whadPhySetQpskMod (message : Option FullMessage) (offset : Bool) : Outcome :=
  checked message fun m => m.assign (.phy .modQpsk) fun (p : SetQPSKModulationCmd) => { p with offsetQpsk := offset }

def whadPhySetMskMod (message : Option FullMessage) (deviation : UInt32) : Outcome :=
  checked message fun m => m.assign (.phy .modMsk) fun (p : DeviationCmd) => { p with deviation := deviation }

def whadPhySetLoraMod (message : Option FullMessage) (bandwidth : UInt32)
    (spreadingFactor : EnumField LoRaSpreadingFactor) (codingRate : EnumField LoRaCodingRate)
    (preambleLength : UInt32) (enableCrc explicitMode invertIq : Bool) : Outcome :=
  checked message fun m => m.assign (.phy .modLora) fun (p : SetLoRaModulationCmd) => { p with
    bandwidth := bandwidth, spreadingFactor := spreadingFactor, codingRate := codingRate
    preambleLength := preambleLength, enableCrc := enableCrc, explicitMode := explicitMode, invertIq := invertIq }

def whadPhySetFreq (message : Option FullMessage) (frequency : UInt32) : Outcome :=
  checked message fun m => m.assign (.phy .setFreq) fun (p : SetFrequencyCmd) => { p with frequency := frequency }

def whadPhySetDatarate (message : Option FullMessage) (datarate : UInt32) : Outcome :=
  checked message fun m => m.assign (.phy .datarate) fun (p : SetDataRateCmd) => { p with rate := datarate }

def whadPhySetEndianness (message : Option FullMessage) (endianness : EnumField Endianness) : Outcome :=
  checked message fun m => m.assign (.phy .endianness) fun (p : SetEndiannessCmd) =>
    { p with endianness := endianness }

def whadPhySetTxPower (message : Option FullMessage) (txPower : EnumField TXPower) : Outcome :=
  checked message fun m => m.assign (.phy .txPower) fun (p : SetTXPowerCmd) => { p with txPower := txPower }

def whadPhySetPacketSize (message : Option FullMessage) (size : UInt32) : Outcome :=
  checked message fun m => m.assign (.phy .packetSize) fun (p : SetPacketSizeCmd) => { p with packetSize := size }

/-- A negative length passes the check. -/
def whadPhySetSyncWord (message : Option FullMessage) (pSyncword : Option Buffer) (length : ℤ) : Outcome :=
  match message, pSyncword with
  | some m, some pSyncword =>
    if 10 < length then refuse message
    else m.build (.phy .syncWord) fun (p : SetSyncWordCmd) => do
      let syncWord ← p.syncWord.fill pSyncword length
      done { p with syncWord := syncWord }
  | _, _ => refuse message

def whadPhySniffMode (message : Option FullMessage) (iqStream : Bool) : Outcome :=
  checked message fun m => m.assign (.phy .sniff) fun (p : SniffCmd) => { p with iqStream := ⟨true,iqStream⟩ }

def whadPhyJamMode (message : Option FullMessage) (mode : EnumField JammingMode) : Outcome :=
  checked message fun m => m.assign (.phy .jam) fun (p : JamCmd) => { p with mode := mode }

def whadPhyMonitorMode (message : Option FullMessage) : Outcome :=
  checked message fun m => m.assign (.phy .monitor) fun p => p

def whadPhyStart (message : Option FullMessage) : Outcome :=
  checked message fun m => m.assign (.phy .start) fun p => p

def whadPhyStop (message : Option FullMessage) : Outcome :=
  checked message fun m => m.assign (.phy .stop) fun p => p

def whadPhySend (message : Option FullMessage) (pPacket : Option Buffer) (length : ℤ) : Outcome :=
  match message, pPacket with
  | some m, some pPacket =>
    if 255 < length then refuse message
    else m.build (.phy .send) fun (p : SendCmd) => do
      let packet ← p.packet.fill pPacket length
      done { p with packet := packet }
  | _, _ => refuse message

/-- Not implemented: the tags are set all the same. -/
def whadPhySendRawIq (message : Option FullMessage) (pIqStream : Option Buffer) (length : ℤ) : Outcome :=
  match message, pIqStream with
  | some m, some _ => if 255 < length then refuse message else m.build (.phy .sendRaw) failed
  | _, _ => refuse message

/-- What the block holds in the end: the ranges, and {0,0} behind them. It was allocated for `nb_ranges + 1` ranges,
so that for -1 the last one is written behind it. Below that the number of bytes wraps around and is large. -/
def storeRanges (pRanges : ℕ → FrequencyRange) (nbRanges : ℤ) : Option (List FrequencyRange) :=
  if nbRanges = -1 then none else some ((List.range nbRanges.toNat).map pRanges ++ [⟨0,0⟩])

/-- `malloc` answers `allocated`; the list that is stored there is not part of the message. -/
def whadPhySupportedFrequencies (message : Option FullMessage) (allocated : Option Address)
    (pRanges : Option (ℕ → FrequencyRange)) (nbRanges : ℤ) : Outcome :=
  match message, pRanges, allocated with
  | some m, some pRanges, some a => m.build (.phy .supportedFreq) fun (p : SupportedFrequencyRanges) => do
    let _ ← storeRanges pRanges nbRanges
    done { p with frequencyRanges := .frequencyRange (some a) }
  | _, _, _ => refuse message

/-- Seconds and microseconds as one number of 32 bits. -/
def timestampOf (tsSec tsUsec : UInt32) : UInt64 := (tsSec*1000000 + tsUsec).toUInt64

def whadPhySchedPacket (message : Option FullMessage) (pPacket : Option Buffer) (length : ℤ)
    (tsSec tsUsec : UInt32) : Outcome :=
  match message, pPacket with
  | some m, some pPacket =>
    if 255 < length then refuse message
    else m.build (.phy .schedSend) fun (p : ScheduleSendCmd) => do
      let packet ← p.packet.fill pPacket length
      done { p with packet := packet, timestamp := timestampOf tsSec tsUsec }
  | _, _ => refuse message

def whadPhyJammed (message : Option FullMessage) (tsSec tsUsec : UInt32) : Outcome :=
  checked message fun m => m.assign (.phy .jammed) fun (p : Jammed) =>
    { p with timestamp := if 0 < tsSec ∨ 0 < tsUsec then timestampOf tsSec tsUsec else 0 }

def whadPhySchedPacketSent (message : Option FullMessage) (packetId : UInt32) : Outcome :=
  checked message fun m => m.assign (.phy .schedPktSent) fun (p : SchedulePacketSent) =>
    { p with id := packetId.toInt32 }

/-- A copy of no byte does not look at its source. -/
def fillFrom {n : ℕ} (x : BytesArray n) (src : Option Buffer) (length : ℤ) : Option (BytesArray n) :=
  match src with
  | some src => x.fill src length
  | none => if length = 0 then some { x with size := 0 } else none

/-- The packet is cut to 255 bytes. Neither the pointer to the sync word nor its length is checked. -/
def whadPhyPacketReceived (message : Option FullMessage) (frequency : UInt32) (rssi : Int32)
    (tsSec tsUsec : UInt32) (payload : Option Buffer) (length : ℤ) (syncword : Option Buffer)
    (syncwordLength : ℤ) (deviation datarate : UInt32) (endianness : EnumField Endianness)
    (modulation : EnumField Modulation) : Outcome :=
  match message, payload with
  | some m, some payload => m.build (.phy .packet) fun (p : PacketReceived) => do
    let packet ← p.packet.fill payload (if 255 < length then 255 else length)
    let syncword ← fillFrom p.syncword syncword syncwordLength
    done { p with
      frequency := frequency
      timestamp := if 0 < tsSec ∨ 0 < tsUsec then ⟨true,timestampOf tsSec tsUsec⟩ else ⟨false,0⟩
      rssi := ⟨true,rssi⟩, packet := packet, syncword := syncword, deviation := deviation
      datarate := datarate, endian := endianness, modulation := modulation }
  | _, _ => refuse message

def whadPhyPacketScheduled (message : Option FullMessage) (id : UInt8) (full : Bool) : Outcome :=
  checked message fun m => m.assign (.phy .schedPktRsp) fun (p : SchedulePacketResp) => { p with
    id := id.toUInt32.toInt32
    full := if full then ⟨true,true⟩ else { p.full with has := false } }

/-- The calls of the builders, with every argument but the message. -/
inductive PhyBuilder
  | setAskMod (onOffKeying : Bool)
  | setFskMod (deviation : UInt32)
  | set4fskMod (deviation : UInt32)
  | setGfskMod (deviation : UInt32)
  | setBpskMod
  | setQpskMod (offset : Bool)
  | setMskMod (deviation : UInt32)
  | setLoraMod (bandwidth : UInt32) (spreadingFactor : EnumField LoRaSpreadingFactor)
      (codingRate : EnumField LoRaCodingRate) (preambleLength : UInt32)
      (enableCrc explicitMode invertIq : Bool)
  | setFreq (frequency : UInt32)
  | setDatarate (datarate : UInt32)
  | setEndianness (endianness : EnumField Endianness)
  | setTxPower (txPower : EnumField TXPower)
  | setPacketSize (size : UInt32)
  | setSyncWord (pSyncword : Option Buffer) (length : ℤ)
  | sniffMode (iqStream : Bool)
  | jamMode (mode : EnumField JammingMode)
  | monitorMode
  | start
  | stop
  | send (pPacket : Option Buffer) (length : ℤ)
  | sendRawIq (pIqStream : Option Buffer) (length : ℤ)
  | supportedFrequencies (allocated : Option Address) (pRanges : Option (ℕ → FrequencyRange)) (nbRanges : ℤ)
  | schedPacket (pPacket : Option Buffer) (length : ℤ) (tsSec tsUsec : UInt32)
  | jammed (tsSec tsUsec : UInt32)
  | schedPacketSent (packetId : UInt32)
  | packetReceived (frequency : UInt32) (rssi : Int32) (tsSec tsUsec : UInt32) (payload : Option Buffer)
      (length : ℤ) (syncword : Option Buffer) (syncwordLength : ℤ) (deviation datarate : UInt32)
      (endianness : EnumField Endianness) (modulation : EnumField Modulation)
  | packetScheduled (id : UInt8) (full : Bool)

abbrev PhyBuilder.run : PhyBuilder → Option FullMessage → Outcome
  | .setAskMod onOffKeying, m => whadPhySetAskMod m onOffKeying
  | .setFskMod deviation, m => whadPhySetFskMod m deviation
  | .set4fskMod deviation, m => whadPhySet4fskMod m deviation
  | .setGfskMod deviation, m => whadPhySetGfskMod m deviation
  | .setBpskMod, m => whadPhySetBpskMod m
  | .setQpskMod offset, m => whadPhySetQpskMod m offset
  | .setMskMod deviation, m => whadPhySetMskMod m deviation
  | .setLoraMod bandwidth spreadingFactor codingRate preambleLength enableCrc explicitMode invertIq, m =>
    whadPhySetLoraMod m bandwidth spreadingFactor codingRate preambleLength enableCrc explicitMode
      invertIq
  | .setFreq frequency, m => whadPhySetFreq m frequency
  | .setDatarate datarate, m => whadPhySetDatarate m datarate
  | .setEndianness endianness, m => whadPhySetEndianness m endianness
  | .setTxPower txPower, m => whadPhySetTxPower m txPower
  | .setPacketSize size, m => whadPhySetPacketSize m size
  | .setSyncWord pSyncword length, m => whadPhySetSyncWord m pSyncword length
  | .sniffMode iqStream, m => whadPhySniffMode m iqStream
  | .jamMode mode, m => whadPhyJamMode m mode
  | .monitorMode, m => whadPhyMonitorMode m
  | .start, m => whadPhyStart m
  | .stop, m => whadPhyStop m
  | .send pPacket length, m => whadPhySend m pPacket length
  | .sendRawIq pIqStream length, m => whadPhySendRawIq m pIqStream length
  | .supportedFrequencies allocated pRanges nbRanges, m =>
    whadPhySupportedFrequencies m allocated pRanges nbRanges
  | .schedPacket pPacket length tsSec tsUsec, m => whadPhySchedPacket m pPacket length tsSec tsUsec
  | .jammed tsSec tsUsec, m => whadPhyJammed m tsSec tsUsec
  | .schedPacketSent packetId, m => whadPhySchedPacketSent m packetId
  | .packetReceived frequency rssi tsSec tsUsec payload length syncword syncwordLength deviation
      datarate endianness modulation, m =>
    whadPhyPacketReceived m frequency rssi tsSec tsUsec payload length syncword syncwordLength
      deviation datarate endianness modulation
  | .packetScheduled id full, m => whadPhyPacketScheduled m id full

end WhadLib.Phy
