import WhadLib.Parse

/-! The parsers of the PHY domain, in the order of the source. No one of them looks at the tags of the
message. -/
namespace WhadLib.Phy
open Library

def whadPhySetAskModParse (message : Option FullMessage) (pOnOffKeying : Option Bool) : Parsed Bool :=
  fetch message pOnOffKeying fun m _ => SetASKModulationCmd.ook (m.msg (.phy .modAsk))

def whadPhySetFskModParse (message : Option FullMessage) (pDeviation : Option UInt32) : Parsed UInt32 :=
  fetch message pDeviation fun m _ => DeviationCmd.deviation (m.msg (.phy .modFsk))

def whadPhySet4fskModParse (message : Option FullMessage) (pDeviation : Option UInt32) : Parsed UInt32 :=
  fetch message pDeviation fun m _ => DeviationCmd.deviation (m.msg (.phy .mod4fsk))

def whadPhySetGfskModParse (message : Option FullMessage) (pDeviation : Option UInt32) : Parsed UInt32 :=
  fetch message pDeviation fun m _ => DeviationCmd.deviation (m.msg (.phy .modGfsk))

def whadPhySetQpskModParse (message : Option FullMessage) (pOffset : Option Bool) : Parsed Bool :=
  fetch message pOffset fun m _ => SetQPSKModulationCmd.offsetQpsk (m.msg (.phy .modQpsk))

def whadPhySetMskModParse (message : Option FullMessage) (pDeviation : Option UInt32) : Parsed UInt32 :=
  fetch message pDeviation fun m _ => DeviationCmd.deviation (m.msg (.phy .modMsk))

/-- `whad_phy_lora_params_t`. -/
structure PhyLoraParams where
  bandwidth : UInt32
  sf : EnumField LoRaSpreadingFactor
  cr : EnumField LoRaCodingRate
  preambleLength : UInt32
  enableCrc : Bool
  explicitMode : Bool
  invertIq : Bool

def whadPhySetLoraModParse (message : Option FullMessage) (pLoraParams : Option PhyLoraParams) : Parsed PhyLoraParams :=
  fetch message pLoraParams fun m _ =>
    let p : SetLoRaModulationCmd := m.msg (.phy .modLora)
    ⟨p.bandwidth,p.spreadingFactor,p.codingRate,p.preambleLength,p.enableCrc,p.explicitMode,p.invertIq⟩

def whadPhySetFreqParse (message : Option FullMessage) (pFreq : Option UInt32) : Parsed UInt32 :=
  fetch message pFreq fun m _ => SetFrequencyCmd.frequency (m.msg (.phy .setFreq))

def whadPhySetDatarateParse (message : Option FullMessage) (pDatarate : Option UInt32) : Parsed UInt32 :=
  fetch message pDatarate fun m _ => SetDataRateCmd.rate (m.msg (.phy .datarate))

def whadPhySetEndiannessParse (message : Option FullMessage) (pEndianness : Option (EnumField Endianness)) :
    Parsed (EnumField Endianness) :=
  fetch message pEndianness fun m _ => SetEndiannessCmd.endianness (m.msg (.phy .endianness))

def whadPhySetTxPowerParse (message : Option FullMessage) (pPower : Option (EnumField TXPower)) :
    Parsed (EnumField TXPower) :=
  fetch message pPower fun m _ => SetTXPowerCmd.txPower (m.msg (.phy .txPower))

def whadPhySetPacketSizeParse (message : Option FullMessage) (pPacketSize : Option UInt32) : Parsed UInt32 :=
  fetch message pPacketSize fun m _ => SetPacketSizeCmd.packetSize (m.msg (.phy .packetSize))

/-- `whad_phy_syncword_t`. -/
structure PhySyncword where
  syncword : Vector UInt8 10
  length : ℤ
  deriving Inhabited

/-- The length is not checked. -/
def whadPhySetSyncWordParse (message : Option FullMessage) (pSyncword : Option PhySyncword) : Parsed PhySyncword :=
  parse message pSyncword fun m s => do
    let p : SetSyncWordCmd := m.msg (.phy .syncWord)
    let syncword ← memcpy s.syncword (bufferOf p.syncWord.bytes) p.syncWord.size
    done ⟨syncword,p.syncWord.size⟩

def whadPhySniffModeParse (message : Option FullMessage) (pIqStream : Option Bool) : Parsed Bool :=
  fetch message pIqStream fun m _ =>
    let p : SniffCmd := m.msg (.phy .sniff)
    if p.iqStream.has then p.iqStream.value else false

def whadPhyJamModeParse (message : Option FullMessage) (pMode : Option (EnumField JammingMode)) :
    Parsed (EnumField JammingMode) :=
  fetch message pMode fun m _ => JamCmd.mode (m.msg (.phy .jam))

/-- `whad_phy_packet_t`. -/
structure PhyPacket where
  payload : Vector UInt8 256
  length : ℤ
  deriving Inhabited

/-- `whad_phy_timestamp_t`. -/
structure PhyTimestamp where
  tsSec : UInt32
  tsUsec : UInt32
  deriving Inhabited

def timestampFrom (timestamp : UInt64) : PhyTimestamp :=
  ⟨(timestamp/1000000).toUInt32,(timestamp%1000000).toUInt32⟩

/-- The body of the two parsers of packets to send. -/
def loadPacket (x : BytesArray 255) (s : PhyPacket) : Option PhyPacket :=
  let length : ℤ := x.size
  if length < 256 then do
    let payload ← memcpy s.payload (bufferOf x.bytes) length
    some ⟨payload,length⟩
  else some ⟨memset 0,length⟩

def whadPhySendParse (message : Option FullMessage) (pPacket : Option PhyPacket) : Parsed PhyPacket :=
  parse message pPacket fun m s => do
    let packet ← loadPacket (SendCmd.packet (m.msg (.phy .send))) s
    done packet

/-- `whad_phy_sched_packet_t`. -/
structure PhySchedPacket where
  packet : PhyPacket
  ts : PhyTimestamp
  deriving Inhabited

def whadPhySchedPacketParse (message : Option FullMessage) (pSchedPacket : Option PhySchedPacket) :
    Parsed PhySchedPacket :=
  parse message pSchedPacket fun m s => do
    let p : ScheduleSendCmd := m.msg (.phy .schedSend)
    let packet ← loadPacket p.packet s.packet
    done ⟨packet,timestampFrom p.timestamp⟩

def whadPhyJammedParse (message : Option FullMessage) (pTimestamp : Option PhyTimestamp) : Parsed PhyTimestamp :=
  fetch message pTimestamp fun m _ => timestampFrom (Jammed.timestamp (m.msg (.phy .jammed)))

def whadPhySchedPacketSentParse (message : Option FullMessage) (pPacketId : Option UInt32) : Parsed UInt32 :=
  fetch message pPacketId fun m _ => (SchedulePacketSent.id (m.msg (.phy .schedPktSent))).toUInt32

/-- `whad_phy_received_packet_t`. -/
structure PhyReceivedPacket where
  freq : UInt32
  rssi : Int32
  ts : PhyTimestamp
  packet : PhyPacket
  deriving Inhabited

/-- The RSSI is read whether it is there or not, and a packet that is too long is left out. -/
def whadPhyPacketReceivedParse (message : Option FullMessage) (pReceivedPkt : Option PhyReceivedPacket) :
    Parsed PhyReceivedPacket :=
  parse message pReceivedPkt fun m s => do
    let p : PacketReceived := m.msg (.phy .packet)
    let length : ℤ := p.packet.size
    let payload ← if length < 256 then memcpy s.packet.payload (bufferOf p.packet.bytes) length
      else some s.packet.payload
    done {
      freq := p.frequency, rssi := p.rssi.value
      ts := if p.timestamp.has then timestampFrom p.timestamp.value else ⟨0,0⟩
      packet := ⟨payload,length⟩ }

/-- `whad_phy_scheduled_packet_t`. -/
structure PhyScheduledPacket where
  id : UInt8
  full : Bool
  deriving Inhabited

def whadPhyPacketScheduledParse (message : Option FullMessage) (pSchedPkt : Option PhyScheduledPacket) :
    Parsed PhyScheduledPacket :=
  fetch message pSchedPkt fun m _ =>
    let p : SchedulePacketResp := m.msg (.phy .schedPktRsp)
    ⟨p.id.toUInt32.toUInt8,if p.full.has then p.full.value else false⟩

/-- The calls of the parsers, with their outputs. -/
inductive PhyParser
  | setAskMod (pOnOffKeying : Option Bool)
  | setFskMod (pDeviation : Option UInt32)
  | set4fskMod (pDeviation : Option UInt32)
  | setGfskMod (pDeviation : Option UInt32)
  | setQpskMod (pOffset : Option Bool)
  | setMskMod (pDeviation : Option UInt32)
  | setLoraMod (pLoraParams : Option PhyLoraParams)
  | setFreq (pFreq : Option UInt32)
  | setDatarate (pDatarate : Option UInt32)
  | setEndianness (pEndianness : Option (EnumField Endianness))
  | setTxPower (pPower : Option (EnumField TXPower))
  | setPacketSize (pPacketSize : Option UInt32)
  | setSyncWord (pSyncword : Option PhySyncword)
  | sniffMode (pIqStream : Option Bool)
  | jamMode (pMode : Option (EnumField JammingMode))
  | send (pPacket : Option PhyPacket)
  | schedPacket (pSchedPacket : Option PhySchedPacket)
  | jammed (pTimestamp : Option PhyTimestamp)
  | schedPacketSent (pPacketId : Option UInt32)
  | packetReceived (pReceivedPkt : Option PhyReceivedPacket)
  | packetScheduled (pSchedPkt : Option PhyScheduledPacket)

/-- What a call returns. -/
abbrev PhyParser.result : PhyParser → FullMessage → Option WhadResult
  | .setAskMod pOnOffKeying, m => (whadPhySetAskModParse (some m) pOnOffKeying).map Prod.fst
  | .setFskMod pDeviation, m => (whadPhySetFskModParse (some m) pDeviation).map Prod.fst
  | .set4fskMod pDeviation, m => (whadPhySet4fskModParse (some m) pDeviation).map Prod.fst
  | .setGfskMod pDeviation, m => (whadPhySetGfskModParse (some m) pDeviation).map Prod.fst
  | .setQpskMod pOffset, m => (whadPhySetQpskModParse (some m) pOffset).map Prod.fst
  | .setMskMod pDeviation, m => (whadPhySetMskModParse (some m) pDeviation).map Prod.fst
  | .setLoraMod pLoraParams, m => (whadPhySetLoraModParse (some m) pLoraParams).map Prod.fst
  | .setFreq pFreq, m => (whadPhySetFreqParse (some m) pFreq).map Prod.fst
  | .setDatarate pDatarate, m => (whadPhySetDatarateParse (some m) pDatarate).map Prod.fst
  | .setEndianness pEndianness, m => (whadPhySetEndiannessParse (some m) pEndianness).map Prod.fst
  | .setTxPower pPower, m => (whadPhySetTxPowerParse (some m) pPower).map Prod.fst
  | .setPacketSize pPacketSize, m => (whadPhySetPacketSizeParse (some m) pPacketSize).map Prod.fst
  | .setSyncWord pSyncword, m => (whadPhySetSyncWordParse (some m) pSyncword).map Prod.fst
  | .sniffMode pIqStream, m => (whadPhySniffModeParse (some m) pIqStream).map Prod.fst
  | .jamMode pMode, m => (whadPhyJamModeParse (some m) pMode).map Prod.fst
  | .send pPacket, m => (whadPhySendParse (some m) pPacket).map Prod.fst
  | .schedPacket pSchedPacket, m => (whadPhySchedPacketParse (some m) pSchedPacket).map Prod.fst
  | .jammed pTimestamp, m => (whadPhyJammedParse (some m) pTimestamp).map Prod.fst
  | .schedPacketSent pPacketId, m => (whadPhySchedPacketSentParse (some m) pPacketId).map Prod.fst
  | .packetReceived pReceivedPkt, m => (whadPhyPacketReceivedParse (some m) pReceivedPkt).map Prod.fst
  | .packetScheduled pSchedPkt, m => (whadPhyPacketScheduledParse (some m) pSchedPkt).map Prod.fst

/-- The messages that a parser is for. -/
def PhyParser.kind : PhyParser → Kind
  | .setAskMod .. => .phy .modAsk
  | .setFskMod .. => .phy .modFsk
  | .set4fskMod .. => .phy .mod4fsk
  | .setGfskMod .. => .phy .modGfsk
  | .setQpskMod .. => .phy .modQpsk
  | .setMskMod .. => .phy .modMsk
  | .setLoraMod .. => .phy .modLora
  | .setFreq .. => .phy .setFreq
  | .setDatarate .. => .phy .datarate
  | .setEndianness .. => .phy .endianness
  | .setTxPower .. => .phy .txPower
  | .setPacketSize .. => .phy .packetSize
  | .setSyncWord .. => .phy .syncWord
  | .sniffMode .. => .phy .sniff
  | .jamMode .. => .phy .jam
  | .send .. => .phy .send
  | .schedPacket .. => .phy .schedSend
  | .jammed .. => .phy .jammed
  | .schedPacketSent .. => .phy .schedPktSent
  | .packetReceived .. => .phy .packet
  | .packetScheduled .. => .phy .schedPktRsp

/-- Every output is there. -/
def PhyParser.given : PhyParser → Bool
  | .setAskMod pOnOffKeying => pOnOffKeying.isSome
  | .setFskMod pDeviation => pDeviation.isSome
  | .set4fskMod pDeviation => pDeviation.isSome
  | .setGfskMod pDeviation => pDeviation.isSome
  | .setQpskMod pOffset => pOffset.isSome
  | .setMskMod pDeviation => pDeviation.isSome
  | .setLoraMod pLoraParams => pLoraParams.isSome
  | .setFreq pFreq => pFreq.isSome
  | .setDatarate pDatarate => pDatarate.isSome
  | .setEndianness pEndianness => pEndianness.isSome
  | .setTxPower pPower => pPower.isSome
  | .setPacketSize pPacketSize => pPacketSize.isSome
  | .setSyncWord pSyncword => pSyncword.isSome
  | .sniffMode pIqStream => pIqStream.isSome
  | .jamMode pMode => pMode.isSome
  | .send pPacket => pPacket.isSome
  | .schedPacket pSchedPacket => pSchedPacket.isSome
  | .jammed pTimestamp => pTimestamp.isSome
  | .schedPacketSent pPacketId => pPacketId.isSome
  | .packetReceived pReceivedPkt => pReceivedPkt.isSome
  | .packetScheduled pSchedPkt => pSchedPkt.isSome

end WhadLib.Phy
