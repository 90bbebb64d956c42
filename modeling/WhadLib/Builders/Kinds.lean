import WhadLib.Builders

/-! Each builder has a member of its own, and a call that succeeds leaves a message of that kind. -/
namespace WhadLib
open Library

/- A builder is compared with its member and its body, not with what setting both comes to. -/
attribute [local irreducible] FullMessage.build

namespace Ble

/-- The member that a builder writes. -/
def BleBuilder.kind : BleBuilder → BleKind
  | .rawPdu .. => .rawPdu
  | .pdu .. => .pdu
  | .notifyConnected .. => .connected
  | .notifyDisconnected .. => .disconnected
  | .setBdaddress .. => .setBdAddr
  | .sniffAdv .. => .sniffAdv
  | .jamAdv => .jamAdv
  | .jamAdvChannel .. => .jamAdvChan
  | .sniffConnReq .. => .sniffConnreq
  | .sniffAccessAddress .. => .sniffAa
  | .sniffActiveConn .. => .sniffConn
  | .jamActiveConn .. => .jamConn
  | .scanMode .. => .scanMode
  | .advMode .. => .advMode
  | .setAdvData .. => .setAdvData
  | .centralMode => .centralMode
  | .connectTo .. => .connect
  | .sendRawPdu .. => .sendRawPdu
  | .sendPdu .. => .sendPdu
  | .disconnect .. => .disconnect
  | .peripheralMode .. => .periphMode
  | .start => .start
  | .stop => .stop
  | .hijackMaster .. => .hijackMaster
  | .hijackSlave .. => .hijackSlave
  | .hijackBoth .. => .hijackBoth
  | .setEncryption .. => .encryption
  | .reactiveJam .. => .reactiveJam
  | .prepareSequenceOnRecv .. => .prepare
  | .prepareSequenceManual .. => .prepare
  | .prepareSequenceConnEvt .. => .prepare
  | .prepareSequenceTrigger .. => .trigger
  | .prepareSequenceDelete .. => .deleteSeq
  | .triggered .. => .triggered
  | .accessAddressDiscovered .. => .aaDisc
  | .advPdu .. => .advPdu
  | .synchronized .. => .synchronized
  | .desynchronized .. => .desynchronized
  | .hijacked .. => .hijacked
  | .injected .. => .injected

end Ble

namespace Phy

/-- The member that a builder writes. -/
def PhyBuilder.kind : PhyBuilder → PhyKind
  | .setAskMod .. => .modAsk
  | .setFskMod .. => .modFsk
  | .set4fskMod .. => .mod4fsk
  | .setGfskMod .. => .modGfsk
  | .setBpskMod => .modBpsk
  | .setQpskMod .. => .modQpsk
  | .setMskMod .. => .modMsk
  | .setLoraMod .. => .modLora
  | .setFreq .. => .setFreq
  | .setDatarate .. => .datarate
  | .setEndianness .. => .endianness
  | .setTxPower .. => .txPower
  | .setPacketSize .. => .packetSize
  | .setSyncWord .. => .syncWord
  | .sniffMode .. => .sniff
  | .jamMode .. => .jam
  | .monitorMode => .monitor
  | .start => .start
  | .stop => .stop
  | .send .. => .send
  | .sendRawIq .. => .sendRaw
  | .supportedFrequencies .. => .supportedFreq
  | .schedPacket .. => .schedSend
  | .jammed .. => .jammed
  | .schedPacketSent .. => .schedPktSent
  | .packetReceived .. => .packet
  | .packetScheduled .. => .schedPktRsp

end Phy

namespace Esb

/-- The member that a builder writes. -/
def EsbBuilder.kind : EsbBuilder → EsbKind
  | .setNodeAddress .. => .setNodeAddr
  | .sniff .. => .sniff
  | .jam .. => .jam
  | .send .. => .send
  | .sendRaw .. => .sendRaw
  | .prx .. => .prx
  | .ptx .. => .ptx
  | .start => .start
  | .stop => .stop
  | .jammed .. => .jammed
  | .rawPduReceived .. => .rawPdu
  | .pduReceived .. => .pdu

end Esb

namespace Unifying

/-- The member that a builder writes. -/
def UnifyingBuilder.kind : UnifyingBuilder → UnifyingKind
  | .setNodeAddress .. => .setNodeAddr
  | .sniff .. => .sniff
  | .jam .. => .jam
  | .send .. => .send
  | .sendRaw .. => .sendRaw
  | .dongleMode .. => .dongle
  | .keyboardMode .. => .keyboard
  | .mouseMode .. => .mouse
  | .start => .start
  | .stop => .stop
  | .sniffPairing => .sniffPairing
  | .jammed .. => .jammed
  | .rawPduReceived .. => .rawPdu
  | .pduReceived .. => .pdu

end Unifying

namespace Dot15d4

/-- The member that a builder writes; a raw packet goes to the member of the other ones. -/
def Dot15d4Builder.kind : Dot15d4Builder → Dot15d4Kind
  | .setNodeAddress .. => .setNodeAddr
  | .sniff .. => .sniff
  | .jam .. => .jam
  | .energyDetect .. => .ed
  | .send .. => .send
  | .sendRaw .. => .send
  | .endDeviceMode .. => .endDevice
  | .routerMode .. => .router
  | .coordMode .. => .coordinator
  | .mitmMode .. => .mitm
  | .start => .start
  | .stop => .stop
  | .jammed .. => .jammed
  | .energyDetectSample .. => .edSample
  | .rawPduReceived .. => .rawPdu
  | .pduReceived .. => .pdu

end Dot15d4

/-- The member that a builder writes. -/
def DeviceBuilder.kind : DeviceBuilder → Kind
  | .discoveryDeviceInfoQuery .. => .discovery .infoQuery
  | .discoveryDeviceInfoResp .. => .discovery .infoResp
  | .discoveryDomainInfoQuery .. => .discovery .domainQuery
  | .discoveryDomainInfoResp .. => .discovery .domainResp
  | .discoveryDeviceReset => .discovery .resetQuery
  | .discoveryReadyResp => .discovery .readyResp
  | .discoverySetSpeed .. => .discovery .setSpeed
  | .genericCmdResult .. => .generic .cmdResult
  | .genericVerboseMessage .. => .generic .verbose
  | .genericDebugMessage .. => .generic .debug
  | .genericProgressMessage .. => .generic .progress

def DomainBuilder.kind : DomainBuilder → Kind
  | .ble b => .ble b.kind
  | .phy b => .phy b.kind
  | .esb b => .esb b.kind
  | .unifying b => .unifying b.kind
  | .dot15d4 b => .dot15d4 b.kind

def Builder.kind : Builder → Kind
  | .domain b => b.kind
  | .device b => b.kind

section
variable {k : Kind} {run : Option FullMessage → Outcome} {m m' : FullMessage}

end
end WhadLib
