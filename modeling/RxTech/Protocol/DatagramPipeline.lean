import RxTech.Sidecar.Metrics

/-!
# The datagram pipeline

`UdpDatagramPipeline`: the packet filter, the parser, the validator and the
interpreter, from a received datagram to the packet handed to the owner loop.
-/

set_option autoImplicit false

namespace RxTech

inductive BackendKind where
  | unknown
  | dpdk
  | socket
  | fileReplay
  deriving DecidableEq, Repr

/-- A null `payload_data` or `raw_frame_data` is `none`. Only the socket backend ever
sets `truncated`, which is left out. -/
structure UdpDatagramDesc where
  payloadData : Option ByteView := none
  payloadLen : UInt32 := 0
  rawFrameData : Option ByteView := none
  rawFrameLen : UInt32 := 0
  srcIpv4Be : Nat := 0
  dstIpv4Be : Nat := 0
  srcPort : Nat := 0
  dstPort : Nat := 0
  tsNs : Nat := 0
  queueId : Nat := 0
  cookie : Nat := 0
  backendKind : BackendKind := .unknown

structure PacketProcessStats where
  acceptedBytes : Nat := 0
  acceptedPackets : Nat := 0
  filteredPackets : Nat := 0
  deriving DecidableEq, Repr

structure ProcessedPacket where
  udpFrame : UdpPayloadFrame
  parsed : ParsedPacketView
  interpreted : InterpretedPacketView
  sourceQueueId : Nat
  sourceTsNs : Nat

def isMalformedDescriptor (datagram : UdpDatagramDesc) : Bool :=
  decide (datagram.payloadLen > 0) && datagram.payloadData.isNone

/-- The frame that `process_datagram` fills in. -/
def UdpDatagramDesc.udpFrame (datagram : UdpDatagramDesc) : UdpPayloadFrame where
  udpPayload := datagram.payloadData.elim [] fun bytes =>
    (List.range datagram.payloadLen.toNat).map bytes
  sourceIpv4Be := datagram.srcIpv4Be
  destIpv4Be := datagram.dstIpv4Be
  sourcePort := datagram.srcPort
  destPort := datagram.dstPort

theorem UdpDatagramDesc.udpPayload_length_lt (datagram : UdpDatagramDesc) :
    datagram.udpFrame.udpPayload.length < 2 ^ 32 := by
  have bounded : datagram.payloadLen.toNat < 2 ^ 32 := datagram.payloadLen.toNat_lt
  cases missing : datagram.payloadData with
  | none =>
      simp only [udpFrame, missing, Option.elim_none, List.length_nil]
      omega
  | some bytes => simpa only [udpFrame, missing, Option.elim_some, List.length_map,
      List.length_range] using bounded

/-- The two addresses are what the constructor reads from the configured texts. -/
structure UdpDatagramPipeline where
  config : RxConfig
  spec : ProtocolSpec
  allowedSourceIpv4Be : Nat
  receiverIpv4Be : Nat

namespace UdpDatagramPipeline

def ofConfig (config : RxConfig) (allowedSourceIpv4Be receiverIpv4Be : Nat) :
    UdpDatagramPipeline :=
  { config, spec := protocolSpecFromConfig config, allowedSourceIpv4Be, receiverIpv4Be }

/-- `matches_packet_filter`: an empty address and a zero port filter nothing. -/
def matchesPacketFilter (pipeline : UdpDatagramPipeline) (frame : UdpPayloadFrame) : Bool :=
  let config := pipeline.config
  if config.allowedSourceIpv4 ≠ "" ∧ frame.sourceIpv4Be ≠ pipeline.allowedSourceIpv4Be then false
  else if config.receiverIpv4 ≠ "" ∧ frame.destIpv4Be ≠ pipeline.receiverIpv4Be then false
  else if config.allowedDestPort ≠ 0 ∧ frame.destPort ≠ u16 config.allowedDestPort then false
  else true

/-- `process_datagram`; the packet, if there is one, is what `on_packet` is
called with last. -/
def processDatagram (pipeline : UdpDatagramPipeline) (datagram : UdpDatagramDesc)
    (metrics : MetricsCollector) :
    PacketProcessStats × MetricsCollector × Option ProcessedPacket :=
  if isMalformedDescriptor datagram then ({}, metrics.onError, none)
  else
    let udpFrame := datagram.udpFrame
    if pipeline.matchesPacketFilter udpFrame = false then
      ({ filteredPackets := 1 }, metrics, none)
    else
      let stats : PacketProcessStats :=
        { acceptedBytes := udpFrame.udpPayload.length, acceptedPackets := 1 }
      let parsed := PacketParser.parse pipeline.spec udpFrame
      let validation := PacketValidator.validate pipeline.spec parsed
      if validation.ok = false then (stats, metrics.onReject validation.reason, none)
      else
        let interpreted := ProtocolSequenceInterpreter.interpret pipeline.spec parsed
        if interpreted.valid = false then
          (stats, metrics.onReject interpreted.rejectReason, none)
        else
          (stats, metrics.onValidPacket interpreted.kind,
            some
              { udpFrame
                parsed
                interpreted
                sourceQueueId := datagram.queueId
                sourceTsNs := datagram.tsNs })

end UdpDatagramPipeline

end RxTech
