import RxTech.Protocol.DatagramPipeline
import RxTech.Protocol.UdpPayloadAssembler

/-!
# The packet pipeline

`PacketPipeline`: the payload assembler in front of the datagram pipeline.
-/

set_option autoImplicit false

namespace RxTech

structure PacketPipeline where
  assembler : UdpPayloadAssembler := {}
  datagramPipeline : UdpDatagramPipeline

/-- The descriptor that `process_packet` fills in for an assembled frame. The pointer
of an empty vector may be null. -/
def UdpPayloadFrame.datagram (frame : UdpPayloadFrame) (packet : PacketDesc) :
    UdpDatagramDesc where
  payloadData := if frame.udpPayload = [] then none else some frame.data
  payloadLen := UInt32.ofNat frame.udpPayload.length
  srcIpv4Be := frame.sourceIpv4Be
  dstIpv4Be := frame.destIpv4Be
  srcPort := frame.sourcePort
  dstPort := frame.destPort
  tsNs := packet.tsNs
  queueId := packet.queueId
  cookie := packet.cookie

def PacketProcessStats.add (stats datagramStats : PacketProcessStats) : PacketProcessStats where
  acceptedBytes := stats.acceptedBytes + datagramStats.acceptedBytes
  acceptedPackets := stats.acceptedPackets + datagramStats.acceptedPackets
  filteredPackets := stats.filteredPackets + datagramStats.filteredPackets

namespace PacketPipeline

/-- The loop of `process_packet`; the packets are what `on_packet` is called with. -/
def processFrames (pipeline : UdpDatagramPipeline) (packet : PacketDesc) :
    List UdpPayloadFrame → PacketProcessStats → MetricsCollector →
      PacketProcessStats × MetricsCollector × List ProcessedPacket
  | [], stats, metrics => (stats, metrics, [])
  | frame :: rest, stats, metrics =>
      let (datagramStats, metrics, processed) :=
        pipeline.processDatagram (frame.datagram packet) metrics
      let (stats, metrics, delivered) :=
        processFrames pipeline packet rest (stats.add datagramStats) metrics
      (stats, metrics, processed.toList ++ delivered)

/-- `PacketPipeline::process_packet`; `none` if it does not return. -/
def processPacket (pipeline : PacketPipeline) (packet : PacketDesc) (metrics : MetricsCollector) :
    Option (PacketPipeline × PacketProcessStats × MetricsCollector × List ProcessedPacket) :=
  (pipeline.assembler.push packet).map fun (assembler, frames) =>
    ({ pipeline with assembler },
      processFrames pipeline.datagramPipeline packet frames {} metrics)

end PacketPipeline

end RxTech
