import RxTech.Protocol.Packet
import Mathlib.Logic.Function.Basic

/-!
# Metrics

The counters of `MetricsCollector`. The sample vectors of the diagnostics build
are left out.
-/

set_option autoImplicit false

namespace RxTech

structure MetricsCollector where
  rxPackets : Nat := 0
  rxBytes : Nat := 0
  parsedPackets : Nat := 0
  droppedPackets : Nat := 0
  backendErrors : Nat := 0
  poolExhaustionCount : Nat := 0
  outputBackpressureCount : Nat := 0
  latePacketAcceptedCount : Nat := 0
  latePacketRejectedCount : Nat := 0
  controlTablePackets : Nat := 0
  dataPackets : Nat := 0
  rejectCounts : RejectReason → Nat := fun _ => 0

namespace MetricsCollector

def onBurst (metrics : MetricsCollector) (burstSize bytes : Nat) : MetricsCollector :=
  { metrics with
    rxPackets := metrics.rxPackets + burstSize
    rxBytes := metrics.rxBytes + bytes }

def onValidPacket (metrics : MetricsCollector) (kind : PacketKind) : MetricsCollector :=
  let metrics := { metrics with parsedPackets := metrics.parsedPackets + 1 }
  match kind with
  | .controlTable => { metrics with controlTablePackets := metrics.controlTablePackets + 1 }
  | .dataPacket => { metrics with dataPackets := metrics.dataPackets + 1 }
  | .unknown => metrics

def onReject (metrics : MetricsCollector) (reason : RejectReason) : MetricsCollector :=
  { metrics with
    droppedPackets := metrics.droppedPackets + 1
    rejectCounts := Function.update metrics.rejectCounts reason (metrics.rejectCounts reason + 1) }

def onDrop (metrics : MetricsCollector) : MetricsCollector :=
  { metrics with droppedPackets := metrics.droppedPackets + 1 }

def onError (metrics : MetricsCollector) : MetricsCollector :=
  { metrics with backendErrors := metrics.backendErrors + 1 }

def onPoolExhaustion (metrics : MetricsCollector) : MetricsCollector :=
  { metrics with poolExhaustionCount := metrics.poolExhaustionCount + 1 }

def onOutputBackpressure (metrics : MetricsCollector) : MetricsCollector :=
  { metrics with outputBackpressureCount := metrics.outputBackpressureCount + 1 }

def onLatePacketAccepted (metrics : MetricsCollector) : MetricsCollector :=
  { metrics with latePacketAcceptedCount := metrics.latePacketAcceptedCount + 1 }

def onLatePacketRejected (metrics : MetricsCollector) : MetricsCollector :=
  { metrics with latePacketRejectedCount := metrics.latePacketRejectedCount + 1 }

end MetricsCollector

end RxTech
