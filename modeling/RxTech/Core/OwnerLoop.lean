import RxTech.Core.Coordinator
import RxTech.Protocol.DatagramPipeline

/-!
# The owner loop

`OwnerLoop::run`: bursts of datagrams go through the pipeline to the
coordinator, accepted packets are captured, and after every burst the windows
are checked for a timeout.
-/

set_option autoImplicit false

namespace RxTech

/-- A row of the index stream. -/
structure IndexRow where
  cpi : UInt16
  channel : Nat
  prt : Nat
  packetIndex : Nat
  packetKind : PacketKind
  payloadLen : Nat
  valid : Bool
  deriving DecidableEq, Repr

structure CaptureArtifacts where
  packetStream : List UInt8 := []
  indexStream : List IndexRow := []
  fileOffset : Nat := 0
  recordedPackets : Nat := 0
  recordedBytes : Nat := 0
  capturedPackets : Nat := 0
  capturedBytes : Nat := 0
  deriving DecidableEq, Repr

def ProcessedPacket.indexRow (processed : ProcessedPacket) : IndexRow where
  cpi := processed.interpreted.cpi
  channel := processed.interpreted.channel
  prt := processed.interpreted.prt
  packetIndex := processed.interpreted.packetIndex
  packetKind := processed.interpreted.kind
  payloadLen := processed.udpFrame.udpPayload.length
  valid := processed.interpreted.valid

def CaptureArtifacts.capture (artifacts : CaptureArtifacts) (processed : ProcessedPacket) :
    CaptureArtifacts :=
  let size := processed.udpFrame.udpPayload.length
  { packetStream := artifacts.packetStream ++ processed.udpFrame.udpPayload
    indexStream := artifacts.indexStream ++ [processed.indexRow]
    fileOffset := artifacts.fileOffset + size
    recordedPackets := artifacts.recordedPackets + 1
    recordedBytes := artifacts.recordedBytes + size
    capturedPackets := artifacts.capturedPackets + 1
    capturedBytes := artifacts.capturedBytes + size }

namespace System

def outputDropIsError (s : System) : Bool := s.outputDropPolicy == "error"

/-- `apply_output_degradation`. -/
def applyOutputDegradation (s : System) (dropIsError : Bool) : System :=
  if s.runStatus = "success" ∨ (s.runStatus = "degraded" ∧ dropIsError = true) then
    { s with runStatus := if dropIsError then "error" else "degraded" }
  else s

/-- The run status follows an output that was dropped. -/
def degradeRunStatus (s : System) : System :=
  if s.outputDegraded then s.applyOutputDegradation s.outputDropIsError else s

end System

/-- What the loop changes; its run status and error are those of the system.
`arrivals` is history: for every accepted data datagram the birth of the context
that took it and its `ts_ns`. -/
structure OwnerLoop where
  system : System
  artifacts : CaptureArtifacts := {}
  filteredPackets : Nat := 0
  arrivals : List (Nat × Nat) := []

/-- What `recv_burst` returns, and for a burst what the steady clock answers at
the timeout check after it. -/
inductive Received where
  | failed
  | burst (datagrams : List UdpDatagramDesc) (nowNs : Nat)

/-- The birth of a context that took a packet. -/
def WindowEvent.storedBirth : WindowEvent → Option Nat
  | .stored _ ctx => some ctx.birth
  | .opened _ | .rebound _ | .produced _ _ _ | .discarded _ => none

namespace OwnerLoop

def capture (loop : OwnerLoop) (processed : ProcessedPacket) : OwnerLoop :=
  { loop with artifacts := loop.artifacts.capture processed }

/-- The data branch of `on_packet`; the flag is `cpi_result.accepted`. -/
def onDataPacket (spec : ProtocolSpec) (loop : OwnerLoop) (processed : ProcessedPacket) :
    OwnerLoop × Bool :=
  let (system, accepted) :=
    loop.system.processDataPacket spec processed.parsed processed.interpreted
  let stored := (system.windowLog.drop loop.system.windowLog.length).filterMap
    WindowEvent.storedBirth
  ({ loop with
      system := { system with verdicts := system.verdicts ++ [accepted] }
      arrivals := loop.arrivals ++ stored.map fun birth => (birth, processed.sourceTsNs) },
    accepted)

/-- The callback of `process_datagram`. -/
def onPacket (spec : ProtocolSpec) (loop : OwnerLoop) (processed : ProcessedPacket) : OwnerLoop :=
  match processed.interpreted.kind with
  | .controlTable =>
      capture { loop with system := loop.system.processControlPacket spec processed.parsed }
        processed
  | .dataPacket =>
      let (loop, accepted) := loop.onDataPacket spec processed
      if accepted then loop.capture processed else loop
  | .unknown => loop.capture processed

/-- One datagram of a burst, up to the test of `run_error`. -/
def onDatagram (pipeline : UdpDatagramPipeline) (loop : OwnerLoop) (datagram : UdpDatagramDesc) :
    OwnerLoop × PacketProcessStats :=
  let system := loop.system.drainRecycle
  let (stats, metrics, processed) := pipeline.processDatagram datagram system.metrics
  let loop := { loop with system := { system with metrics } }
  let loop := processed.elim loop (loop.onPacket pipeline.spec)
  ({ loop with system := loop.system.degradeRunStatus }, stats)

/-- The datagrams of a burst; `total` is what the earlier ones added up to. -/
def datagramLoop (pipeline : UdpDatagramPipeline) :
    List UdpDatagramDesc → OwnerLoop → PacketProcessStats → OwnerLoop × PacketProcessStats
  | [], loop, total => (loop, total)
  | datagram :: rest, loop, total =>
      let (loop, stats) := loop.onDatagram pipeline datagram
      if loop.system.runError ≠ "" then (loop, total)
      else
        datagramLoop pipeline rest
          { loop with filteredPackets := loop.filteredPackets + stats.filteredPackets }
          { acceptedBytes := total.acceptedBytes + stats.acceptedBytes
            acceptedPackets := total.acceptedPackets + stats.acceptedPackets
            filteredPackets := total.filteredPackets + stats.filteredPackets }

/-- An iteration of the main loop up to its timeout check. -/
def processBurst (pipeline : UdpDatagramPipeline) (loop : OwnerLoop)
    (datagrams : List UdpDatagramDesc) : OwnerLoop :=
  let (loop, total) := datagramLoop pipeline datagrams loop {}
  if loop.system.runError ≠ "" ∨ total.acceptedPackets = 0 then loop
  else
    { loop with
      system := { loop.system with
        metrics := loop.system.metrics.onBurst total.acceptedPackets total.acceptedBytes } }

def checkTimeout (loop : OwnerLoop) (nowNs : Nat) : OwnerLoop :=
  { loop with system := (loop.system.checkTimeout nowNs).1 }

def drainRecycle (loop : OwnerLoop) : OwnerLoop :=
  { loop with system := loop.system.drainRecycle }

def failReceive (loop : OwnerLoop) : OwnerLoop :=
  { loop with
    system := { loop.system with
      runStatus := "error"
      runError := "backend recv_burst failed" } }

/-- The loop before its first burst. -/
def start (config : RxConfig) (consumerSchedule clock : List Nat) : OwnerLoop :=
  { system := System.ofConfig config consumerSchedule clock }

/-- The main loop; it ends early when a burst cannot be received or leaves an
error. -/
def mainLoop (pipeline : UdpDatagramPipeline) : List Received → OwnerLoop → OwnerLoop
  | [], loop => loop
  | .failed :: _, loop => loop.failReceive
  | .burst datagrams nowNs :: rest, loop =>
      let loop := loop.processBurst pipeline datagrams
      if loop.system.runError ≠ "" then loop
      else mainLoop pipeline rest (loop.checkTimeout nowNs).drainRecycle

/-- The state in which the timeout is checked after the burst `datagrams`, when
no burst has ended the loop. -/
def atCheck (pipeline : UdpDatagramPipeline) (loop : OwnerLoop) (earlier : List Received)
    (datagrams : List UdpDatagramDesc) : OwnerLoop :=
  (mainLoop pipeline earlier loop).processBurst pipeline datagrams

/-- What follows the main loop. Joining the consumer thread is one more point at
which the consumer runs. -/
def shutdown (loop : OwnerLoop) : OwnerLoop :=
  { loop with
    system := loop.system.finalizeActiveForShutdown.degradeRunStatus.interfere.drainRecycle }

/-- `OwnerLoop::run`, on what its backend delivers. -/
def run (config : RxConfig) (allowedSourceIpv4Be receiverIpv4Be : Nat)
    (consumerSchedule clock : List Nat) (received : List Received) : OwnerLoop :=
  let pipeline := UdpDatagramPipeline.ofConfig config allowedSourceIpv4Be receiverIpv4Be
  (mainLoop pipeline received (start config consumerSchedule clock)).shutdown

end OwnerLoop

end RxTech
