import RxTech.Cpi.ContextPool
import RxTech.Output.Pipeline
import RxTech.Sidecar.Metrics

/-!
# The CPI state coordinator

`CpiStateCoordinator` together with what it acts on: the rings, the consumer
thread behind them, the metrics and the run status. The consumer may run
whenever the owner touches a ring, for as many steps as the schedule says.
-/

set_option autoImplicit false

namespace RxTech

/-- What became of a finalized output. -/
inductive Delivery where
  | detached
  | pushed
  | dropped
  deriving DecidableEq, Repr

/-- History of the windows. Every event carries the context after the step. -/
inductive WindowEvent where
  | opened (ctx : CpiContext)
  | stored (packet : ParsedPacketView) (ctx : CpiContext)
  | rebound (ctx : CpiContext)
  | produced (output : CpiOutput) (ctx : CpiContext) (delivery : Delivery)
  | discarded (ctx : CpiContext)

/-- History of the pool slots and of the references to them. -/
inductive SlotEvent where
  | acquired (index : PoolIndex)
  | released (index : PoolIndex)
  | pushed (output : CpiOutput)
  | returned (token : ReleaseToken)
  deriving DecidableEq, Repr

/-- The members of `CpiStateCoordinator` that change, then what its operations
are passed. `spec_` never changes and is a parameter of the operations. An
index stands for the pair of index and pointer, which are set together.
`consumerSchedule` and `clock` list how far the consumer runs at each ring
access and what the steady clock answers. `openings`, `verdicts`, `windowLog`
and `slotLog` are history that no operation reads. -/
structure System where
  ctxPool : CpiContextPool := .fresh
  closedRing : RecentClosedRing := .fresh
  currentControl : ControlSnapshot := {}
  nextOutputId : Nat := 1
  activeCtxIndex : Option PoolIndex := none
  previousCtxIndex : Option PoolIndex := none
  outputDropPolicy : String := "degrade"
  outputDegraded : Bool := false
  pipeline : Option OutputPipeline := none
  metrics : MetricsCollector := {}
  runStatus : String := "success"
  runError : String := ""
  consumerSchedule : List Nat := []
  clock : List Nat := []
  openings : Nat := 0
  verdicts : List Bool := []
  windowLog : List WindowEvent := []
  slotLog : List SlotEvent := []

namespace System

/-- `active_ctx_`. -/
def activeCtx (s : System) : Option CpiContext := s.activeCtxIndex.map s.ctxPool.contexts

/-- `previous_ctx_`. -/
def previousCtx (s : System) : Option CpiContext := s.previousCtxIndex.map s.ctxPool.contexts

/-! ## The consumer and the rings -/

def consumerStep (s : System) : System :=
  match s.pipeline with
  | none => s
  | some pipeline =>
      let (pipeline, token) := pipeline.consumerStep
      { s with
        pipeline := some pipeline
        slotLog := s.slotLog ++ (token.map SlotEvent.returned).toList }

def consumerSteps : Nat → System → System
  | 0, s => s
  | count + 1, s => consumerSteps count s.consumerStep

/-- The point before a ring access: the consumer runs as far as scheduled. -/
def interfere (s : System) : System :=
  match s.consumerSchedule with
  | [] => s
  | count :: rest => consumerSteps count { s with consumerSchedule := rest }

/-- `ctx_pool_.release(index)`. -/
def release (s : System) (index : Option PoolIndex) : System :=
  { s with
    ctxPool := s.ctxPool.release index
    slotLog := s.slotLog ++ (index.map SlotEvent.released).toList }

/-- The tokens in the recycle ring. -/
def tokens (s : System) : List ReleaseToken :=
  s.pipeline.elim [] fun pipeline => pipeline.recycleRing.items

/-- `recycle_ring_->pop(token)`. -/
def popToken (s : System) : Option (ReleaseToken × System) :=
  match s.pipeline with
  | none => none
  | some pipeline =>
      match pipeline.recycleRing.pop with
      | none => none
      | some (token, recycleRing) =>
          some (token, { s with pipeline := some { pipeline with recycleRing } })

/-- The rest of the drain loop once the consumer stands still. The ring holds
as many tokens as there are pops. -/
def drainQuiet : Nat → System → System × Bool
  | 0, s => (s, false)
  | count + 1, s =>
      match s.popToken with
      | none => (s, false)
      | some (token, s) => ((drainQuiet count (s.release token.ctxPoolIndex)).1, true)

/-- `while (recycle_ring_->pop(token)) ctx_pool_.release(...)`: pop after pop,
with the consumer running in between while its schedule lasts. -/
def drainLoop : List Nat → System → System × Bool
  | [], s => drainQuiet s.tokens.length { s with consumerSchedule := [] }
  | count :: rest, s =>
      let s := consumerSteps count { s with consumerSchedule := rest }
      match s.popToken with
      | none => (s, false)
      | some (token, s) => ((drainLoop rest (s.release token.ctxPoolIndex)).1, true)

/-- `drain_recycle_once`, and the body of `drain_recycle`; the flag tells whether
a token was recycled. -/
def drainRecycleOnce (s : System) : System × Bool :=
  match s.pipeline with
  | none => (s, false)
  | some _ => drainLoop s.consumerSchedule s

def drainRecycle (s : System) : System := s.drainRecycleOnce.1

/-- `steady_clock_now_ns()`. -/
def clockNow (s : System) : Nat := s.clock.headD 0

/-! ## Opening and closing windows -/

/-- `ctx_pool_.acquire(cpi_id)`. -/
def acquire (s : System) (cpiId : UInt16) : Option (PoolIndex × System) :=
  (s.ctxPool.acquire cpiId s.openings).map fun (index, ctxPool) =>
    (index, { s with ctxPool, slotLog := s.slotLog ++ [.acquired index] })

/-- The retries of `open_active` after a failed acquire: drain the recycle ring,
yield to the consumer if nothing was recycled, and try again. -/
def acquireRetry : Nat → System → UInt16 → Option PoolIndex × System
  | 0, s, _ => (none, s)
  | attempts + 1, s, cpiId =>
      let (drained, recycled) := s.drainRecycleOnce
      let s := if recycled then drained else drained.interfere.drainRecycle
      match s.acquire cpiId with
      | some (index, s) => (some index, s)
      | none => acquireRetry attempts s cpiId

/-- `open_active` starts by releasing a context that is still active. -/
def releaseActiveCtx (s : System) : System :=
  match s.activeCtxIndex with
  | none => s
  | some index => { s.release (some index) with activeCtxIndex := none }

def acquireCtx (s : System) (cpiId : UInt16) : Option PoolIndex × System :=
  match s.acquire cpiId with
  | some (index, s) => (some index, s)
  | none => acquireRetry 3 s cpiId

def failExhausted (s : System) : System :=
  { s with
    runStatus := "error"
    runError := "cpi context pool exhausted"
    metrics := s.metrics.onPoolExhaustion.onError }

/-- Bind the acquired context and make it the active one. -/
def installActive (spec : ProtocolSpec) (s : System) (cpiId : UInt16) (index : PoolIndex) :
    System :=
  let control := selectOpenSnapshot cpiId spec s.currentControl
  let ctx := bindControlSnapshot (s.ctxPool.contexts index) control
  { s with
    ctxPool := s.ctxPool.set index ctx
    activeCtxIndex := some index
    currentControl := control
    openings := s.openings + 1
    windowLog := s.windowLog ++ [.opened ctx] }

/-- `CpiStateCoordinator::open_active`. -/
def openActive (spec : ProtocolSpec) (s : System) (cpiId : UInt16) : System × Bool :=
  match s.releaseActiveCtx.acquireCtx cpiId with
  | (none, s) => (s.failExhausted, false)
  | (some index, s) => (s.installActive spec cpiId index, true)

/-- Push an output, or drop it and free the context at once. -/
def offer (s : System) (output : CpiOutput) (ctx : CpiContext) (index : PoolIndex) : System :=
  match s.pipeline.bind fun pipeline => pipeline.pushOutput output with
  | some pipeline =>
      { s with
        pipeline := some pipeline
        windowLog := s.windowLog ++ [.produced output ctx .pushed]
        slotLog := s.slotLog ++ [.pushed output] }
  | none =>
      let s := s.release (some index)
      { s with
        metrics := s.metrics.onOutputBackpressure
        outputDegraded := true
        windowLog := s.windowLog ++ [.produced output ctx .dropped] }

/-- Hand an output over; without rings the context is freed. -/
def deliver (s : System) (output : CpiOutput) (ctx : CpiContext) (index : PoolIndex) : System :=
  match s.pipeline with
  | none =>
      let s := s.release (some index)
      { s with windowLog := s.windowLog ++ [.produced output ctx .detached] }
  | some _ =>
      let numbered := { output with outputId := s.nextOutputId }
      ({ s with nextOutputId := s.nextOutputId + 1 }).interfere.offer numbered ctx index

/-- The body that `finalize_active` and `finalize_previous` share. -/
def finalizeContext (s : System) (index : PoolIndex) (trigger : Nat) : System :=
  let ctx := s.ctxPool.contexts index
  match CpiFinalizer.tryFinalize ctx trigger s.clockNow with
  | some (sealedCtx, output) =>
      let s := { s with
        ctxPool := s.ctxPool.set index sealedCtx
        clock := s.clock.tail
        closedRing := s.closedRing.pushClosed output.cpiId output.sealTsc output.decision }
      s.deliver output sealedCtx index
  | none =>
      let s := s.release (some index)
      { s with windowLog := s.windowLog ++ [.discarded ctx] }

def finalizeActive (s : System) (trigger : Nat) : System :=
  match s.activeCtxIndex with
  | none => s
  | some index => { s.finalizeContext index trigger with activeCtxIndex := none }

def finalizePrevious (s : System) (trigger : Nat) : System :=
  match s.previousCtxIndex with
  | none => s
  | some index => { s.finalizeContext index trigger with previousCtxIndex := none }

/-- Write to a context of the pool. -/
def setCtx (s : System) (index : PoolIndex) (ctx : CpiContext) : System :=
  { s with ctxPool := s.ctxPool.set index ctx }

/-! ## Control packets and timeouts -/

/-- The pool index of a window that holds `cpiId`. -/
def windowOf (s : System) (window : Option PoolIndex) (cpiId : UInt16) : Option PoolIndex :=
  window.filter fun index => (s.ctxPool.contexts index).header.cpiId == cpiId

/-- Merge a control snapshot into one window. -/
def rebind (s : System) (index : PoolIndex) (candidate : ControlSnapshot) : System :=
  let ctx := mergeControlSnapshot (s.ctxPool.contexts index) candidate
  { s.setCtx index ctx with windowLog := s.windowLog ++ [.rebound ctx] }

/-- `CpiStateCoordinator::process_control_packet`. -/
def processControlPacket (spec : ProtocolSpec) (s : System) (parsed : ParsedPacketView) : System :=
  if parsed.valid = false ∨ parsed.kind ≠ .controlTable then s
  else
    let candidate := makeControlSnapshot parsed spec
    match s.windowOf s.activeCtxIndex candidate.cpiId with
    | some index =>
        let s := s.rebind index candidate
        { s with currentControl := (s.ctxPool.contexts index).control }
    | none =>
        match s.windowOf s.previousCtxIndex candidate.cpiId with
        | some index => s.rebind index candidate
        | none => { s with currentControl := candidate }

/-- The timeout test of `check_timeout`, for one window. -/
def timedOut (ctx : CpiContext) (nowNs : Nat) : Bool :=
  decide (ctx.control.timeoutNs ≠ 0 ∧ ctx.header.firstRxTsc ≠ 0 ∧
    nowNs > ctx.header.firstRxTsc ∧ nowNs - ctx.header.firstRxTsc ≥ ctx.control.timeoutNs)

def markTrigger (ctx : CpiContext) (trigger : Nat) : CpiContext :=
  { ctx with header.triggerBits := ctx.header.triggerBits ||| trigger }

def checkPreviousTimeout (s : System) (nowNs : Nat) : System × Bool :=
  match s.previousCtxIndex with
  | none => (s, false)
  | some index =>
      let ctx := s.ctxPool.contexts index
      if timedOut ctx nowNs then
        ((s.setCtx index (markTrigger ctx triggerTimeout)).finalizePrevious triggerTimeout, true)
      else (s, false)

/-- `CpiStateCoordinator::check_timeout`: the previous window, then the active
one. -/
def checkTimeout (s : System) (nowNs : Nat) : System × Bool :=
  let (s, previousTimedOut) := s.checkPreviousTimeout nowNs
  match s.activeCtxIndex with
  | none => (s, previousTimedOut)
  | some index =>
      let ctx := s.ctxPool.contexts index
      if timedOut ctx nowNs then
        let s := (s.setCtx index (markTrigger ctx triggerTimeout)).finalizeActive triggerTimeout
        ({ s with metrics := s.metrics.onError }, true)
      else (s, previousTimedOut)

/-! ## Data packets -/

def dropPacket (s : System) : System := { s with metrics := s.metrics.onDrop }

def rejectLate (s : System) : System :=
  { s with metrics := s.metrics.onLatePacketRejected.onDrop }

/-- Progress and history after a first write into a context. -/
def storeProgress (spec : ProtocolSpec) (s : System) (index : PoolIndex) (written : CpiContext)
    (parsed : ParsedPacketView) (packet : InterpretedPacketView) : System :=
  let ctx := ProgressTracker.advance spec written packet.prt packet.channel
    (parsed.tail == spec.magicTail)
  { s.setCtx index ctx with windowLog := s.windowLog ++ [.stored parsed ctx] }

def finalizeMask : Nat := triggerFullReady ||| triggerWaveEnd

/-- Write a packet into the active window, which closes when it is full or the
wave ends. -/
def writeActive (spec : ProtocolSpec) (s : System) (index : PoolIndex) (parsed : ParsedPacketView)
    (packet : InterpretedPacketView) : System × Bool :=
  let (written, result) := SlotWriter.write spec (s.ctxPool.contexts index) parsed
  if result.duplicate then ((s.setCtx index written).dropPacket, false)
  else if result.firstWrite = false then
    ({ s with metrics := s.metrics.onReject result.reason }, false)
  else
    let s := s.storeProgress spec index written parsed packet
    let bits := (s.ctxPool.contexts index).header.triggerBits
    if Bits.hasAny bits finalizeMask then (s.finalizeActive (bits &&& finalizeMask), true)
    else (s, true)

/-- A packet that the active window does not take: late for the previous window,
or dropped. -/
def writeLate (spec : ProtocolSpec) (s : System) (parsed : ParsedPacketView)
    (packet : InterpretedPacketView) : System × Bool :=
  match s.windowOf s.previousCtxIndex parsed.cpi with
  | none => (s.rejectLate, false)
  | some index =>
      let (written, result) := SlotWriter.write spec (s.ctxPool.contexts index) parsed
      if result.firstWrite = true ∧ result.duplicate = false then
        let s := s.storeProgress spec index written parsed packet
        ({ s with metrics := s.metrics.onLatePacketAccepted }, true)
      else ((s.setCtx index written).rejectLate, false)

/-- The active window moves to the previous one. -/
def shiftActive (s : System) : System :=
  { s with previousCtxIndex := s.activeCtxIndex, activeCtxIndex := none }

/-- After `open_active`: return if it failed, else go on with the new window. -/
def whenOpened (opening : System × Bool) (next : System → PoolIndex → System × Bool) :
    System × Bool :=
  match opening.2, opening.1.activeCtxIndex with
  | true, some index => next opening.1 index
  | _, _ => (opening.1, false)

/-- The part of `process_data_packet` after `judge`, with an active context. -/
def admitPacket (spec : ProtocolSpec) (s : System) (index : PoolIndex) (parsed : ParsedPacketView)
    (packet : InterpretedPacketView) : System × Bool :=
  match CpiAdmission.judge parsed (s.ctxPool.contexts index).header.cpiId s.closedRing with
  | .writeActive => s.writeActive spec index parsed packet
  | .triggerCpiSwitch =>
      let s := (s.finalizePrevious triggerCpiSwitch).shiftActive
      whenOpened (s.openActive spec packet.cpi) fun s index =>
        s.writeActive spec index parsed packet
  | .lateToClosed | .drop => s.writeLate spec parsed packet

/-- `CpiStateCoordinator::process_data_packet`; the flag is `accepted`. -/
def processDataPacket (spec : ProtocolSpec) (s : System) (parsed : ParsedPacketView)
    (packet : InterpretedPacketView) : System × Bool :=
  match s.activeCtxIndex with
  | some index => s.admitPacket spec index parsed packet
  | none =>
      if s.closedRing.contains parsed.cpi then (s.rejectLate, false)
      else
        whenOpened (s.openActive spec packet.cpi) fun s index =>
          s.admitPacket spec index parsed packet

/-- `CpiStateCoordinator::finalize_active_for_shutdown`. -/
def finalizeActiveForShutdown (s : System) : System :=
  let s := s.finalizePrevious triggerStop
  match s.activeCtxIndex with
  | none => s
  | some index =>
      (s.setCtx index (markTrigger (s.ctxPool.contexts index) triggerStop)).finalizeActive
        triggerStop

end System

/-! ## Runs -/

/-- The operations of the owner, and the consumer running in between. -/
inductive Op where
  | control (parsed : ParsedPacketView)
  | data (parsed : ParsedPacketView) (packet : InterpretedPacketView)
  | timeout (nowNs : Nat)
  | drainRecycle
  | consumer
  | shutdown

/-- Data packets are valid and interpreted consistently. -/
def Op.Valid : Op → Prop
  | .data parsed packet => ValidData parsed packet
  | .control _ | .timeout _ | .drainRecycle | .consumer | .shutdown => True

/-- A control table that announces `nPrt` PRTs. -/
def Op.announce (cpi : UInt16) (nPrt : Nat) : Op :=
  .control { valid := true, kind := .controlTable, cpi, prt := nPrt }

/-- A data packet with a payload of zeros. -/
def ParsedPacketView.zeroData (spec : ProtocolSpec) (cpi : UInt16)
    (prt channel packetIndex tail : Nat) : ParsedPacketView where
  valid := true
  kind := .dataPacket
  cpi := cpi
  channel := channel
  prt := prt
  packetIndex := packetIndex
  tail := tail
  payloadPtr := some fun _ => 0
  payloadLen := spec.packetDataSize

def Op.zeroData (spec : ProtocolSpec) (cpi : UInt16) (prt channel packetIndex tail : Nat) : Op :=
  .data (.zeroData spec cpi prt channel packetIndex tail)
    { valid := true, kind := .dataPacket, cpi, prt, channel, packetIndex }

@[simp] theorem Op.announce_valid (cpi : UInt16) (nPrt : Nat) : (Op.announce cpi nPrt).Valid :=
  trivial

@[simp] theorem Op.shutdown_valid : Op.shutdown.Valid := trivial

@[simp] theorem Op.zeroData_valid (spec : ProtocolSpec) (cpi : UInt16)
    (prt channel packetIndex tail : Nat) :
    (Op.zeroData spec cpi prt channel packetIndex tail).Valid :=
  ⟨rfl, rfl, rfl, rfl, rfl⟩

/-- One channel of two packets and one PRT, in fixed mode. -/
def pairConfig : RxConfig :=
  { protocolChannelsPerPrt := 1
    protocolPacketsPerChannel := 2
    protocolExpectedNPrt := 1
    protocolDynamicPrtEnabled := false }

/-- One channel of two packets, and as many PRTs as a control table announces. -/
def announcedConfig : RxConfig :=
  { protocolChannelsPerPrt := 1, protocolPacketsPerChannel := 2 }

/-- One operation; the verdict on a data packet is recorded. -/
def System.step (spec : ProtocolSpec) (op : Op) (s : System) : System :=
  match op with
  | .control parsed => s.processControlPacket spec parsed
  | .data parsed packet =>
      let (s, accepted) := s.processDataPacket spec parsed packet
      { s with verdicts := s.verdicts ++ [accepted] }
  | .timeout nowNs => (s.checkTimeout nowNs).1
  | .drainRecycle => s.drainRecycle
  | .consumer => s.consumerStep
  | .shutdown => s.finalizeActiveForShutdown

/-- A new coordinator, with rings attached or not, any consumer schedule and any
clock. -/
def System.fresh (pipeline : Option OutputPipeline) (consumerSchedule clock : List Nat) : System :=
  { pipeline, consumerSchedule, clock }

/-- A new coordinator with fresh rings. -/
def System.attached (outputMinCapacity recycleMinCapacity : Nat)
    (consumerSchedule clock : List Nat) : System :=
  System.fresh (some (OutputPipeline.fresh outputMinCapacity recycleMinCapacity)) consumerSchedule
    clock

/-- `CpiStateCoordinator::configure_output_policy`. -/
def System.configureOutputPolicy (s : System) (policy : String) : System :=
  { s with outputDropPolicy := if policy = "error" then "error" else "degrade" }

/-- The coordinator as `OwnerLoop::run` sets it up. -/
def System.ofConfig (config : RxConfig) (consumerSchedule clock : List Nat) : System :=
  (System.fresh (some (OutputPipeline.ofConfig config)) consumerSchedule clock).configureOutputPolicy
    config.outputDropPolicy

end RxTech
