import RxTech.Core.ConsumerIndependence

/-!
# The coordinator without control packets and clocks

A view of the coordinator that leaves out when contexts were sealed, the staged
control snapshot and the merges. With fixed PRT counts the view after an
operation follows from the view before it.
-/

set_option autoImplicit false

namespace RxTech

def CpiContext.untimed (ctx : CpiContext) : CpiContext := ctx.relabel id

def CpiOutput.untimed (output : CpiOutput) : CpiOutput := { output with sealTsc := 0 }

def ConsumerPhase.untimed : ConsumerPhase → ConsumerPhase
  | .handle output => .handle output.untimed
  | .push output => .push output.untimed
  | .recheck output => .recheck output.untimed
  | .drainHandle output => .drainHandle output.untimed
  | .drainPush output => .drainPush output.untimed
  | phase => phase

def OutputPipeline.untimed (pipeline : OutputPipeline) : OutputPipeline :=
  { pipeline with
    outputRing := pipeline.outputRing.map CpiOutput.untimed
    consumer := { pipeline.consumer with
      phase := pipeline.consumer.phase.untimed
      handled := pipeline.consumer.handled.map CpiOutput.untimed } }

def CpiContextPool.untimed (pool : CpiContextPool) : CpiContextPool :=
  { pool with contexts := CpiContext.untimed ∘ pool.contexts }

def WindowEvent.untimed : WindowEvent → Option WindowEvent
  | .opened ctx => some (.opened ctx.untimed)
  | .stored packet ctx => some (.stored packet ctx.untimed)
  | .rebound _ => none
  | .produced output ctx delivery => some (.produced output.untimed ctx.untimed delivery)
  | .discarded ctx => some (.discarded ctx.untimed)

def SlotEvent.untimed : SlotEvent → SlotEvent
  | .pushed output => .pushed output.untimed
  | event => event

/-! ## The consumer -/

theorem CpiContext.untimed_untimed (ctx : CpiContext) : ctx.untimed.untimed = ctx.untimed := rfl

theorem CpiOutput.untimed_untimed (output : CpiOutput) : output.untimed.untimed = output.untimed :=
  rfl

theorem ConsumerPhase.untimed_untimed (phase : ConsumerPhase) :
    phase.untimed.untimed = phase.untimed := by
  cases phase <;> rfl

theorem SlotEvent.untimed_untimed (event : SlotEvent) : event.untimed.untimed = event.untimed := by
  cases event <;> rfl

theorem OutputPipeline.untimed_untimed (pipeline : OutputPipeline) :
    pipeline.untimed.untimed = pipeline.untimed := by
  have outputs : CpiOutput.untimed ∘ CpiOutput.untimed = CpiOutput.untimed := rfl
  simp only [untimed, BoundedQueue.map_map, List.map_map, outputs, ConsumerPhase.untimed_untimed]

theorem OutputPipeline.consumerStep_untimed (pipeline : OutputPipeline) :
    pipeline.untimed.consumerStep =
      (pipeline.consumerStep.1.untimed, pipeline.consumerStep.2) := by
  obtain ⟨outputRing, recycleRing, ⟨phase, processedCount, handled⟩, stopFlag⟩ := pipeline
  cases phase with
  | poll => cases stopFlag <;> rfl
  | recheck output => cases stopFlag <;> rfl
  | count | drainCount | exited => rfl
  | handle output | drainHandle output =>
      simp [consumerStep, untimed, ConsumerPhase.untimed, callHandler, goto]
  | pop | drainPop =>
      simp only [consumerStep, untimed, ConsumerPhase.untimed, BoundedQueue.pop_map]
      cases outputRing.pop <;> rfl
  | push output | drainPush output =>
      simp only [consumerStep, untimed, ConsumerPhase.untimed,
        show output.untimed.releaseToken = output.releaseToken from rfl]
      cases recycleRing.push output.releaseToken <;> rfl

theorem OutputPipeline.pushOutput_untimed (pipeline : OutputPipeline) (output : CpiOutput) :
    pipeline.untimed.pushOutput output.untimed =
      (pipeline.pushOutput output).map OutputPipeline.untimed := by
  simp only [pushOutput, untimed, BoundedQueue.push_map, Option.map_map]
  rfl

namespace CpiContextPool

private theorem set_untimed (pool : CpiContextPool) (index : PoolIndex) (ctx : CpiContext) :
    (pool.set index ctx).untimed = pool.untimed.set index ctx.untimed := by
  simp only [untimed, set, Function.comp_update]

private theorem release_untimed (pool : CpiContextPool) (index : Option PoolIndex) :
    (pool.release index).untimed = pool.untimed.release index := by
  cases index with
  | none => rfl
  | some index =>
      simp only [untimed, release, Function.comp_update]
      rfl

private theorem acquire_untimed (pool : CpiContextPool) (cpiId : UInt16) (birth : Nat) :
    pool.untimed.acquire cpiId birth =
      (pool.acquire cpiId birth).map fun acquired => (acquired.1, acquired.2.untimed) := by
  simp only [acquire, Option.map_map]
  congr 1
  funext index
  simp only [Function.comp_apply, untimed, Function.comp_update]
  rfl

end CpiContextPool

namespace System

/-- The coordinator without what a control packet and the clock determine. -/
def fixedView (s : System) : System :=
  { s with
    ctxPool := s.ctxPool.untimed
    closedRing := s.closedRing.map RecentClosedEntry.anonymous
    currentControl := {}
    pipeline := s.pipeline.map OutputPipeline.untimed
    clock := []
    windowLog := s.windowLog.filterMap WindowEvent.untimed
    slotLog := s.slotLog.map SlotEvent.untimed }

def fixedViews {α : Type} (result : System × α) : System × α := (result.1.fixedView, result.2)

theorem fixedView_fixedView (s : System) : s.fixedView.fixedView = s.fixedView := by
  have contexts : CpiContext.untimed ∘ CpiContext.untimed = CpiContext.untimed := rfl
  have pipelines : OutputPipeline.untimed ∘ OutputPipeline.untimed = OutputPipeline.untimed :=
    funext OutputPipeline.untimed_untimed
  have slots : SlotEvent.untimed ∘ SlotEvent.untimed = SlotEvent.untimed :=
    funext SlotEvent.untimed_untimed
  have events (event : WindowEvent) :
      event.untimed.bind WindowEvent.untimed = event.untimed := by
    cases event <;> rfl
  simp only [fixedView, CpiContextPool.untimed, ← Function.comp_assoc, contexts,
    RecentRing.map_map, RecentClosedEntry.anonymous_comp, Option.map_map, pipelines,
    List.filterMap_filterMap, events, List.map_map, slots]

theorem consumerStep_fixedView (s : System) :
    s.fixedView.consumerStep = s.consumerStep.fixedView := by
  cases attached : s.pipeline with
  | none =>
      simp only [consumerStep, attached, show s.fixedView.pipeline = none by
        simp [fixedView, attached]]
  | some pipeline =>
      simp only [consumerStep, attached, show s.fixedView.pipeline = some pipeline.untimed by
        simp [fixedView, attached], pipeline.consumerStep_untimed]
      cases pipeline.consumerStep.2 <;> simp [fixedView, SlotEvent.untimed]

private theorem consumerSteps_fixedView (count : Nat) (s : System) :
    consumerSteps count s.fixedView = (consumerSteps count s).fixedView := by
  induction count generalizing s with
  | zero => rfl
  | succ count ih => rw [consumerSteps, consumerSteps, consumerStep_fixedView, ih]

private theorem interfere_fixedView (s : System) :
    s.fixedView.interfere = s.interfere.fixedView := by
  simp only [interfere, show s.fixedView.consumerSchedule = s.consumerSchedule from rfl]
  cases s.consumerSchedule with
  | nil => rfl
  | cons count rest => exact consumerSteps_fixedView count { s with consumerSchedule := rest }

/-! ## Recycling -/

private theorem release_fixedView (s : System) (index : Option PoolIndex) :
    s.fixedView.release index = (s.release index).fixedView := by
  cases index <;> simp [release, fixedView, CpiContextPool.release_untimed, SlotEvent.untimed]

private theorem popToken_fixedView (s : System) :
    s.fixedView.popToken = s.popToken.map fun popped => (popped.1, popped.2.fixedView) := by
  cases attached : s.pipeline with
  | none => simp [popToken, fixedView, attached]
  | some pipeline =>
      simp only [popToken, attached, show s.fixedView.pipeline = some pipeline.untimed by
        simp [fixedView, attached],
        show pipeline.untimed.recycleRing = pipeline.recycleRing from rfl]
      cases pipeline.recycleRing.pop <;> rfl

private theorem tokens_fixedView (s : System) : s.fixedView.tokens = s.tokens := by
  cases attached : s.pipeline with
  | none => simp [tokens, fixedView, attached]
  | some pipeline => simp [tokens, fixedView, attached, OutputPipeline.untimed]

private theorem drainQuiet_fixedView (count : Nat) (s : System) :
    drainQuiet count s.fixedView = fixedViews (drainQuiet count s) := by
  induction count generalizing s with
  | zero => rfl
  | succ count ih =>
      rw [drainQuiet, drainQuiet, popToken_fixedView]
      cases s.popToken with
      | none => rfl
      | some popped =>
          simp only [Option.map_some, release_fixedView, ih]
          rfl

private theorem drainLoop_fixedView (schedule : List Nat) (s : System) :
    drainLoop schedule s.fixedView = fixedViews (drainLoop schedule s) := by
  induction schedule generalizing s with
  | nil =>
      rw [drainLoop, drainLoop, tokens_fixedView]
      exact drainQuiet_fixedView _ { s with consumerSchedule := [] }
  | cons count rest ih =>
      have ran : consumerSteps count { s.fixedView with consumerSchedule := rest } = _ :=
        consumerSteps_fixedView count { s with consumerSchedule := rest }
      simp only [drainLoop, ran, popToken_fixedView]
      cases (consumerSteps count { s with consumerSchedule := rest }).popToken with
      | none => rfl
      | some popped =>
          simp only [Option.map_some, release_fixedView, ih]
          rfl

private theorem drainRecycleOnce_fixedView (s : System) :
    s.fixedView.drainRecycleOnce = fixedViews s.drainRecycleOnce := by
  simp only [drainRecycleOnce, show s.fixedView.pipeline =
    s.pipeline.map OutputPipeline.untimed from rfl]
  cases s.pipeline with
  | none => rfl
  | some pipeline => exact drainLoop_fixedView s.consumerSchedule s

theorem drainRecycle_fixedView (s : System) :
    s.fixedView.drainRecycle = s.drainRecycle.fixedView :=
  congrArg Prod.fst s.drainRecycleOnce_fixedView

/-! ## Opening a window -/

/-- The same result, with the view of its state. -/
def viewAcquired (result : Option PoolIndex × System) : Option PoolIndex × System :=
  (result.1, result.2.fixedView)

private theorem acquire_fixedView (s : System) (cpiId : UInt16) :
    s.fixedView.acquire cpiId =
      (s.acquire cpiId).map fun acquired => (acquired.1, acquired.2.fixedView) := by
  simp only [acquire, show s.fixedView.ctxPool = s.ctxPool.untimed from rfl,
    show s.fixedView.openings = s.openings from rfl, CpiContextPool.acquire_untimed, Option.map_map]
  congr 1
  funext acquired
  simp [fixedView, SlotEvent.untimed]

private theorem acquireRetry_fixedView (attempts : Nat) (s : System) (cpiId : UInt16) :
    acquireRetry attempts s.fixedView cpiId = viewAcquired (acquireRetry attempts s cpiId) := by
  induction attempts generalizing s with
  | zero => rfl
  | succ attempts ih =>
      have drained : (if s.drainRecycleOnce.2 = true then s.drainRecycleOnce.1.fixedView
          else s.drainRecycleOnce.1.fixedView.interfere.drainRecycle) =
          (if s.drainRecycleOnce.2 = true then s.drainRecycleOnce.1
            else s.drainRecycleOnce.1.interfere.drainRecycle).fixedView := by
        rw [interfere_fixedView, drainRecycle_fixedView, ← apply_ite fixedView]
      simp only [acquireRetry, drainRecycleOnce_fixedView, fixedViews, drained, acquire_fixedView]
      generalize (if s.drainRecycleOnce.2 = true then s.drainRecycleOnce.1
        else s.drainRecycleOnce.1.interfere.drainRecycle) = next
      cases next.acquire cpiId with
      | none => exact ih next
      | some acquired => rfl

private theorem acquireCtx_fixedView (s : System) (cpiId : UInt16) :
    s.fixedView.acquireCtx cpiId = viewAcquired (s.acquireCtx cpiId) := by
  simp only [acquireCtx, acquire_fixedView]
  cases s.acquire cpiId with
  | none => exact acquireRetry_fixedView 3 s cpiId
  | some acquired => rfl

private theorem releaseActiveCtx_fixedView (s : System) :
    s.fixedView.releaseActiveCtx = s.releaseActiveCtx.fixedView := by
  simp only [releaseActiveCtx, show s.fixedView.activeCtxIndex = s.activeCtxIndex from rfl]
  cases s.activeCtxIndex with
  | none => rfl
  | some index =>
      simp only [release_fixedView]
      rfl

private theorem bindControlSnapshot_untimed (ctx : CpiContext) (control : ControlSnapshot) :
    bindControlSnapshot ctx.untimed control = (bindControlSnapshot ctx control).untimed :=
  ctx.bindControlSnapshot_relabel id control

/-- With fixed PRT counts the staged snapshot plays no part in opening a window. -/
theorem installActive_fixedView {spec : ProtocolSpec} (fixed : spec.dynamicPrtEnabled = false)
    (s : System) (cpiId : UInt16) (index : PoolIndex) :
    (s.fixedView.installActive spec cpiId index).fixedView =
      (s.installActive spec cpiId index).fixedView := by
  have selected (staged : ControlSnapshot) :
      selectOpenSnapshot cpiId spec staged = makeFixedSnapshot cpiId spec := if_pos fixed
  have stable := s.fixedView_fixedView
  have bound : bindControlSnapshot (s.fixedView.ctxPool.contexts index)
      (makeFixedSnapshot cpiId spec) = (bindControlSnapshot (s.ctxPool.contexts index)
        (makeFixedSnapshot cpiId spec)).untimed := bindControlSnapshot_untimed ..
  simp only [installActive, selected, bound]
  generalize bindControlSnapshot (s.ctxPool.contexts index) (makeFixedSnapshot cpiId spec) = ctx
  have opened (s : System) (ctx : CpiContext) (control : ControlSnapshot) (openings : Nat) :
      fixedView { s with
        ctxPool := s.ctxPool.set index ctx
        activeCtxIndex := some index
        currentControl := control
        openings
        windowLog := s.windowLog ++ [.opened ctx] } =
      { s.fixedView with
        ctxPool := s.fixedView.ctxPool.set index ctx.untimed
        activeCtxIndex := some index
        openings
        windowLog := s.fixedView.windowLog ++ [.opened ctx.untimed] } := by
    simp [fixedView, CpiContextPool.set_untimed, WindowEvent.untimed]
  rw [opened, opened, stable, CpiContext.untimed_untimed]
  rfl

private theorem openActive_fixedView {spec : ProtocolSpec} (fixed : spec.dynamicPrtEnabled = false)
    (s : System) (cpiId : UInt16) :
    fixedViews (s.fixedView.openActive spec cpiId) = fixedViews (s.openActive spec cpiId) := by
  simp only [openActive, releaseActiveCtx_fixedView, acquireCtx_fixedView]
  cases acquired : s.releaseActiveCtx.acquireCtx cpiId with
  | mk index next =>
      cases index with
      | none =>
          have failed : next.fixedView.failExhausted = next.failExhausted.fixedView := rfl
          simp only [viewAcquired, fixedViews, failed, fixedView_fixedView]
      | some index =>
          simp only [viewAcquired, fixedViews, installActive_fixedView fixed]

/-! ## Closing a window -/

private theorem offer_fixedView (s : System) (output : CpiOutput) (ctx : CpiContext)
    (index : PoolIndex) :
    s.fixedView.offer output.untimed ctx.untimed index = (s.offer output ctx index).fixedView := by
  have pushed : (s.fixedView.pipeline.bind fun pipeline => pipeline.pushOutput output.untimed) =
      (s.pipeline.bind fun pipeline => pipeline.pushOutput output).map OutputPipeline.untimed := by
    cases attached : s.pipeline with
    | none => simp [fixedView, attached]
    | some pipeline => simp [fixedView, attached, pipeline.pushOutput_untimed]
  simp only [offer, pushed]
  cases s.pipeline.bind fun pipeline => pipeline.pushOutput output with
  | none =>
      simp only [Option.map_none, release_fixedView]
      simp [fixedView, WindowEvent.untimed]
  | some pipeline => simp [fixedView, WindowEvent.untimed, SlotEvent.untimed]

private theorem deliver_fixedView (s : System) (output : CpiOutput) (ctx : CpiContext)
    (index : PoolIndex) :
    s.fixedView.deliver output.untimed ctx.untimed index = (s.deliver output ctx index).fixedView := by
  cases attached : s.pipeline with
  | none =>
      simp only [deliver, attached, show s.fixedView.pipeline = none by simp [fixedView, attached],
        release_fixedView]
      simp [fixedView, WindowEvent.untimed]
  | some pipeline =>
      have stays : s.fixedView.pipeline = some pipeline.untimed := by simp [fixedView, attached]
      have interfered : interfere { s.fixedView with nextOutputId := s.nextOutputId + 1 } = _ :=
        interfere_fixedView { s with nextOutputId := s.nextOutputId + 1 }
      rw [deliver_attached stays, deliver_attached attached, ← offer_fixedView, ← interfered]
      rfl

private theorem tryFinalize_untimed (ctx : CpiContext) (trigger now : Nat) :
    CpiFinalizer.tryFinalize ctx.untimed trigger 0 =
      (CpiFinalizer.tryFinalize ctx trigger now).map fun result =>
        (result.1.untimed, result.2.untimed) := by
  simp only [CpiFinalizer.tryFinalize,
    show ctx.untimed.header.state = ctx.header.state from rfl,
    show ctx.untimed.header.readyPrtCount = ctx.header.readyPrtCount from rfl]
  split
  · cases CpiFinalizer.decide? ctx.header.readyPrtCount trigger <;> rfl
  · rfl

private theorem finalizeContext_fixedView (s : System) (index : PoolIndex) (trigger : Nat) :
    s.fixedView.finalizeContext index trigger = (s.finalizeContext index trigger).fixedView := by
  simp only [finalizeContext,
    show s.fixedView.ctxPool.contexts index = (s.ctxPool.contexts index).untimed from rfl,
    show s.fixedView.clockNow = 0 from rfl,
    tryFinalize_untimed (s.ctxPool.contexts index) trigger s.clockNow]
  cases CpiFinalizer.tryFinalize (s.ctxPool.contexts index) trigger s.clockNow with
  | none =>
      simp only [Option.map_none, release_fixedView]
      simp [fixedView, WindowEvent.untimed]
  | some result =>
      simp only [Option.map_some]
      rw [← deliver_fixedView]
      congr 1
      simp only [fixedView, CpiContextPool.set_untimed, RecentClosedRing.pushClosed,
        RecentRing.push_map]
      rfl

private theorem finalizeActive_fixedView (s : System) (trigger : Nat) :
    s.fixedView.finalizeActive trigger = (s.finalizeActive trigger).fixedView := by
  simp only [finalizeActive, show s.fixedView.activeCtxIndex = s.activeCtxIndex from rfl]
  cases s.activeCtxIndex with
  | none => rfl
  | some index =>
      simp only [finalizeContext_fixedView]
      rfl

private theorem finalizePrevious_fixedView (s : System) (trigger : Nat) :
    s.fixedView.finalizePrevious trigger = (s.finalizePrevious trigger).fixedView := by
  simp only [finalizePrevious, show s.fixedView.previousCtxIndex = s.previousCtxIndex from rfl]
  cases s.previousCtxIndex with
  | none => rfl
  | some index =>
      simp only [finalizeContext_fixedView]
      rfl

private theorem setCtx_fixedView (s : System) (index : PoolIndex) (ctx : CpiContext) :
    s.fixedView.setCtx index ctx.untimed = (s.setCtx index ctx).fixedView := by
  simp only [setCtx, fixedView, CpiContextPool.set_untimed]

/-- Marking a window and finalizing it. -/
theorem markTrigger_fixedView (s : System) (index : PoolIndex) (trigger : Nat) :
    s.fixedView.setCtx index (markTrigger (s.fixedView.ctxPool.contexts index) trigger) =
      (s.setCtx index (markTrigger (s.ctxPool.contexts index) trigger)).fixedView :=
  setCtx_fixedView s index (markTrigger (s.ctxPool.contexts index) trigger)

private theorem checkPreviousTimeout_fixedView (s : System) (nowNs : Nat) :
    s.fixedView.checkPreviousTimeout nowNs = fixedViews (s.checkPreviousTimeout nowNs) := by
  simp only [checkPreviousTimeout,
    show s.fixedView.previousCtxIndex = s.previousCtxIndex from rfl]
  cases s.previousCtxIndex with
  | none => rfl
  | some index =>
      simp only [markTrigger_fixedView, finalizePrevious_fixedView,
        show timedOut (s.fixedView.ctxPool.contexts index) nowNs =
          timedOut (s.ctxPool.contexts index) nowNs from rfl]
      split <;> rfl

theorem checkTimeout_fixedView (s : System) (nowNs : Nat) :
    s.fixedView.checkTimeout nowNs = fixedViews (s.checkTimeout nowNs) := by
  simp only [checkTimeout, checkPreviousTimeout_fixedView, fixedViews]
  generalize s.checkPreviousTimeout nowNs = checked
  simp only [show checked.1.fixedView.activeCtxIndex = checked.1.activeCtxIndex from rfl]
  cases checked.1.activeCtxIndex with
  | none => rfl
  | some index =>
      simp only [markTrigger_fixedView, finalizeActive_fixedView,
        show timedOut (checked.1.fixedView.ctxPool.contexts index) nowNs =
          timedOut (checked.1.ctxPool.contexts index) nowNs from rfl]
      split <;> rfl

theorem finalizeActiveForShutdown_fixedView (s : System) :
    s.fixedView.finalizeActiveForShutdown = s.finalizeActiveForShutdown.fixedView := by
  simp only [finalizeActiveForShutdown, finalizePrevious_fixedView]
  generalize s.finalizePrevious triggerStop = next
  simp only [show next.fixedView.activeCtxIndex = next.activeCtxIndex from rfl]
  cases next.activeCtxIndex with
  | none => rfl
  | some index => simp only [markTrigger_fixedView, finalizeActive_fixedView]

/-! ## Data packets -/

private theorem storeProgress_fixedView (spec : ProtocolSpec) (s : System) (index : PoolIndex)
    (written : CpiContext) (parsed : ParsedPacketView) (packet : InterpretedPacketView) :
    s.fixedView.storeProgress spec index written.untimed parsed packet =
      (s.storeProgress spec index written parsed packet).fixedView := by
  have advanced : ProgressTracker.advance spec written.untimed packet.prt packet.channel
      (parsed.tail == spec.magicTail) = (ProgressTracker.advance spec written packet.prt
        packet.channel (parsed.tail == spec.magicTail)).untimed := written.advance_relabel id ..
  simp only [storeProgress, advanced, setCtx_fixedView]
  simp [fixedView, setCtx, WindowEvent.untimed]

private theorem write_fixedView (spec : ProtocolSpec) (s : System) (index : PoolIndex)
    (parsed : ParsedPacketView) :
    SlotWriter.write spec (s.fixedView.ctxPool.contexts index) parsed =
      ((SlotWriter.write spec (s.ctxPool.contexts index) parsed).1.untimed,
        (SlotWriter.write spec (s.ctxPool.contexts index) parsed).2) :=
  (s.ctxPool.contexts index).write_relabel id spec parsed

private theorem writeActive_fixedView (spec : ProtocolSpec) (s : System) (index : PoolIndex)
    (parsed : ParsedPacketView) (packet : InterpretedPacketView) :
    s.fixedView.writeActive spec index parsed packet =
      fixedViews (s.writeActive spec index parsed packet) := by
  simp only [writeActive, write_fixedView, storeProgress_fixedView]
  generalize SlotWriter.write spec (s.ctxPool.contexts index) parsed = result
  split
  · simp only [setCtx_fixedView]
    rfl
  split
  · rfl
  generalize s.storeProgress spec index result.1 parsed packet = next
  simp only [finalizeActive_fixedView,
    show (next.fixedView.ctxPool.contexts index).header.triggerBits =
      (next.ctxPool.contexts index).header.triggerBits from rfl]
  split <;> rfl

private theorem windowOf_fixedView (s : System) (window : Option PoolIndex) (cpiId : UInt16) :
    s.fixedView.windowOf window cpiId = s.windowOf window cpiId := rfl

private theorem writeLate_fixedView (spec : ProtocolSpec) (s : System) (parsed : ParsedPacketView)
    (packet : InterpretedPacketView) :
    s.fixedView.writeLate spec parsed packet =
      fixedViews (s.writeLate spec parsed packet) := by
  simp only [writeLate, windowOf_fixedView,
    show s.fixedView.previousCtxIndex = s.previousCtxIndex from rfl]
  cases s.windowOf s.previousCtxIndex parsed.cpi with
  | none => rfl
  | some index =>
      simp only [write_fixedView, storeProgress_fixedView, setCtx_fixedView]
      split <;> rfl

section Fixed

variable {spec : ProtocolSpec}

theorem fixedViews_of_eq {α : Type} {first second : System × α}
    (same : first = fixedViews second) : fixedViews first = fixedViews second := by
  rw [same, fixedViews, fixedViews, fixedView_fixedView]

/-- What follows an opening whose view is known. -/
theorem whenOpened_fixedView {first second : System × Bool}
    {next : System → PoolIndex → System × Bool}
    (opened : fixedViews first = fixedViews second)
    (same : ∀ s index, fixedViews (next s.fixedView index) = fixedViews (next s index)) :
    fixedViews (whenOpened first next) = fixedViews (whenOpened second next) := by
  obtain ⟨views, flags⟩ := Prod.mk.inj opened
  have index := congrArg System.activeCtxIndex views
  change first.1.activeCtxIndex = second.1.activeCtxIndex at index
  simp only [whenOpened, flags, index]
  split
  · rw [← same first.1, views, same second.1]
  · rw [fixedViews, fixedViews, views]

private theorem admitPacket_fixedView (fixed : spec.dynamicPrtEnabled = false) (s : System)
    (index : PoolIndex) (parsed : ParsedPacketView) (packet : InterpretedPacketView) :
    fixedViews (s.fixedView.admitPacket spec index parsed packet) =
      fixedViews (s.admitPacket spec index parsed packet) := by
  simp only [admitPacket,
    show CpiAdmission.judge parsed (s.fixedView.ctxPool.contexts index).header.cpiId
      s.fixedView.closedRing = CpiAdmission.judge parsed (s.ctxPool.contexts index).header.cpiId
        s.closedRing from rfl]
  cases CpiAdmission.judge parsed (s.ctxPool.contexts index).header.cpiId s.closedRing with
  | writeActive =>
      exact fixedViews_of_eq (s.writeActive_fixedView spec index parsed packet)
  | triggerCpiSwitch =>
      simp only [finalizePrevious_fixedView]
      exact whenOpened_fixedView
        (openActive_fixedView fixed (s.finalizePrevious triggerCpiSwitch).shiftActive packet.cpi)
        fun s index => fixedViews_of_eq (s.writeActive_fixedView spec index parsed packet)
  | lateToClosed | drop =>
      exact fixedViews_of_eq (s.writeLate_fixedView spec parsed packet)

theorem processDataPacket_fixedView (fixed : spec.dynamicPrtEnabled = false) (s : System)
    (parsed : ParsedPacketView) (packet : InterpretedPacketView) :
    fixedViews (s.fixedView.processDataPacket spec parsed packet) =
      fixedViews (s.processDataPacket spec parsed packet) := by
  simp only [processDataPacket, show s.fixedView.activeCtxIndex = s.activeCtxIndex from rfl,
    show s.fixedView.closedRing.contains parsed.cpi = s.closedRing.contains parsed.cpi from rfl]
  cases s.activeCtxIndex with
  | some index => exact admitPacket_fixedView fixed s index parsed packet
  | none =>
      dsimp only
      split
      · exact @fixedViews_of_eq _ _ (s.rejectLate, false) rfl
      · exact whenOpened_fixedView (openActive_fixedView fixed s packet.cpi) fun s index =>
          admitPacket_fixedView fixed s index parsed packet

end Fixed

end System

end RxTech
