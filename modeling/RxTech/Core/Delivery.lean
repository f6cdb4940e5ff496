import RxTech.Core.WindowRefinement

/-!
# Delivery of outputs

Whatever the coordinator and the consumer do, the outputs that were handled, the
one before the handler and those in the ring are the outputs that were pushed,
in the order of the pushes.
-/

set_option autoImplicit false

namespace RxTech

/-- The output of a push that succeeded. -/
def WindowEvent.pushedOutput : WindowEvent → Option CpiOutput
  | .produced output _ .pushed => some output
  | .produced _ _ .detached | .produced _ _ .dropped => none
  | .opened _ | .stored _ _ | .rebound _ | .discarded _ => none

/-- The outputs whose push succeeded, in the order of the pushes. -/
def pushedOutputs (log : List WindowEvent) : List CpiOutput :=
  log.filterMap WindowEvent.pushedOutput

/-- A pushed output with the context as it was then. -/
def WindowEvent.pushedWith : WindowEvent → Option (CpiOutput × CpiContext)
  | .produced output ctx .pushed => some (output, ctx)
  | .produced _ _ .detached | .produced _ _ .dropped | .opened _ | .stored _ _ | .rebound _
  | .discarded _ => none

def pushedWith (log : List WindowEvent) : List (CpiOutput × CpiContext) :=
  log.filterMap WindowEvent.pushedWith

private theorem pushedOutputs_append (first second : List WindowEvent) :
    pushedOutputs (first ++ second) = pushedOutputs first ++ pushedOutputs second :=
  List.filterMap_append

/-- The outputs that `try_finalize` made. -/
def outputsMade (log : List WindowEvent) : Nat := log.countP fun event => event.delivery.isSome

theorem outputsMade_eq (log : List WindowEvent) :
    outputsMade log = (pushedOutputs log).length + deliveries .dropped log +
      deliveries .detached log := by
  have kinds (event : WindowEvent) : (if event.delivery.isSome = true then 1 else 0) =
      (if event.pushedOutput.isSome = true then 1 else 0) +
        (if (event.delivery == some .dropped) = true then 1 else 0) +
        if (event.delivery == some .detached) = true then 1 else 0 := by
    cases event with
    | produced output ctx delivery => cases delivery <;> rfl
    | opened | stored | rebound | discarded => rfl
  rw [pushedOutputs, List.length_filterMap_eq_countP]
  induction log with
  | nil => rfl
  | cons event log ih =>
      simp only [outputsMade, deliveries, List.countP_cons, kinds event] at ih ⊢
      omega

/-- The output that was popped and not yet handled. -/
def ConsumerPhase.unhandled : ConsumerPhase → Option CpiOutput
  | .handle output | .drainHandle output => some output
  | .poll | .pop | .push _ | .recheck _ | .count => none
  | .drainPop | .drainPush _ | .drainCount | .exited => none

namespace OutputPipeline

/-- The outputs that came to the pipeline and were not lost, oldest first. -/
def conveyed (pipeline : OutputPipeline) : List CpiOutput :=
  pipeline.consumer.handled ++ pipeline.consumer.phase.unhandled.toList ++
    pipeline.outputRing.items

/-- No step of the consumer loses, repeats or reorders an output. -/
theorem consumerStep_conveyed (pipeline : OutputPipeline) :
    pipeline.consumerStep.1.conveyed = pipeline.conveyed := by
  obtain ⟨outputRing, recycleRing, ⟨phase, processed, handled⟩, stopFlag⟩ := pipeline
  cases phase with
  | poll | recheck output => cases stopFlag <;> rfl
  | handle output | drainHandle output =>
      simp [consumerStep, conveyed, callHandler, goto, ConsumerPhase.unhandled]
  | count | drainCount | exited => rfl
  | pop | drainPop =>
      simp only [consumerStep]
      cases popped : outputRing.pop with
      | none => rfl
      | some result =>
          obtain ⟨output, rest⟩ := result
          obtain ⟨items, -⟩ := BoundedQueue.pop_eq_some popped
          simp [conveyed, goto, ConsumerPhase.unhandled, items]
  | push output | drainPush output =>
      simp only [consumerStep]
      cases recycleRing.push output.releaseToken <;> rfl

private theorem pushOutput_conveyed {pipeline next : OutputPipeline} {output : CpiOutput}
    (pushed : pipeline.pushOutput output = some next) :
    next.conveyed = pipeline.conveyed ++ [output] := by
  obtain ⟨ring, room, rfl⟩ := Option.map_eq_some_iff.mp pushed
  simp [conveyed, (BoundedQueue.push_eq_some room).1]

end OutputPipeline

namespace System

def conveyed (s : System) : List CpiOutput := s.pipeline.elim [] OutputPipeline.conveyed

/-- What every primitive of the coordinator and every step of the consumer
preserves when rings are attached. -/
structure Conveying (s : System) : Prop where
  attached : s.pipeline.isSome = true
  conveyed : s.conveyed = pushedOutputs s.windowLog
  numbered : ((pushedOutputs s.windowLog).map CpiOutput.outputId).Pairwise (· < ·)
  below : ∀ output ∈ pushedOutputs s.windowLog, output.outputId < s.nextOutputId
  undetached : deliveries .detached s.windowLog = 0

variable {s : System}

theorem Conveying.recorded (conveying : s.Conveying) {next : System} (events : List WindowEvent)
    (pipeline : next.pipeline = s.pipeline) (log : next.windowLog = s.windowLog ++ events)
    (nextOutputId : s.nextOutputId ≤ next.nextOutputId) (unpushed : pushedOutputs events = [])
    (undetached : deliveries .detached events = 0) : next.Conveying := by
  have same : pushedOutputs next.windowLog = pushedOutputs s.windowLog := by
    rw [log, pushedOutputs_append, unpushed, List.append_nil]
  refine ⟨?_, ?_, ?_, ?_, ?_⟩
  · rw [pipeline]
    exact conveying.attached
  · rw [same, System.conveyed, pipeline]
    exact conveying.conveyed
  · rw [same]
    exact conveying.numbered
  · rw [same]
    exact fun output member => Nat.lt_of_lt_of_le (conveying.below output member) nextOutputId
  · rw [log, deliveries_append, undetached, Nat.add_zero]
    exact conveying.undetached

theorem Conveying.congr (conveying : s.Conveying) {next : System}
    (pipeline : next.pipeline = s.pipeline) (log : next.windowLog = s.windowLog)
    (nextOutputId : next.nextOutputId = s.nextOutputId) : next.Conveying :=
  conveying.recorded [] pipeline (by simp [log]) (Nat.le_of_eq nextOutputId.symm) rfl rfl

/-! ## The consumer and recycling -/

theorem Conveying.consumerStep (conveying : s.Conveying) : s.consumerStep.Conveying := by
  obtain ⟨pipeline, attached⟩ := Option.isSome_iff_exists.mp conveying.attached
  have before : pipeline.conveyed = pushedOutputs s.windowLog := by
    have conveyed := conveying.conveyed
    rwa [System.conveyed, attached] at conveyed
  have stepped : s.consumerStep = { s with
      pipeline := some pipeline.consumerStep.1
      slotLog := s.slotLog ++ (pipeline.consumerStep.2.map SlotEvent.returned).toList } := by
    simp only [System.consumerStep, attached]
  rw [stepped]
  exact ⟨rfl, pipeline.consumerStep_conveyed.trans before, conveying.numbered, conveying.below,
    conveying.undetached⟩

theorem Conveying.consumerSteps (count : Nat) (conveying : s.Conveying) :
    (consumerSteps count s).Conveying := by
  induction count generalizing s with
  | zero => exact conveying
  | succ count ih => exact ih conveying.consumerStep

theorem Conveying.schedule (conveying : s.Conveying) (schedule : List Nat) :
    Conveying { s with consumerSchedule := schedule } := conveying.congr rfl rfl rfl

theorem Conveying.interfere (conveying : s.Conveying) : s.interfere.Conveying := by
  unfold System.interfere
  cases s.consumerSchedule with
  | nil => exact conveying
  | cons count rest => exact (conveying.schedule rest).consumerSteps count

private theorem consumerStep_apart (s : System) : s.consumerStep.apart = s.apart := by
  unfold System.consumerStep
  cases s.pipeline <;> rfl

theorem consumerSteps_apart (count : Nat) (s : System) :
    (System.consumerSteps count s).apart = s.apart := by
  induction count generalizing s with
  | zero => rfl
  | succ count ih => exact (ih s.consumerStep).trans s.consumerStep_apart

private theorem interfere_apart (s : System) : s.interfere.apart = s.apart := by
  unfold System.interfere
  cases s.consumerSchedule with
  | nil => rfl
  | cons count rest => exact consumerSteps_apart count _

theorem Conveying.release (conveying : s.Conveying) (index : Option PoolIndex) :
    (s.release index).Conveying := conveying.congr rfl rfl rfl

theorem Conveying.popToken (conveying : s.Conveying) {rest : System} {token : ReleaseToken}
    (popped : s.popToken = some (token, rest)) : rest.Conveying := by
  obtain ⟨pipeline, attached⟩ := Option.isSome_iff_exists.mp conveying.attached
  have before := conveying.conveyed
  simp only [System.popToken, attached] at popped
  rw [System.conveyed, attached] at before
  cases front : pipeline.recycleRing.pop with
  | none => simp [front] at popped
  | some result =>
      simp only [front, Option.some.injEq, Prod.mk.injEq] at popped
      obtain ⟨-, rfl⟩ := popped
      exact ⟨rfl, before, conveying.numbered, conveying.below, conveying.undetached⟩

theorem Conveying.drainQuiet (count : Nat) (conveying : s.Conveying) :
    (drainQuiet count s).1.Conveying := by
  induction count generalizing s with
  | zero => exact conveying
  | succ count ih =>
      unfold System.drainQuiet
      cases popped : s.popToken with
      | none => exact conveying
      | some result => exact ih ((conveying.popToken popped).release _)

theorem Conveying.drainLoop (schedule : List Nat) (conveying : s.Conveying) :
    (drainLoop schedule s).1.Conveying := by
  induction schedule generalizing s with
  | nil => exact (conveying.schedule []).drainQuiet _
  | cons count rest ih =>
      have ran := (conveying.schedule rest).consumerSteps count
      simp only [System.drainLoop]
      cases popped : (System.consumerSteps count { s with consumerSchedule := rest }).popToken with
      | none => exact ran
      | some result => exact ih ((ran.popToken popped).release _)

theorem Conveying.drainRecycleOnce (conveying : s.Conveying) :
    s.drainRecycleOnce.1.Conveying := by
  unfold System.drainRecycleOnce
  cases s.pipeline with
  | none => exact conveying
  | some pipeline => exact conveying.drainLoop _

theorem Conveying.drainRecycle (conveying : s.Conveying) : s.drainRecycle.Conveying :=
  conveying.drainRecycleOnce

/-! ## Opening and closing windows -/

theorem Conveying.acquire (conveying : s.Conveying) {cpiId : UInt16} {index : PoolIndex}
    {next : System} (acquired : s.acquire cpiId = some (index, next)) : next.Conveying := by
  obtain ⟨⟨slot, ctxPool⟩, -, same⟩ := Option.map_eq_some_iff.mp acquired
  cases same
  exact conveying.congr rfl rfl rfl

theorem Conveying.acquireRetry (attempts : Nat) (cpiId : UInt16) (conveying : s.Conveying) :
    (acquireRetry attempts s cpiId).2.Conveying := by
  induction attempts generalizing s with
  | zero => exact conveying
  | succ attempts ih =>
      have drained := conveying.drainRecycleOnce
      have retried : (if s.drainRecycleOnce.2 then s.drainRecycleOnce.1
          else s.drainRecycleOnce.1.interfere.drainRecycle).Conveying := by
        split
        · exact drained
        · exact drained.interfere.drainRecycle
      simp only [System.acquireRetry]
      generalize (if s.drainRecycleOnce.2 = true then _ else _ : System) = again at retried ⊢
      cases acquired : again.acquire cpiId with
      | none => exact ih retried
      | some result => exact retried.acquire acquired

theorem Conveying.acquireCtx (conveying : s.Conveying) (cpiId : UInt16) :
    (s.acquireCtx cpiId).2.Conveying := by
  unfold System.acquireCtx
  cases acquired : s.acquire cpiId with
  | none => exact conveying.acquireRetry 3 cpiId
  | some result => exact conveying.acquire acquired

theorem Conveying.openActive (spec : ProtocolSpec) (conveying : s.Conveying) (cpiId : UInt16) :
    (s.openActive spec cpiId).1.Conveying := by
  have released : s.releaseActiveCtx.Conveying := by
    unfold releaseActiveCtx
    cases s.activeCtxIndex with
    | none => exact conveying
    | some index => exact conveying.congr rfl rfl rfl
  have acquired := released.acquireCtx cpiId
  simp only [System.openActive]
  generalize s.releaseActiveCtx.acquireCtx cpiId = result at acquired
  obtain ⟨index, next⟩ := result
  cases index with
  | none => exact acquired.congr rfl rfl rfl
  | some index => exact acquired.recorded [_] rfl rfl (Nat.le_refl _) rfl rfl

/-- A push adds its output at the end; its number is new. -/
theorem Conveying.offer (conveying : s.Conveying) {output : CpiOutput} (ctx : CpiContext)
    (index : PoolIndex) (fresh : ∀ other ∈ pushedOutputs s.windowLog,
      other.outputId < output.outputId) (counted : output.outputId < s.nextOutputId) :
    (s.offer output ctx index).Conveying := by
  obtain ⟨pipeline, attached⟩ := Option.isSome_iff_exists.mp conveying.attached
  have before := conveying.conveyed
  rw [System.conveyed, attached] at before
  simp only [System.offer, attached, Option.bind_some]
  cases pushed : pipeline.pushOutput output with
  | none => exact conveying.recorded [_] rfl rfl (Nat.le_refl _) rfl rfl
  | some next =>
      have log : pushedOutputs (s.windowLog ++ [.produced output ctx .pushed]) =
          pushedOutputs s.windowLog ++ [output] := pushedOutputs_append _ _
      refine ⟨rfl, ?_, ?_, ?_, ?_⟩
      · rw [log, ← before]
        exact OutputPipeline.pushOutput_conveyed pushed
      · rw [log, List.map_append, List.pairwise_append]
        refine ⟨conveying.numbered, List.pairwise_singleton _ _, ?_⟩
        intro first member second last
        obtain ⟨other, old, rfl⟩ := List.mem_map.mp member
        rw [List.mem_singleton.mp last]
        exact fresh other old
      · intro other member
        rw [log] at member
        rcases List.mem_append.mp member with old | new
        · exact conveying.below other old
        · rw [List.mem_singleton.mp new]
          exact counted
      · rw [deliveries_append]
        exact conveying.undetached

theorem Conveying.deliver (conveying : s.Conveying) (output : CpiOutput) (ctx : CpiContext)
    (index : PoolIndex) : (s.deliver output ctx index).Conveying := by
  obtain ⟨pipeline, attached⟩ := Option.isSome_iff_exists.mp conveying.attached
  rw [deliver_attached attached]
  have numbered : Conveying { s with nextOutputId := s.nextOutputId + 1 } :=
    conveying.recorded [] rfl (by simp) (Nat.le_succ _) rfl rfl
  have apart := interfere_apart { s with nextOutputId := s.nextOutputId + 1 }
  have log := windowLog_of_apart apart
  have nextOutputId : (System.interfere { s with nextOutputId := s.nextOutputId + 1 }).nextOutputId =
      s.nextOutputId + 1 := congrArg System.nextOutputId apart
  refine numbered.interfere.offer ctx index ?_ ?_
  · rw [log]
    exact conveying.below
  · rw [nextOutputId]
    exact Nat.lt_succ_self _

theorem Conveying.finalizeContext (conveying : s.Conveying) (index : PoolIndex) (trigger : Nat) :
    (s.finalizeContext index trigger).Conveying := by
  simp only [System.finalizeContext]
  cases CpiFinalizer.tryFinalize (s.ctxPool.contexts index) trigger s.clockNow with
  | none => exact conveying.recorded [_] rfl rfl (Nat.le_refl _) rfl rfl
  | some result =>
      obtain ⟨sealedCtx, output⟩ := result
      have closed : Conveying { s with
          ctxPool := s.ctxPool.set index sealedCtx
          clock := s.clock.tail
          closedRing := s.closedRing.pushClosed output.cpiId output.sealTsc output.decision } :=
        conveying.congr rfl rfl rfl
      exact closed.deliver output sealedCtx index

theorem Conveying.finalizeActive (conveying : s.Conveying) (trigger : Nat) :
    (s.finalizeActive trigger).Conveying := by
  unfold System.finalizeActive
  cases s.activeCtxIndex with
  | none => exact conveying
  | some index => exact (conveying.finalizeContext index trigger).congr rfl rfl rfl

theorem Conveying.finalizePrevious (conveying : s.Conveying) (trigger : Nat) :
    (s.finalizePrevious trigger).Conveying := by
  unfold System.finalizePrevious
  cases s.previousCtxIndex with
  | none => exact conveying
  | some index => exact (conveying.finalizeContext index trigger).congr rfl rfl rfl

/-! ## Operations -/

theorem Conveying.setCtx (conveying : s.Conveying) (index : PoolIndex) (ctx : CpiContext) :
    (s.setCtx index ctx).Conveying := conveying.congr rfl rfl rfl

theorem Conveying.rebind (conveying : s.Conveying) (index : PoolIndex)
    (candidate : ControlSnapshot) : (s.rebind index candidate).Conveying :=
  conveying.recorded [_] rfl rfl (Nat.le_refl _) rfl rfl

theorem Conveying.processControlPacket (spec : ProtocolSpec) (conveying : s.Conveying)
    (parsed : ParsedPacketView) : (s.processControlPacket spec parsed).Conveying := by
  simp only [System.processControlPacket]
  split
  · exact conveying
  split
  · exact (conveying.rebind _ _).congr rfl rfl rfl
  split
  · exact conveying.rebind _ _
  · exact conveying.congr rfl rfl rfl

theorem Conveying.checkTimeout (conveying : s.Conveying) (nowNs : Nat) :
    (s.checkTimeout nowNs).1.Conveying := by
  have first : (s.checkPreviousTimeout nowNs).1.Conveying := by
    unfold System.checkPreviousTimeout
    cases s.previousCtxIndex with
    | none => exact conveying
    | some index =>
        simp only
        split
        · exact (conveying.setCtx index _).finalizePrevious _
        · exact conveying
  simp only [System.checkTimeout]
  generalize s.checkPreviousTimeout nowNs = result at first
  obtain ⟨next, timedOut⟩ := result
  simp only
  cases next.activeCtxIndex with
  | none => exact first
  | some index =>
      simp only
      split
      · exact ((first.setCtx index _).finalizeActive _).congr rfl rfl rfl
      · exact first

theorem Conveying.writeActive (spec : ProtocolSpec) (conveying : s.Conveying) (index : PoolIndex)
    (parsed : ParsedPacketView) (packet : InterpretedPacketView) :
    (s.writeActive spec index parsed packet).1.Conveying := by
  simp only [System.writeActive]
  generalize SlotWriter.write spec (s.ctxPool.contexts index) parsed = result
  obtain ⟨written, result⟩ := result
  have stored : (s.storeProgress spec index written parsed packet).Conveying :=
    conveying.recorded [_] rfl rfl (Nat.le_refl _) rfl rfl
  simp only
  split
  · exact conveying.congr rfl rfl rfl
  split
  · exact conveying.congr rfl rfl rfl
  split
  · exact stored.finalizeActive _
  · exact stored

theorem Conveying.writeLate (spec : ProtocolSpec) (conveying : s.Conveying)
    (parsed : ParsedPacketView) (packet : InterpretedPacketView) :
    (s.writeLate spec parsed packet).1.Conveying := by
  simp only [System.writeLate]
  cases s.windowOf s.previousCtxIndex parsed.cpi with
  | none => exact conveying.congr rfl rfl rfl
  | some index =>
      generalize SlotWriter.write spec (s.ctxPool.contexts index) parsed = result
      obtain ⟨written, result⟩ := result
      simp only
      split
      · exact conveying.recorded [_] rfl rfl (Nat.le_refl _) rfl rfl
      · exact conveying.congr rfl rfl rfl

theorem Conveying.whenOpened {opening : System × Bool} (opened : opening.1.Conveying)
    {next : System → PoolIndex → System × Bool}
    (continues : ∀ s index, s.Conveying → (next s index).1.Conveying) :
    (whenOpened opening next).1.Conveying := by
  unfold System.whenOpened
  split
  · exact continues _ _ opened
  · exact opened

theorem Conveying.admitPacket (spec : ProtocolSpec) (conveying : s.Conveying) (index : PoolIndex)
    (parsed : ParsedPacketView) (packet : InterpretedPacketView) :
    (s.admitPacket spec index parsed packet).1.Conveying := by
  simp only [System.admitPacket]
  cases CpiAdmission.judge parsed (s.ctxPool.contexts index).header.cpiId s.closedRing with
  | writeActive => exact conveying.writeActive spec index parsed packet
  | triggerCpiSwitch =>
      have shifted : (s.finalizePrevious triggerCpiSwitch).shiftActive.Conveying :=
        (conveying.finalizePrevious _).congr rfl rfl rfl
      exact (shifted.openActive spec packet.cpi).whenOpened fun _ index opened =>
        opened.writeActive spec index parsed packet
  | lateToClosed | drop => exact conveying.writeLate spec parsed packet

theorem Conveying.processDataPacket (spec : ProtocolSpec) (conveying : s.Conveying)
    (parsed : ParsedPacketView) (packet : InterpretedPacketView) :
    (s.processDataPacket spec parsed packet).1.Conveying := by
  simp only [System.processDataPacket]
  cases s.activeCtxIndex with
  | some index => exact conveying.admitPacket spec index parsed packet
  | none =>
      simp only
      split
      · exact conveying.congr rfl rfl rfl
      · exact (conveying.openActive spec packet.cpi).whenOpened fun _ index opened =>
          opened.admitPacket spec index parsed packet

theorem Conveying.finalizeActiveForShutdown (conveying : s.Conveying) :
    s.finalizeActiveForShutdown.Conveying := by
  have first := conveying.finalizePrevious triggerStop
  simp only [System.finalizeActiveForShutdown]
  generalize s.finalizePrevious triggerStop = next at first
  cases next.activeCtxIndex with
  | none => exact first
  | some index => exact (first.setCtx index _).finalizeActive _

theorem Conveying.step (spec : ProtocolSpec) (op : Op) (conveying : s.Conveying) :
    (s.step spec op).Conveying := by
  cases op with
  | control parsed => exact conveying.processControlPacket spec parsed
  | data parsed packet => exact (conveying.processDataPacket spec parsed packet).congr rfl rfl rfl
  | timeout nowNs => exact conveying.checkTimeout nowNs
  | drainRecycle => exact conveying.drainRecycle
  | consumer => exact conveying.consumerStep
  | shutdown => exact conveying.finalizeActiveForShutdown

theorem attached_conveying (outputMinCapacity recycleMinCapacity : Nat)
    (consumerSchedule clock : List Nat) :
    (attached outputMinCapacity recycleMinCapacity consumerSchedule clock).Conveying :=
  ⟨rfl, rfl, List.Pairwise.nil, fun _ impossible => (nomatch impossible), rfl⟩

theorem Conveying.run (spec : ProtocolSpec) (ops : List Op) (conveying : s.Conveying) :
    (Machine.run (System.step spec) ops s).Conveying :=
  Machine.run_invariant_of_step (fun _ op conveying => conveying.step spec op) ops conveying

end System

end RxTech
