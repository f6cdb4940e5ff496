import RxTech.Core.Delivery
import RxTech.Core.StepRefinement

/-!
# Shutting down the consumer

The owner finalizes its windows and then raises the stop flag. The consumer sees
it wherever it stands, drains the output ring and exits; by then it has handled
every output that was pushed, once and in order.
-/

set_option autoImplicit false

namespace RxTech

namespace OutputPipeline

/-- `consumer_stop.store(true)`. -/
def raiseStop (pipeline : OutputPipeline) : OutputPipeline := { pipeline with stopFlag := true }

/-- The stop flag is up, and the consumer has not left anything behind. -/
structure Stopping (pipeline : OutputPipeline) : Prop where
  stop : pipeline.stopFlag = true
  drained : pipeline.consumer.phase = .exited → pipeline.outputRing.items = []

theorem Stopping.of_running {pipeline : OutputPipeline} (stop : pipeline.stopFlag = true)
    (running : pipeline.consumer.phase ≠ .exited) : pipeline.Stopping :=
  ⟨stop, fun exited => absurd exited running⟩

private theorem consumerStep_stopping {pipeline : OutputPipeline} (stopping : pipeline.Stopping) :
    pipeline.consumerStep.1.Stopping := by
  obtain ⟨outputRing, recycleRing, ⟨phase, processed, handled⟩, stopFlag⟩ := pipeline
  obtain ⟨stop, drained⟩ := stopping
  cases phase with
  | exited => exact ⟨stop, drained⟩
  | poll | recheck output =>
      simp only at stop
      subst stop
      exact .of_running rfl (by rintro ⟨⟩)
  | handle output | drainHandle output | count | drainCount =>
      exact .of_running stop (by rintro ⟨⟩)
  | pop =>
      simp only [consumerStep]
      cases outputRing.pop <;> exact .of_running stop (by rintro ⟨⟩)
  | drainPop =>
      simp only [consumerStep]
      cases popped : outputRing.pop with
      | none => exact ⟨stop, fun _ => BoundedQueue.pop_eq_none_iff.mp popped⟩
      | some result => exact .of_running stop (by rintro ⟨⟩)
  | push output | drainPush output =>
      simp only [consumerStep]
      cases recycleRing.push output.releaseToken <;> exact .of_running stop (by rintro ⟨⟩)

/-- How many steps the consumer may still take once the stop flag is up. -/
def remaining (pipeline : OutputPipeline) : Nat :=
  let drain := 4 * pipeline.outputRing.items.length + 1
  match pipeline.consumer.phase with
  | .exited => 0
  | .drainPop => drain
  | .drainCount | .poll => drain + 1
  | .drainPush _ | .pop | .count => drain + 2
  | .drainHandle _ | .recheck _ => drain + 3
  | .push _ => drain + 4
  | .handle _ => drain + 5

private theorem consumerStep_remaining {pipeline : OutputPipeline} (stop : pipeline.stopFlag = true)
    (running : pipeline.consumer.phase ≠ .exited) :
    pipeline.consumerStep.1.remaining < pipeline.remaining := by
  obtain ⟨outputRing, recycleRing, ⟨phase, processed, handled⟩, stopFlag⟩ := pipeline
  simp only at stop running
  subst stop
  cases phase with
  | exited => exact absurd rfl running
  | poll | recheck output | handle output | drainHandle output | count | drainCount =>
      simp [consumerStep, remaining, goto, callHandler, countProcessed]
  | pop | drainPop =>
      simp only [consumerStep]
      cases popped : outputRing.pop with
      | none => simp [remaining, goto]
      | some result =>
          obtain ⟨output, rest⟩ := result
          obtain ⟨items, -⟩ := BoundedQueue.pop_eq_some popped
          simp only [remaining, goto, items, List.length_cons]
          omega
  | push output | drainPush output =>
      simp only [consumerStep]
      cases recycleRing.push output.releaseToken <;> simp [remaining, goto]

end OutputPipeline

namespace System

def raiseStop (s : System) : System := { s with pipeline := s.pipeline.map .raiseStop }

/-- The calls of the output handler. -/
def handled (s : System) : List CpiOutput :=
  s.pipeline.elim [] fun pipeline => pipeline.consumer.handled

def consumerPhase (s : System) : Option ConsumerPhase :=
  s.pipeline.map fun pipeline => pipeline.consumer.phase

/-- Once the stop flag is up the consumer exits after finitely many steps. -/
theorem consumerSteps_exits (count : Nat) {s : System} {pipeline : OutputPipeline}
    (attached : s.pipeline = some pipeline) (stopping : pipeline.Stopping) :
    ∃ last, (consumerSteps count s).pipeline = some last ∧ last.Stopping ∧
      (pipeline.remaining ≤ count → last.consumer.phase = .exited) := by
  induction count generalizing s pipeline with
  | zero =>
      refine ⟨pipeline, attached, stopping, fun none => ?_⟩
      by_contra running
      have := OutputPipeline.consumerStep_remaining stopping.stop running
      omega
  | succ count ih =>
      have stepped : s.consumerStep.pipeline = some pipeline.consumerStep.1 := by
        simp only [consumerStep, attached]
      obtain ⟨last, final, stops, exits⟩ :=
        ih stepped (OutputPipeline.consumerStep_stopping stopping)
      refine ⟨last, final, stops, fun enough => exits ?_⟩
      by_cases done : pipeline.consumer.phase = .exited
      · have stays : pipeline.consumerStep.1 = pipeline := by
          simp only [OutputPipeline.consumerStep, done]
        rw [stays]
        simp only [OutputPipeline.remaining, done]
        exact Nat.zero_le _
      · have := OutputPipeline.consumerStep_remaining stopping.stop done
        omega

theorem Conveying.raiseStop {s : System} (conveying : s.Conveying) : s.raiseStop.Conveying := by
  obtain ⟨pipeline, attached⟩ := Option.isSome_iff_exists.mp conveying.attached
  have before := conveying.conveyed
  rw [System.conveyed, attached] at before
  have raised : s.raiseStop = { s with pipeline := some pipeline.raiseStop } := by
    simp only [System.raiseStop, attached, Option.map_some]
  rw [raised]
  exact ⟨rfl, before, conveying.numbered, conveying.below, conveying.undetached⟩

/-- A consumer that exited has handled all that was conveyed. -/
theorem Conveying.handled_of_exited {s : System} (conveying : s.Conveying)
    {pipeline : OutputPipeline} (attached : s.pipeline = some pipeline)
    (stopping : pipeline.Stopping) (exited : pipeline.consumer.phase = .exited) :
    s.handled = pushedOutputs s.windowLog := by
  rw [← conveying.conveyed, handled, System.conveyed, attached, Option.elim_some, Option.elim_some,
    OutputPipeline.conveyed, exited, stopping.drained exited]
  simp [ConsumerPhase.unhandled]

/-- The owner raises the flag while the consumer is still in its loop. -/
theorem Linked.raiseStop_stopping {s : System} (linked : s.Linked) {pipeline : OutputPipeline}
    (attached : s.pipeline = some pipeline) : pipeline.raiseStop.Stopping where
  stop := rfl
  drained exited := by
    have looping := (linked.running pipeline attached).looping
    have phase : pipeline.consumer.phase = .exited := exited
    rw [phase] at looping
    cases looping

end System

/-- After any operations the owner finalizes its windows and raises the stop
flag, with the consumer running anywhere in between. The consumer exits; when it
has, it handled exactly the outputs that were pushed, in the order of the pushes
and of their numbers, and every output that was made was handled or dropped. -/
theorem outputs_handled_once_in_order (spec : ProtocolSpec)
    (outputMinCapacity recycleMinCapacity : Nat) (consumerSchedule clock : List Nat)
    (ops : List Op) (idle : Nat) :
    let finalized := (Machine.run (System.step spec) ops (System.attached outputMinCapacity
      recycleMinCapacity consumerSchedule clock)).finalizeActiveForShutdown
    let stopped := (System.consumerSteps idle finalized).raiseStop
    (∀ steps, let s := System.consumerSteps steps stopped
      s.consumerPhase = some .exited →
        s.handled = pushedOutputs s.windowLog ∧
          (s.handled.map CpiOutput.outputId).Pairwise (· < ·) ∧
          outputsMade s.windowLog = s.handled.length + s.metrics.outputBackpressureCount) ∧
      ∃ enough, ∀ steps, enough ≤ steps →
        (System.consumerSteps steps stopped).consumerPhase = some .exited := by
  intro finalized stopped
  let start := System.attached outputMinCapacity recycleMinCapacity consumerSchedule clock
  have finalizedConveying : finalized.Conveying :=
    ((System.attached_conveying ..).run spec ops).finalizeActiveForShutdown
  have finalizedOwned : finalized.Owned := by
    have owned : (Machine.run (System.step spec) (ops ++ [.shutdown]) start).Owned :=
      System.run_owned spec _ (System.attached_owned ..)
    rwa [Machine.run_append] at owned
  have idleConveying := finalizedConveying.consumerSteps idle
  have idleOwned : (System.consumerSteps idle finalized).Owned :=
    ((System.consumerSteps_settles idle finalizedOwned.linked).advances finalizedOwned).1.owned
  have conveying : stopped.Conveying := idleConveying.raiseStop
  obtain ⟨running, isRunning⟩ := Option.isSome_iff_exists.mp idleConveying.attached
  have attached : stopped.pipeline = some running.raiseStop :=
    congrArg (Option.map OutputPipeline.raiseStop) isRunning
  have stopping := idleOwned.linked.raiseStop_stopping isRunning
  constructor
  · intro steps s exited
    have final : s.Conveying := conveying.consumerSteps steps
    obtain ⟨last, isLast, stops, -⟩ := System.consumerSteps_exits steps attached stopping
    have phase : last.consumer.phase = .exited := by
      simpa [System.consumerPhase, s, isLast] using exited
    have handled := final.handled_of_exited isLast stops phase
    have apart : s.apart = (System.consumerSteps idle finalized).apart :=
      System.consumerSteps_apart steps stopped
    have dropped : s.metrics.outputBackpressureCount = deliveries .dropped s.windowLog := by
      have metrics : s.metrics = (System.consumerSteps idle finalized).metrics :=
        congrArg (fun s => s.metrics) apart
      rw [metrics, System.windowLog_of_apart apart]
      exact idleOwned.dropped
    refine ⟨handled, handled ▸ final.numbered, ?_⟩
    rw [outputsMade_eq, final.undetached, handled, dropped, Nat.add_zero]
  · refine ⟨running.raiseStop.remaining, fun steps enough => ?_⟩
    obtain ⟨last, isLast, -, exits⟩ := System.consumerSteps_exits steps attached stopping
    simp [System.consumerPhase, isLast, exits enough]

end RxTech
