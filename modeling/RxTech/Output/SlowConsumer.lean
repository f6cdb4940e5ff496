import RxTech.Library.Machine
import RxTech.Output.Pipeline

/-!
# The slow consumer

`SlowConsumerHarness` takes the place of `CpiConsumer` in stress tests. It never
gives a token up: where the consumer looks at the stop flag again, the harness
spins until the recycle ring has room.
-/

set_option autoImplicit false

namespace RxTech

/-- The optional output handler is left out: what it is called with is `handled` of the harness. -/
structure SlowConsumerConfig where
  consumeDelayUs : Nat := 0
  deriving DecidableEq, Repr

structure SlowConsumerStats where
  processedCount : Nat := 0
  totalLatencyNs : Nat := 0
  peakBacklog : Nat := 0
  recycleSpinCount : Nat := 0
  deriving DecidableEq, Repr

/-- The latency of an output that leaves at `exitTsc`. The loop around
`compare_exchange_weak` leaves the maximum. -/
def SlowConsumerStats.recordLatency (stats : SlowConsumerStats) (config : SlowConsumerConfig)
    (firstRxTsc exitTsc : Nat) : SlowConsumerStats :=
  if firstRxTsc > 0 ∧ exitTsc > firstRxTsc then
    let latency := exitTsc - firstRxTsc
    let approxBacklog :=
      if config.consumeDelayUs > 0 ∧ stats.processedCount > 0 then
        latency / (config.consumeDelayUs * 1000 + 1)
      else 0
    { stats with
      totalLatencyNs := stats.totalLatencyNs + latency
      peakBacklog := max stats.peakBacklog approxBacklog }
  else stats

@[simp] theorem SlowConsumerStats.recordLatency_processedCount (stats : SlowConsumerStats)
    (config : SlowConsumerConfig) (firstRxTsc exitTsc : Nat) :
    (stats.recordLatency config firstRxTsc exitTsc).processedCount = stats.processedCount := by
  simp only [recordLatency]
  split <;> rfl

/-- Where `SlowConsumerHarness::run` stands. -/
inductive HarnessPhase where
  | poll
  | pop
  | slow (output : CpiOutput)
  | handle (output : CpiOutput)
  | push (output : CpiOutput)
  | count
  | drainPop
  | drainHandle (output : CpiOutput)
  | drainPush (output : CpiOutput)
  | drainCount
  | exited
  deriving DecidableEq, Repr

/-- `clock` lists what the steady clock answers, and `handled` the calls of the
output handler. -/
structure SlowConsumerHarness where
  config : SlowConsumerConfig := {}
  phase : HarnessPhase := .poll
  stats : SlowConsumerStats := {}
  clock : List Nat := []
  handled : List CpiOutput := []
  deriving DecidableEq, Repr

/-- The harness on its rings. `pushed` and `returned` are history: what the owner
pushed, and the tokens it took back. -/
structure HarnessPipeline where
  outputRing : SpscRing CpiOutput
  recycleRing : SpscRing ReleaseToken
  harness : SlowConsumerHarness := {}
  stopFlag : Bool := false
  pushed : List CpiOutput := []
  returned : List ReleaseToken := []

namespace HarnessPipeline

def goto (pipeline : HarnessPipeline) (phase : HarnessPhase) : HarnessPipeline :=
  { pipeline with harness := { pipeline.harness with phase } }

def mapStats (pipeline : HarnessPipeline) (change : SlowConsumerStats → SlowConsumerStats) :
    HarnessPipeline :=
  { pipeline with harness := { pipeline.harness with stats := change pipeline.harness.stats } }

def countProcessed (pipeline : HarnessPipeline) : HarnessPipeline :=
  pipeline.mapStats fun stats => { stats with processedCount := stats.processedCount + 1 }

def callHandler (pipeline : HarnessPipeline) (output : CpiOutput) : HarnessPipeline :=
  { pipeline with
    harness := { pipeline.harness with handled := pipeline.harness.handled ++ [output] } }

/-- After the delay the clock is read and the latency recorded. -/
def measure (pipeline : HarnessPipeline) (output : CpiOutput) : HarnessPipeline :=
  let exitTsc := pipeline.harness.clock.headD 0
  let measured := pipeline.mapStats fun stats =>
    stats.recordLatency pipeline.harness.config output.firstRxTsc exitTsc
  { measured with harness := { measured.harness with clock := measured.harness.clock.tail } }

/-- One step of the harness thread. -/
def harnessStep (pipeline : HarnessPipeline) : HarnessPipeline :=
  match pipeline.harness.phase with
  | .poll => pipeline.goto (if pipeline.stopFlag then .drainPop else .pop)
  | .pop =>
      match pipeline.outputRing.pop with
      | none => pipeline.goto .poll
      | some (output, outputRing) => { pipeline with outputRing }.goto (.slow output)
  | .slow output => (pipeline.measure output).goto (.handle output)
  | .handle output => (pipeline.callHandler output).goto (.push output)
  | .push output =>
      match pipeline.recycleRing.push output.releaseToken with
      | none =>
          pipeline.mapStats fun stats =>
            { stats with recycleSpinCount := stats.recycleSpinCount + 1 }
      | some recycleRing => { pipeline with recycleRing }.goto .count
  | .count => pipeline.countProcessed.goto .poll
  | .drainPop =>
      match pipeline.outputRing.pop with
      | none => pipeline.goto .exited
      | some (output, outputRing) => { pipeline with outputRing }.goto (.drainHandle output)
  | .drainHandle output => (pipeline.callHandler output).goto (.drainPush output)
  | .drainPush output =>
      match pipeline.recycleRing.push output.releaseToken with
      | none => pipeline
      | some recycleRing => { pipeline with recycleRing }.goto .drainCount
  | .drainCount => pipeline.countProcessed.goto .drainPop
  | .exited => pipeline

/-- The owner pushes an output, if there is room. -/
def offer (pipeline : HarnessPipeline) (output : CpiOutput) : HarnessPipeline :=
  match pipeline.outputRing.push output with
  | none => pipeline
  | some outputRing => { pipeline with outputRing, pushed := pipeline.pushed ++ [output] }

@[simp] theorem offer_stopFlag (pipeline : HarnessPipeline) (output : CpiOutput) :
    (pipeline.offer output).stopFlag = pipeline.stopFlag := by
  simp only [offer]
  cases pipeline.outputRing.push output <;> rfl

/-- The owner takes a token back, if there is one. -/
def recycle (pipeline : HarnessPipeline) : HarnessPipeline :=
  match pipeline.recycleRing.pop with
  | none => pipeline
  | some (token, recycleRing) =>
      { pipeline with recycleRing, returned := pipeline.returned ++ [token] }

def raiseStop (pipeline : HarnessPipeline) : HarnessPipeline := { pipeline with stopFlag := true }

/-- Both rings fresh, the harness at its loop head. -/
def fresh (outputMinCapacity recycleMinCapacity : Nat) (config : SlowConsumerConfig)
    (clock : List Nat) : HarnessPipeline where
  outputRing := SpscRing.new outputMinCapacity
  recycleRing := SpscRing.new recycleMinCapacity
  harness := { config, clock }

end HarnessPipeline

/-- A step of the harness thread or of its owner. -/
inductive HarnessOp where
  | harness
  | offer (output : CpiOutput)
  | recycle
  | stop

def HarnessPipeline.step (op : HarnessOp) (pipeline : HarnessPipeline) : HarnessPipeline :=
  match op with
  | .harness => pipeline.harnessStep
  | .offer output => pipeline.offer output
  | .recycle => pipeline.recycle
  | .stop => pipeline.raiseStop

/-- The owner pushes nothing once it has raised the stop flag. -/
def HarnessPipeline.Permits (pipeline : HarnessPipeline) : HarnessOp → Prop
  | .offer _ => pipeline.stopFlag = false
  | .harness | .recycle | .stop => True

instance HarnessPipeline.decidablePermits (pipeline : HarnessPipeline) :
    ∀ op : HarnessOp, Decidable (pipeline.Permits op)
  | .offer _ => inferInstanceAs (Decidable (_ = _))
  | .harness | .recycle | .stop => isTrue trivial

/-! ## Outputs and tokens -/

/-- The output that was popped and not yet handled. -/
def HarnessPhase.unhandled : HarnessPhase → Option CpiOutput
  | .slow output | .handle output | .drainHandle output => some output
  | .poll | .pop | .push _ | .count | .drainPop | .drainPush _ | .drainCount | .exited => none

/-- The output that was handled and whose token is not yet pushed. -/
def HarnessPhase.unreturned : HarnessPhase → Option CpiOutput
  | .push output | .drainPush output => some output
  | .poll | .pop | .slow _ | .handle _ | .count => none
  | .drainPop | .drainHandle _ | .drainCount | .exited => none

/-- The token was pushed, its output not yet counted. -/
def HarnessPhase.uncounted : HarnessPhase → Nat
  | .count | .drainCount => 1
  | .poll | .pop | .slow _ | .handle _ | .push _ => 0
  | .drainPop | .drainHandle _ | .drainPush _ | .exited => 0

/-- The phases after the stop flag was seen. -/
def HarnessPhase.draining : HarnessPhase → Bool
  | .drainPop | .drainHandle _ | .drainPush _ | .drainCount | .exited => true
  | .poll | .pop | .slow _ | .handle _ | .push _ | .count => false

namespace HarnessPipeline

/-- The outputs that came to the harness, oldest first. -/
def conveyed (pipeline : HarnessPipeline) : List CpiOutput :=
  pipeline.harness.handled ++ pipeline.harness.phase.unhandled.toList ++ pipeline.outputRing.items

/-- The tokens that came back or wait in the ring, oldest first. -/
def released (pipeline : HarnessPipeline) : List ReleaseToken :=
  pipeline.returned ++ pipeline.recycleRing.items

/-- Nothing is lost on either ring, and every token is counted. -/
structure Faithful (pipeline : HarnessPipeline) : Prop where
  conveyed : pipeline.conveyed = pipeline.pushed
  released : pipeline.harness.handled.map CpiOutput.releaseToken =
    pipeline.released ++
      (pipeline.harness.phase.unreturned.map CpiOutput.releaseToken).toList
  counted : pipeline.released.length =
    pipeline.harness.stats.processedCount + pipeline.harness.phase.uncounted

/-- The harness drains under the stop flag, and leaves an empty ring behind. -/
structure Drained (pipeline : HarnessPipeline) : Prop where
  stopped : pipeline.harness.phase.draining = true → pipeline.stopFlag = true
  drained : pipeline.harness.phase = .exited → pipeline.outputRing.items = []

private theorem fresh_faithful (outputMinCapacity recycleMinCapacity : Nat)
    (config : SlowConsumerConfig)
    (clock : List Nat) : (fresh outputMinCapacity recycleMinCapacity config clock).Faithful :=
  ⟨rfl, rfl, rfl⟩

private theorem fresh_drained (outputMinCapacity recycleMinCapacity : Nat)
    (config : SlowConsumerConfig)
    (clock : List Nat) : (fresh outputMinCapacity recycleMinCapacity config clock).Drained :=
  ⟨(fun draining => by cases draining), (fun exited => by cases exited)⟩

theorem Faithful.harnessStep {pipeline : HarnessPipeline} (faithful : pipeline.Faithful) :
    pipeline.harnessStep.Faithful := by
  obtain ⟨outputRing, recycleRing, ⟨config, phase, stats, clock, handled⟩, stopFlag, pushed,
    returned⟩ := pipeline
  obtain ⟨conveyed, released, counted⟩ := faithful
  cases phase with
  | poll => cases stopFlag <;> exact ⟨conveyed, released, counted⟩
  | exited => exact ⟨conveyed, released, counted⟩
  | slow output =>
      refine ⟨conveyed, released, counted.trans ?_⟩
      exact congrArg (· + 0) (stats.recordLatency_processedCount config _ _).symm
  | count | drainCount => exact ⟨conveyed, released, counted⟩
  | handle output | drainHandle output =>
      refine ⟨?_, ?_, counted⟩
      · apply Eq.trans _ conveyed
        simp [HarnessPipeline.harnessStep, HarnessPipeline.conveyed, callHandler, goto,
          HarnessPhase.unhandled]
      · have before : handled.map CpiOutput.releaseToken = returned ++ recycleRing.items :=
          released.trans (List.append_nil _)
        simp [HarnessPipeline.harnessStep, HarnessPipeline.released, callHandler, goto,
          HarnessPhase.unreturned, before]
  | pop | drainPop =>
      simp only [HarnessPipeline.harnessStep]
      cases popped : outputRing.pop with
      | none => exact ⟨conveyed, released, counted⟩
      | some result =>
          obtain ⟨output, rest⟩ := result
          obtain ⟨items, -⟩ := BoundedQueue.pop_eq_some popped
          refine ⟨?_, released, counted⟩
          apply Eq.trans _ conveyed
          simp [HarnessPipeline.conveyed, goto, HarnessPhase.unhandled, items]
  | push output | drainPush output =>
      simp only [HarnessPipeline.harnessStep]
      cases room : recycleRing.push output.releaseToken with
      | none => exact ⟨conveyed, released, counted⟩
      | some next =>
          obtain ⟨items, -⟩ := BoundedQueue.push_eq_some room
          have grown : returned ++ next.items =
              returned ++ recycleRing.items ++ [output.releaseToken] := by
            rw [items, List.append_assoc]
          refine ⟨conveyed, ?_, ?_⟩
          · apply released.trans
            exact grown.symm.trans (List.append_nil _).symm
          · have before : (returned ++ recycleRing.items).length = stats.processedCount := counted
            apply (congrArg List.length grown).trans
            rw [List.length_append, before]
            rfl

theorem Faithful.offer {pipeline : HarnessPipeline} (faithful : pipeline.Faithful)
    (output : CpiOutput) : (pipeline.offer output).Faithful := by
  simp only [HarnessPipeline.offer]
  cases room : pipeline.outputRing.push output with
  | none => exact faithful
  | some next =>
      obtain ⟨items, -⟩ := BoundedQueue.push_eq_some room
      refine ⟨?_, faithful.released, faithful.counted⟩
      have before := faithful.conveyed
      simp only [HarnessPipeline.conveyed, items] at before ⊢
      rw [← List.append_assoc, before]

theorem Faithful.recycle {pipeline : HarnessPipeline} (faithful : pipeline.Faithful) :
    pipeline.recycle.Faithful := by
  simp only [HarnessPipeline.recycle]
  cases popped : pipeline.recycleRing.pop with
  | none => exact faithful
  | some result =>
      obtain ⟨token, rest⟩ := result
      obtain ⟨items, -⟩ := BoundedQueue.pop_eq_some popped
      have same : (pipeline.returned ++ [token]) ++ rest.items = pipeline.released := by
        rw [HarnessPipeline.released, items, List.append_assoc, List.singleton_append]
      refine ⟨faithful.conveyed, ?_, ?_⟩
      · exact faithful.released.trans (congrArg (· ++ _) same.symm)
      · exact (congrArg List.length same).trans faithful.counted

/-- No step of either side needs a permission for this. -/
theorem Faithful.step {pipeline : HarnessPipeline} (faithful : pipeline.Faithful)
    (op : HarnessOp) : (pipeline.step op).Faithful := by
  cases op with
  | harness => exact faithful.harnessStep
  | offer output => exact faithful.offer output
  | recycle => exact faithful.recycle
  | stop => exact ⟨faithful.conveyed, faithful.released, faithful.counted⟩

theorem Drained.harnessStep {pipeline : HarnessPipeline} (drained : pipeline.Drained) :
    pipeline.harnessStep.Drained := by
  obtain ⟨outputRing, recycleRing, ⟨config, phase, stats, clock, handled⟩, stopFlag, pushed,
    returned⟩ := pipeline
  obtain ⟨stopped, empty⟩ := drained
  cases phase with
  | poll =>
      cases stopFlag with
      | false => exact ⟨stopped, fun exited => by cases exited⟩
      | true => exact ⟨fun _ => rfl, fun exited => by cases exited⟩
  | exited => exact ⟨stopped, empty⟩
  | slow output | handle output | count | drainHandle output | drainCount =>
      exact ⟨stopped, fun exited => by cases exited⟩
  | pop | drainPop =>
      simp only [HarnessPipeline.harnessStep]
      cases popped : outputRing.pop with
      | none => exact ⟨stopped, fun _ => BoundedQueue.pop_eq_none_iff.mp popped⟩
      | some result => exact ⟨stopped, fun exited => by cases exited⟩
  | push output | drainPush output =>
      simp only [HarnessPipeline.harnessStep]
      cases room : recycleRing.push output.releaseToken with
      | none => exact ⟨stopped, empty⟩
      | some next => exact ⟨stopped, fun exited => by cases exited⟩

theorem Drained.offer {pipeline : HarnessPipeline} (drained : pipeline.Drained)
    (running : pipeline.stopFlag = false) (output : CpiOutput) :
    (pipeline.offer output).Drained := by
  simp only [HarnessPipeline.offer]
  cases room : pipeline.outputRing.push output with
  | none => exact drained
  | some next =>
      refine ⟨drained.stopped, fun exited => ?_⟩
      have exits : pipeline.harness.phase = .exited := exited
      have stopped := drained.stopped (by rw [exits]; rfl)
      exact absurd (running.symm.trans stopped) Bool.false_ne_true

theorem Drained.step {pipeline : HarnessPipeline} {op : HarnessOp} (drained : pipeline.Drained)
    (permits : pipeline.Permits op) : (pipeline.step op).Drained := by
  cases op with
  | harness => exact drained.harnessStep
  | offer output => exact drained.offer permits output
  | recycle =>
      simp only [HarnessPipeline.step, HarnessPipeline.recycle]
      cases pipeline.recycleRing.pop with
      | none => exact drained
      | some result => exact ⟨drained.stopped, drained.drained⟩
  | stop => exact ⟨fun _ => rfl, drained.drained⟩

end HarnessPipeline

/-- However the harness and its owner interleave, the outputs are handled in the order of
the pushes and none is lost; their tokens go to the ring in the same order, and only that of
the output in the harness's hand can be missing. If the owner pushes nothing once the stop flag
is up, then every output was handled, every token pushed and every output counted by the time
the harness has left its loop. -/
theorem slow_consumer_returns_every_token (outputMinCapacity recycleMinCapacity : Nat)
    (config : SlowConsumerConfig) (clock : List Nat) (ops : List HarnessOp) :
    let start := HarnessPipeline.fresh outputMinCapacity recycleMinCapacity config clock
    let s := Machine.run HarnessPipeline.step ops start
    s.harness.handled <+: s.pushed ∧
      s.returned ++ s.recycleRing.items <+: s.harness.handled.map CpiOutput.releaseToken ∧
      s.harness.handled.length ≤ (s.returned ++ s.recycleRing.items).length + 1 ∧
      (Machine.Along HarnessPipeline.step HarnessPipeline.Permits ops start →
        s.harness.phase = .exited →
        s.harness.handled = s.pushed ∧
          s.returned ++ s.recycleRing.items = s.pushed.map CpiOutput.releaseToken ∧
          s.harness.stats.processedCount = s.pushed.length) := by
  intro start s
  have start_faithful : start.Faithful := HarnessPipeline.fresh_faithful ..
  have faithful : s.Faithful :=
    Machine.run_invariant_of_step (fun _ op faithful => faithful.step op) ops start_faithful
  refine ⟨⟨_, (List.append_assoc ..).symm.trans faithful.conveyed⟩,
    ⟨_, faithful.released.symm⟩, ?_, fun permitted exited => ?_⟩
  · have lengths := congrArg List.length faithful.released
    have inHand : (s.harness.phase.unreturned.map CpiOutput.releaseToken).toList.length ≤ 1 := by
      cases s.harness.phase.unreturned with
      | none => exact Nat.zero_le 1
      | some output => exact Nat.le_refl 1
    rw [List.length_map, List.length_append] at lengths
    have released : s.released.length = (s.returned ++ s.recycleRing.items).length := rfl
    omega
  · have drained : s.Drained := Machine.run_invariant
      (fun _ _ drained permits => HarnessPipeline.Drained.step drained permits)
      (HarnessPipeline.fresh_drained ..) permitted
    have handled : s.harness.handled = s.pushed := by
      rw [← faithful.conveyed, HarnessPipeline.conveyed, exited, drained.drained exited]
      simp [HarnessPhase.unhandled]
    have released := faithful.released
    rw [exited, handled] at released
    have all : s.returned ++ s.recycleRing.items = s.pushed.map CpiOutput.releaseToken :=
      (released.trans (List.append_nil _)).symm
    have counted := faithful.counted
    rw [exited] at counted
    refine ⟨handled, all, ?_⟩
    rw [← List.length_map CpiOutput.releaseToken, ← all]
    exact counted.symm

/-- Three outputs on a recycle ring for one token: the first is handled in the loop, the second
waits there for the owner to take a token back, and the third is drained and waits as well. -/
def threeOutputs : List HarnessOp :=
  let output := fun outputId => HarnessOp.offer { outputId, poolIndex := some outputId }
  [output 1, output 2, output 3] ++ List.replicate 11 .harness ++ [.recycle] ++
    List.replicate 2 .harness ++ [.stop] ++ List.replicate 5 .harness ++ [.recycle] ++
    List.replicate 3 .harness

theorem slow_consumer_returns_every_token_three :
    let s := Machine.run HarnessPipeline.step threeOutputs (.fresh 4 1 { consumeDelayUs := 1 } [])
    s.recycleRing.capacity = 1 ∧ s.harness.stats.recycleSpinCount = 1 ∧ s.pushed.length = 3 ∧
      s.harness.handled = s.pushed ∧
      s.returned ++ s.recycleRing.items = s.pushed.map CpiOutput.releaseToken ∧
      s.harness.stats.processedCount = s.pushed.length := by
  intro s
  exact ⟨by decide +kernel, by decide +kernel, by decide +kernel,
    (slow_consumer_returns_every_token 4 1 { consumeDelayUs := 1 } [] threeOutputs).2.2.2
      (by decide +kernel) (by decide +kernel)⟩

/-! ## Leaving the loop -/

/-- The output in hand whose token is not yet pushed. -/
def HarnessPhase.owed : HarnessPhase → Nat
  | .slow _ | .handle _ | .push _ | .drainHandle _ | .drainPush _ => 1
  | .poll | .pop | .count | .drainPop | .drainCount | .exited => 0

/-- The owner takes tokens back and leaves the output ring alone. -/
def HarnessOp.Withdraws : HarnessOp → Prop
  | .offer _ => False
  | .harness | .recycle | .stop => True

namespace HarnessPipeline

/-- The tokens that the harness has still to push. -/
def owed (pipeline : HarnessPipeline) : Nat :=
  pipeline.harness.phase.owed + pipeline.outputRing.items.length

/-- The tokens that are in the recycle ring or have to go there. -/
def load (pipeline : HarnessPipeline) : Nat := pipeline.owed + pipeline.recycleRing.items.length

private theorem harnessStep_load (pipeline : HarnessPipeline) :
    pipeline.harnessStep.load = pipeline.load ∧
      pipeline.harnessStep.recycleRing.capacity = pipeline.recycleRing.capacity ∧
      pipeline.harnessStep.returned = pipeline.returned ∧
      pipeline.harnessStep.stopFlag = pipeline.stopFlag := by
  obtain ⟨outputRing, recycleRing, ⟨config, phase, stats, clock, handled⟩, stopFlag, pushed,
    returned⟩ := pipeline
  cases phase with
  | poll => cases stopFlag <;> exact ⟨rfl, rfl, rfl, rfl⟩
  | slow output | handle output | drainHandle output | count | drainCount | exited =>
      exact ⟨rfl, rfl, rfl, rfl⟩
  | pop | drainPop =>
      simp only [harnessStep]
      cases popped : outputRing.pop with
      | none => exact ⟨rfl, rfl, rfl, rfl⟩
      | some result =>
          obtain ⟨output, rest⟩ := result
          obtain ⟨items, -⟩ := BoundedQueue.pop_eq_some popped
          refine ⟨?_, rfl, rfl, rfl⟩
          simp only [load, owed, goto, HarnessPhase.owed, items, List.length_cons]
          omega
  | push output | drainPush output =>
      simp only [harnessStep]
      cases room : recycleRing.push output.releaseToken with
      | none => exact ⟨rfl, rfl, rfl, rfl⟩
      | some next =>
          obtain ⟨items, capacity⟩ := BoundedQueue.push_eq_some room
          refine ⟨?_, capacity, rfl, rfl⟩
          simp only [load, owed, goto, HarnessPhase.owed, items, List.length_append,
            List.length_singleton]
          omega

/-- What no step without a push of the owner changes, once the stop flag is up. -/
structure Winding (start pipeline : HarnessPipeline) : Prop where
  stop : pipeline.stopFlag = true
  capacity : pipeline.recycleRing.capacity = start.recycleRing.capacity
  taken : start.returned.length ≤ pipeline.returned.length
  balance : pipeline.load + pipeline.returned.length = start.load + start.returned.length

theorem Winding.step {start pipeline : HarnessPipeline} {op : HarnessOp}
    (winding : Winding start pipeline) (withdraws : op.Withdraws) :
    Winding start (pipeline.step op) := by
  cases op with
  | harness =>
      obtain ⟨load, capacity, returned, stop⟩ := pipeline.harnessStep_load
      refine ⟨stop.trans winding.stop, capacity.trans winding.capacity, ?_, ?_⟩
      · exact winding.taken.trans_eq (congrArg List.length returned).symm
      · exact (congrArg₂ (· + List.length ·) load returned).trans winding.balance
  | offer output => exact withdraws.elim
  | stop => exact ⟨rfl, winding.capacity, winding.taken, winding.balance⟩
  | recycle =>
      simp only [HarnessPipeline.step, recycle]
      cases popped : pipeline.recycleRing.pop with
      | none => exact winding
      | some result =>
          obtain ⟨token, rest⟩ := result
          obtain ⟨items, capacity⟩ := BoundedQueue.pop_eq_some popped
          have taken := winding.taken
          have balance := winding.balance
          refine ⟨winding.stop, capacity.trans winding.capacity, ?_, ?_⟩
          · rw [List.length_append]
            exact Nat.le_add_right_of_le taken
          · simp only [load, owed, items, List.length_append, List.length_cons,
              List.length_nil] at balance ⊢
            omega

/-- How many steps the harness still takes when every push finds room. -/
def remaining (pipeline : HarnessPipeline) : Nat :=
  let drain := 4 * pipeline.outputRing.items.length + 1
  match pipeline.harness.phase with
  | .exited => 0
  | .drainPop => drain
  | .drainCount | .poll => drain + 1
  | .drainPush _ | .pop | .count => drain + 2
  | .drainHandle _ | .push _ => drain + 3
  | .handle _ => drain + 4
  | .slow _ => drain + 5

private theorem harnessStep_remaining {pipeline : HarnessPipeline} (stop : pipeline.stopFlag = true)
    (room : pipeline.load ≤ pipeline.recycleRing.capacity)
    (running : pipeline.harness.phase ≠ .exited) :
    pipeline.harnessStep.remaining < pipeline.remaining := by
  obtain ⟨outputRing, recycleRing, ⟨config, phase, stats, clock, handled⟩, stopFlag, pushed,
    returned⟩ := pipeline
  simp only at stop running
  subst stop
  cases phase with
  | exited => exact absurd rfl running
  | poll | slow output | handle output | drainHandle output | count | drainCount =>
      simp [harnessStep, remaining, goto, callHandler, measure, mapStats, countProcessed]
  | pop | drainPop =>
      simp only [harnessStep]
      cases popped : outputRing.pop with
      | none => simp [remaining, goto]
      | some result =>
          obtain ⟨output, rest⟩ := result
          obtain ⟨items, -⟩ := BoundedQueue.pop_eq_some popped
          simp only [remaining, goto, items, List.length_cons]
          omega
  | push output | drainPush output =>
      simp only [harnessStep]
      cases full : recycleRing.push output.releaseToken with
      | some next => simp [remaining, goto]
      | none =>
          -- a full ring would hold more tokens than it has room for
          have filled := BoundedQueue.push_eq_none_iff.mp full
          simp only [load, owed, HarnessPhase.owed, filled] at room
          omega

/-- While only the harness steps, what it has to push stays the same. -/
theorem harnessSteps_load (steps : Nat) (pipeline : HarnessPipeline) :
    let last := Machine.run step (List.replicate steps .harness) pipeline
    last.load = pipeline.load ∧ last.recycleRing.capacity = pipeline.recycleRing.capacity := by
  induction steps generalizing pipeline with
  | zero => exact ⟨rfl, rfl⟩
  | succ steps ih =>
      obtain ⟨load, capacity, -, -⟩ := pipeline.harnessStep_load
      obtain ⟨later, kept⟩ := ih pipeline.harnessStep
      exact ⟨later.trans load, kept.trans capacity⟩

private theorem exits_of_room {pipeline : HarnessPipeline} (stop : pipeline.stopFlag = true)
    (room : pipeline.load ≤ pipeline.recycleRing.capacity) :
    ∃ steps, (Machine.run step (List.replicate steps .harness) pipeline).harness.phase =
      .exited := by
  induction bound : pipeline.remaining using Nat.strongRecOn generalizing pipeline with
  | ind bound ih =>
      by_cases exited : pipeline.harness.phase = .exited
      · exact ⟨0, exited⟩
      · have fewer := harnessStep_remaining stop room exited
        obtain ⟨load, capacity, -, flag⟩ := pipeline.harnessStep_load
        have still : pipeline.harnessStep.load ≤ pipeline.harnessStep.recycleRing.capacity := by
          rw [load, capacity]
          exact room
        obtain ⟨steps, exits⟩ := ih _ (bound ▸ fewer) (flag.trans stop) still rfl
        exact ⟨steps + 1, exits⟩

theorem Drained.room_of_exited {pipeline : HarnessPipeline} (drained : pipeline.Drained)
    (exited : pipeline.harness.phase = .exited) :
    pipeline.load ≤ pipeline.recycleRing.capacity := by
  rw [load, owed, exited, drained.drained exited]
  simpa [HarnessPhase.owed] using pipeline.recycleRing.bounded

theorem Drained.withdraw {start pipeline : HarnessPipeline} (drained : pipeline.Drained)
    (winding : Winding start pipeline) {ops : List HarnessOp}
    (withdraws : ∀ op ∈ ops, op.Withdraws) :
    (Machine.run HarnessPipeline.step ops pipeline).Drained ∧
      Winding start (Machine.run HarnessPipeline.step ops pipeline) := by
  induction ops generalizing pipeline with
  | nil => exact ⟨drained, winding⟩
  | cons op rest ih =>
      obtain ⟨first, others⟩ := List.forall_mem_cons.mp withdraws
      have permits : pipeline.Permits op := by
        cases op with
        | offer output => exact first.elim
        | harness | recycle | stop => trivial
      exact ih (drained.step permits) (winding.step first) others

end HarnessPipeline

/-- After the stop flag is up and while the owner only takes tokens back, the harness can leave
its loop exactly from the moment on when the tokens taken back and the capacity of the recycle
ring make up for the tokens in the ring and those of the outputs that are left. An owner that
waits for the harness without taking tokens back may wait forever. -/
theorem slow_consumer_exits_iff_room (outputMinCapacity recycleMinCapacity : Nat)
    (config : SlowConsumerConfig) (clock : List Nat) (before after : List HarnessOp)
    (permitted : Machine.Along HarnessPipeline.step HarnessPipeline.Permits before
      (.fresh outputMinCapacity recycleMinCapacity config clock))
    (withdraws : ∀ op ∈ after, op.Withdraws) :
    let stopped := (Machine.run HarnessPipeline.step before
      (.fresh outputMinCapacity recycleMinCapacity config clock)).raiseStop
    let s := Machine.run HarnessPipeline.step after stopped
    (∃ steps, (Machine.run HarnessPipeline.step (List.replicate steps .harness) s).harness.phase =
        .exited) ↔
      stopped.owed + stopped.recycleRing.items.length ≤
        stopped.recycleRing.capacity + (s.returned.length - stopped.returned.length) := by
  intro stopped s
  have raised : stopped.Drained := by
    have drained := Machine.run_invariant
      (fun _ _ drained permits => HarnessPipeline.Drained.step drained permits)
      (HarnessPipeline.fresh_drained outputMinCapacity recycleMinCapacity config clock) permitted
    exact @HarnessPipeline.Drained.step _ .stop drained trivial
  obtain ⟨drained, winding⟩ : s.Drained ∧ HarnessPipeline.Winding stopped s :=
    raised.withdraw ⟨rfl, rfl, Nat.le_refl _, rfl⟩ withdraws
  have taken := winding.taken
  have balance : s.load + s.returned.length =
      stopped.owed + stopped.recycleRing.items.length + stopped.returned.length := winding.balance
  have capacity := winding.capacity
  constructor
  · rintro ⟨steps, exited⟩
    obtain ⟨load, sized⟩ := HarnessPipeline.harnessSteps_load steps s
    have last : (Machine.run HarnessPipeline.step (List.replicate steps .harness) s).Drained := by
      refine (drained.withdraw winding fun op member => ?_).1
      rw [List.eq_of_mem_replicate member]
      trivial
    have room := last.room_of_exited exited
    rw [load, sized, capacity] at room
    omega
  · intro room
    refine HarnessPipeline.exits_of_room winding.stop ?_
    rw [capacity]
    omega

/-- Two outputs and room for one token: the harness never leaves its loop. -/
theorem slow_consumer_exits_iff_room_stuck :
    let stopped := (Machine.run HarnessPipeline.step
      [HarnessOp.offer { outputId := 1 }, .offer { outputId := 2 }] (.fresh 3 1 {} [])).raiseStop
    ¬ ∃ steps, (Machine.run HarnessPipeline.step (List.replicate steps .harness)
      stopped).harness.phase = .exited := by
  intro stopped exits
  have room := (slow_consumer_exits_iff_room 3 1 {} [] [.offer { outputId := 1 },
    .offer { outputId := 2 }] [] ⟨rfl, HarnessPipeline.offer_stopFlag .., trivial⟩
    (fun _ none => by cases none)).mp exits
  revert room
  decide +kernel

end RxTech
