import RxTech.Core.BurstIndependence
import RxTech.Core.DeliveryProperties

/-!
# Gaps in the output ids

The ids that the consumer does not see are those of the outputs that were dropped for
backpressure.
-/

set_option autoImplicit false

namespace RxTech

/-- The output that found no room in the ring. -/
def WindowEvent.droppedOutput : WindowEvent → Option CpiOutput
  | .produced output _ .dropped => some output
  | .produced _ _ .detached | .produced _ _ .pushed => none
  | .opened _ | .stored _ _ | .rebound _ | .discarded _ => none

/-- The outputs that were dropped for backpressure, in order. -/
def droppedOutputs (log : List WindowEvent) : List CpiOutput :=
  log.filterMap WindowEvent.droppedOutput

/-- Every output with an id was pushed or dropped. -/
theorem issuedOutputs_perm (log : List WindowEvent) :
    (issuedOutputs log).Perm (pushedOutputs log ++ droppedOutputs log) := by
  induction log with
  | nil => exact .nil
  | cons event log ih =>
      cases event with
      | opened | stored | rebound | discarded => exact ih
      | produced output ctx delivery =>
          cases delivery with
          | detached => exact ih
          | pushed => exact ih.cons output
          | dropped => exact (ih.cons output).trans List.perm_middle.symm

private theorem issuedOutputs_length (log : List WindowEvent)
    (undetached : deliveries .detached log = 0) :
    (issuedOutputs log).length = outputsMade log := by
  have dropped : (droppedOutputs log).length = deliveries .dropped log := by
    rw [droppedOutputs, List.length_filterMap_eq_countP, deliveries]
    refine List.countP_congr fun event _ => ?_
    cases event with
    | opened | stored | rebound | discarded => exact Iff.rfl
    | produced output ctx delivery => cases delivery <;> simp [WindowEvent.droppedOutput,
        WindowEvent.delivery]
  rw [(issuedOutputs_perm log).length_eq, List.length_append, outputsMade_eq, undetached, dropped,
    Nat.add_zero]

/-- What one function picks out is a sublist of what another picks out more of. -/
theorem filterMap_sublist_of_imp {α β : Type} {fewer more : α → Option β}
    (implies : ∀ value picked, fewer value = some picked → more value = some picked)
    (values : List α) : (values.filterMap fewer).Sublist (values.filterMap more) := by
  induction values with
  | nil => exact .slnil
  | cons value rest ih =>
      cases picks : fewer value with
      | none =>
          rw [List.filterMap_cons_none picks, List.filterMap_cons]
          cases more value with
          | none => exact ih
          | some other => exact ih.cons other
      | some picked =>
          rw [List.filterMap_cons_some picks, List.filterMap_cons_some (implies value picked picks)]
          exact ih.cons_cons picked

private theorem droppedOutput_issued (event : WindowEvent) (output : CpiOutput)
    (dropped : event.droppedOutput = some output) : event.issuedOutput = some output := by
  cases event with
  | opened | stored | rebound | discarded => cases dropped
  | produced other ctx delivery =>
      cases delivery with
      | pushed | detached => cases dropped
      | dropped => exact dropped

/-- Ids that were dropped come in order too. -/
theorem Windows.Numbered.dropped_sorted {w : Windows} (numbered : w.Numbered) :
    ((droppedOutputs w.log).map CpiOutput.outputId).Pairwise (· < ·) := by
  have sublist : (droppedOutputs w.log).Sublist (issuedOutputs w.log) :=
    filterMap_sublist_of_imp droppedOutput_issued w.log
  have sorted : ((issuedOutputs w.log).map CpiOutput.outputId).Pairwise (· < ·) := by
    rw [numbered.ids]
    exact List.pairwise_lt_range'
  exact sorted.sublist (sublist.map _)

theorem OwnerLoop.InOrder.run (spec : ProtocolSpec) {ops : List Op} {s : System}
    (inOrder : OwnerLoop.InOrder s) (valid : ∀ op ∈ ops, op.Valid) :
    OwnerLoop.InOrder (Machine.run (System.step spec) ops s) :=
  Machine.run_invariant (fun _ _ inOrder valid => OwnerLoop.InOrder.step spec valid inOrder) inOrder
    (Machine.along_of_labels valid)

theorem System.attached_inOrder (outputMinCapacity recycleMinCapacity : Nat)
    (consumerSchedule clock : List Nat) : OwnerLoop.InOrder
      (System.attached outputMinCapacity recycleMinCapacity consumerSchedule clock) :=
  ⟨System.attached_owned .., ⟨rfl, rfl⟩, System.attached_conveying ..⟩

/-- Once the consumer has exited, the ids of the outputs that it handled and of those that were
dropped for backpressure are, in some order, the numbers from one on, none missing and none
twice, and each of the two lists is increasing. A gap in the ids that the handler sees is as
wide as the number of outputs that were dropped there. -/
theorem handled_and_dropped_ids (spec : ProtocolSpec)
    (outputMinCapacity recycleMinCapacity : Nat) (consumerSchedule clock : List Nat)
    (ops : List Op) (valid : ∀ op ∈ ops, op.Valid) (idle steps : Nat) :
    let finalized := (Machine.run (System.step spec) ops (System.attached outputMinCapacity
      recycleMinCapacity consumerSchedule clock)).finalizeActiveForShutdown
    let s := System.consumerSteps steps (System.consumerSteps idle finalized).raiseStop
    s.consumerPhase = some .exited →
      (s.handled.map CpiOutput.outputId ++
          (droppedOutputs s.windowLog).map CpiOutput.outputId).Perm
        (List.range' 1 (outputsMade s.windowLog)) ∧
      (s.handled.map CpiOutput.outputId).Pairwise (· < ·) ∧
      ((droppedOutputs s.windowLog).map CpiOutput.outputId).Pairwise (· < ·) := by
  intro finalized s exited
  have inOrder : OwnerLoop.InOrder finalized :=
    (OwnerLoop.InOrder.run spec (System.attached_inOrder ..) valid).step spec Op.shutdown_valid
  have idleOwned : (System.consumerSteps idle finalized).Owned :=
    ((System.consumerSteps_settles idle inOrder.owned.linked).advances inOrder.owned).1.owned
  have idleConveying := inOrder.conveying.consumerSteps idle
  obtain ⟨running, isRunning⟩ := Option.isSome_iff_exists.mp idleConveying.attached
  have attached : (System.consumerSteps idle finalized).raiseStop.pipeline =
      some running.raiseStop := congrArg (Option.map OutputPipeline.raiseStop) isRunning
  have stopping := idleOwned.linked.raiseStop_stopping isRunning
  have conveying : s.Conveying := idleConveying.raiseStop.consumerSteps steps
  obtain ⟨last, isLast, stops, -⟩ := System.consumerSteps_exits steps attached stopping
  have phase : last.consumer.phase = .exited := by
    simpa [System.consumerPhase, s, isLast] using exited
  have handled : s.handled = pushedOutputs s.windowLog :=
    conveying.handled_of_exited isLast stops phase
  -- the consumer does not write to the log of the windows
  have log : s.windowLog = finalized.windowLog :=
    (System.windowLog_of_apart (System.consumerSteps_apart steps _)).trans
      (System.windowLog_of_apart (System.consumerSteps_apart idle finalized))
  have numbered := inOrder.numbered
  have ids : (issuedOutputs finalized.windowLog).map CpiOutput.outputId =
      List.range' 1 (outputsMade finalized.windowLog) := by
    rw [← issuedOutputs_length _ inOrder.conveying.undetached]
    exact numbered.ids
  refine ⟨?_, ?_, ?_⟩
  · rw [handled, log, ← ids, ← List.map_append]
    exact ((issuedOutputs_perm _).map _).symm
  · rw [handled]
    exact conveying.numbered
  · rw [log]
    exact numbered.dropped_sorted

/-- Two CPIs and a ring that holds one output. -/
def crowdedOps : List Op :=
  let spec := protocolSpecFromConfig pairConfig
  [.zeroData spec 1 1 0 1 0, .zeroData spec 1 1 0 2 0, .zeroData spec 2 1 0 1 0,
    .zeroData spec 2 1 0 2 0]

private theorem crowdedOps_valid : ∀ op ∈ crowdedOps, op.Valid := by
  simp [crowdedOps]

theorem handled_and_dropped_ids_crowded :
    let spec := protocolSpecFromConfig pairConfig
    let finalized := (Machine.run (System.step spec) crowdedOps (System.attached 1 1 []
      [])).finalizeActiveForShutdown
    let s := System.consumerSteps 7 (System.consumerSteps 0 finalized).raiseStop
    (s.handled.map CpiOutput.outputId = [1] ∧
        (droppedOutputs s.windowLog).map CpiOutput.outputId = [2]) ∧
      (s.handled.map CpiOutput.outputId ++
          (droppedOutputs s.windowLog).map CpiOutput.outputId).Perm
        (List.range' 1 (outputsMade s.windowLog)) ∧
      (s.handled.map CpiOutput.outputId).Pairwise (· < ·) ∧
      ((droppedOutputs s.windowLog).map CpiOutput.outputId).Pairwise (· < ·) :=
  ⟨by decide +kernel, handled_and_dropped_ids (protocolSpecFromConfig pairConfig) 1 1 [] []
    crowdedOps crowdedOps_valid 0 7 (by decide +kernel)⟩

end RxTech
