import RxTech.Core.StepRefinement

/-!
# Ownership of the pool slots

Every slot is in one place after any run, and a slot that an output references
is left alone until the consumer has returned it.
-/

set_option autoImplicit false

namespace RxTech

namespace System

def activeCount (s : System) (index : PoolIndex) : Nat :=
  if s.activeCtxIndex = some index then 1 else 0

def previousCount (s : System) (index : PoolIndex) : Nat :=
  if s.previousCtxIndex = some index then 1 else 0

def outputRingCount (s : System) (index : PoolIndex) : Nat :=
  (s.pipeline.elim [] fun pipeline => pipeline.outputRing.items).countP (CpiOutput.refersTo index)

def handCount (s : System) (index : PoolIndex) : Nat :=
  (s.pipeline.elim [] fun pipeline => pipeline.consumer.phase.hand.toList).countP
    (CpiOutput.refersTo index)

private theorem lentCount_eq (s : System) (index : PoolIndex) :
    s.lentCount index = s.outputRingCount index + s.handCount index := by
  cases attached : s.pipeline with
  | none => simp [lentCount, unreturned, outputRingCount, handCount, attached]
  | some pipeline =>
      simp [lentCount, unreturned, outputRingCount, handCount, attached, OutputPipeline.unreturned]

/-- How many of its six places a slot is in. -/
def places (s : System) (index : PoolIndex) : Nat :=
  s.freeCount index + s.activeCount index + s.previousCount index + s.outputRingCount index +
    s.handCount index + s.tokenCount index

theorem Owned.places_eq_one {s : System} (owned : s.Owned) (index : PoolIndex) :
    s.places index = 1 := by
  have placed := owned.placed index
  have lent := s.lentCount_eq index
  simp only [outside, windowCount, places, activeCount, previousCount] at placed ⊢
  omega

end System

/-- After any operations, interleaved with any steps of the consumer: every pool
slot is in exactly one place, what happened to it is a run of its life cycle, in
particular nothing happens to a pushed slot before it is returned, and every
output that is not yet returned still reads the context it was made from. -/
theorem pool_slot_ownership (spec : ProtocolSpec) (outputMinCapacity recycleMinCapacity : Nat)
    (consumerSchedule clock : List Nat) (ops : List Op) :
    let s := Machine.run (System.step spec) ops
      (System.attached outputMinCapacity recycleMinCapacity consumerSchedule clock)
    (∀ index, s.places index = 1) ∧
      (∀ index, (SlotPhase.after index s.slotLog).isSome = true) ∧
      (∀ index before output between event rest,
        s.slotLog = before ++ .pushed output :: (between ++ event :: rest) →
        output.poolIndex = some index → event.index = some index →
        (∀ other ∈ between, other.index ≠ some index) → ∃ token, event = .returned token) ∧
      ∀ output ∈ s.unreturned, ∃ index, output.poolIndex = some index ∧
        .produced output (s.ctxPool.contexts index) .pushed ∈ s.windowLog := by
  intro s
  have owned : s.Owned := System.run_owned spec ops
    (System.attached_owned outputMinCapacity recycleMinCapacity consumerSchedule clock)
  refine ⟨owned.places_eq_one, ?_, ?_, owned.linked.frozen⟩
  · intro index
    rw [owned.linked.history index]
    rfl
  · intro index before output between event rest log named next idle
    have reached := owned.linked.history index
    rw [log] at reached
    exact SlotPhase.returned_after_pushed reached named next idle

end RxTech
