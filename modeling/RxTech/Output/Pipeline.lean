import RxTech.Library.BoundedQueue
import RxTech.Cpi.Adjudication
import Mathlib.Tactic.Ring

/-!
# The output pipeline

owner → output ring → consumer → recycle ring → owner. Each ring operation is
one step here, so a ring is the queue it implements; the loops that compute the
ring sizes are those of `spsc_ring.h`.
-/

set_option autoImplicit false

namespace RxTech

/-! ## Ring sizes -/

/-- The doubling loop of `normalize_spsc_usable_capacity`, for a `size_t` of 64
bits. -/
def growUsable (usable requested : Nat) : Nat :=
  if usable ≤ (2 ^ 64 - 1 - 1) / 2 ∧ 2 * usable + 1 ≤ requested then
    growUsable (2 * usable + 1) requested
  else usable
termination_by requested - usable

def normalizeSpscUsableCapacity (requested : Nat) : Nat :=
  if requested ≤ 1 then 1 else growUsable 1 requested

/-- The loop of the `SpscRing` constructor: double until the wanted number of
slots fits. -/
def growSlots (cap wanted : Nat) : Nat :=
  if 0 < cap ∧ cap < wanted then growSlots (2 * cap) wanted else cap
termination_by wanted - cap

abbrev SpscRing := BoundedQueue

/-- `SpscRing(min_capacity)`: one slot is sacrificed to tell full from empty. -/
def SpscRing.new {α : Type} (minCapacity : Nat) : SpscRing α :=
  BoundedQueue.empty (growSlots 2 (minCapacity + 1) - 1)

/-! ## The consumer -/

/-- Where `CpiConsumer::run` stands: in the loop until the stop flag is seen,
then in the final drain. -/
inductive ConsumerPhase where
  | poll
  | pop
  | handle (output : CpiOutput)
  | push (output : CpiOutput)
  | recheck (output : CpiOutput)
  | count
  | drainPop
  | drainHandle (output : CpiOutput)
  | drainPush (output : CpiOutput)
  | drainCount
  | exited
  deriving DecidableEq, Repr

/-- `handled` lists the calls of the output handler. -/
structure CpiConsumer where
  phase : ConsumerPhase := .poll
  processedCount : Nat := 0
  handled : List CpiOutput := []
  deriving DecidableEq, Repr

/-- The output in the consumer's hand: popped, its token not yet pushed. -/
def ConsumerPhase.hand : ConsumerPhase → Option CpiOutput
  | .handle output | .push output | .recheck output => some output
  | .drainHandle output | .drainPush output => some output
  | .poll | .pop | .count | .drainPop | .drainCount | .exited => none

/-- The phases of the loop before the stop flag is seen. -/
def ConsumerPhase.looping : ConsumerPhase → Bool
  | .poll | .pop | .handle _ | .push _ | .recheck _ | .count => true
  | .drainPop | .drainHandle _ | .drainPush _ | .drainCount | .exited => false

structure OutputPipeline where
  outputRing : SpscRing CpiOutput
  recycleRing : SpscRing ReleaseToken
  consumer : CpiConsumer := {}
  stopFlag : Bool := false

def CpiOutput.releaseToken (output : CpiOutput) : ReleaseToken :=
  { outputId := output.outputId, ctxPoolIndex := output.poolIndex }

/-- `output_ring_->push(output)`. -/
def OutputPipeline.pushOutput (pipeline : OutputPipeline) (output : CpiOutput) :
    Option OutputPipeline :=
  (pipeline.outputRing.push output).map fun outputRing => { pipeline with outputRing }

def OutputPipeline.goto (pipeline : OutputPipeline) (phase : ConsumerPhase) : OutputPipeline :=
  { pipeline with consumer := { pipeline.consumer with phase } }

def OutputPipeline.countProcessed (pipeline : OutputPipeline) : OutputPipeline :=
  { pipeline with
    consumer := { pipeline.consumer with
      processedCount := pipeline.consumer.processedCount + 1 } }

def OutputPipeline.callHandler (pipeline : OutputPipeline) (output : CpiOutput) : OutputPipeline :=
  { pipeline with
    consumer := { pipeline.consumer with
      handled := pipeline.consumer.handled ++ [output] } }

/-- One step of the consumer thread, with the token it pushed, if any. -/
def OutputPipeline.consumerStep (pipeline : OutputPipeline) :
    OutputPipeline × Option ReleaseToken :=
  match pipeline.consumer.phase with
  | .poll => (pipeline.goto (if pipeline.stopFlag then .drainPop else .pop), none)
  | .pop =>
      match pipeline.outputRing.pop with
      | none => (pipeline.goto .poll, none)
      | some (output, outputRing) => ({ pipeline with outputRing }.goto (.handle output), none)
  | .handle output => ((pipeline.callHandler output).goto (.push output), none)
  | .push output =>
      match pipeline.recycleRing.push output.releaseToken with
      | none => (pipeline.goto (.recheck output), none)
      | some recycleRing =>
          ({ pipeline with recycleRing }.goto .count, some output.releaseToken)
  -- with the stop flag up the token is given up
  | .recheck output => (pipeline.goto (if pipeline.stopFlag then .count else .push output), none)
  | .count => (pipeline.countProcessed.goto .poll, none)
  | .drainPop =>
      match pipeline.outputRing.pop with
      | none => (pipeline.goto .exited, none)
      | some (output, outputRing) => ({ pipeline with outputRing }.goto (.drainHandle output), none)
  | .drainHandle output => ((pipeline.callHandler output).goto (.drainPush output), none)
  | .drainPush output =>
      match pipeline.recycleRing.push output.releaseToken with
      | none => (pipeline.goto .drainCount, none)
      | some recycleRing =>
          ({ pipeline with recycleRing }.goto .drainCount, some output.releaseToken)
  | .drainCount => (pipeline.countProcessed.goto .drainPop, none)
  | .exited => (pipeline, none)

/-- Both rings fresh, the consumer at its loop head. -/
def OutputPipeline.fresh (outputMinCapacity recycleMinCapacity : Nat) : OutputPipeline where
  outputRing := SpscRing.new outputMinCapacity
  recycleRing := SpscRing.new recycleMinCapacity

/-- The rings that `OwnerLoop::run` makes. -/
def OutputPipeline.ofConfig (config : RxConfig) : OutputPipeline :=
  .fresh (normalizeSpscUsableCapacity (max 1 config.outputRingCapacity))
    (normalizeSpscUsableCapacity (max 1 config.recycleRingCapacity))

/-! ## What a ring holds -/

private theorem double_pred (exponent : Nat) :
    2 * (2 ^ exponent - 1) + 1 = 2 ^ (exponent + 1) - 1 := by
  have positive := Nat.two_pow_pos exponent
  rw [Nat.pow_succ]
  omega

private theorem growUsable_shape {usable requested : Nat} (fits : usable ≤ requested)
    {exponent : Nat}
    (shape : usable = 2 ^ exponent - 1) :
    ∃ final, exponent ≤ final ∧ growUsable usable requested = 2 ^ final - 1 ∧
      2 ^ final - 1 ≤ requested := by
  fun_induction growUsable usable requested generalizing exponent with
  | case1 usable grows ih =>
      obtain ⟨final, later, grown, bounded⟩ := ih grows.2 (by rw [shape, double_pred])
      exact ⟨final, Nat.le_of_succ_le later, grown, bounded⟩
  | case2 usable stops => exact ⟨exponent, Nat.le_refl _, shape, shape ▸ fits⟩

theorem le_growSlots (cap wanted : Nat) : cap ≤ growSlots cap wanted := by
  fun_induction growSlots cap wanted with
  | case1 cap grows ih => omega
  | case2 cap stops => exact Nat.le_refl cap

theorem growSlots_shape {cap wanted start final : Nat} (fits : cap ≤ wanted)
    (shape : cap = 2 ^ start) (power : wanted = 2 ^ final) : growSlots cap wanted = wanted := by
  fun_induction growSlots cap wanted generalizing start with
  | case1 cap grows ih =>
      have smaller : start < final := by
        apply (Nat.pow_lt_pow_iff_right (Nat.lt_succ_self 1)).mp
        rw [← shape, ← power]
        exact grows.2
      refine ih ?_ (by rw [shape, Nat.pow_succ, Nat.mul_comm])
      rw [shape, power, ← Nat.pow_succ']
      exact Nat.pow_le_pow_right (by decide) smaller
  | case2 cap stops =>
      have positive := Nat.two_pow_pos start
      omega

/-- A ring made for a configured capacity holds one less than a power of two,
and at most what was asked for. -/
theorem SpscRing.new_normalized_capacity {α : Type} {requested : Nat} (asked : 1 ≤ requested) :
    ∃ exponent, (SpscRing.new (normalizeSpscUsableCapacity requested) : SpscRing α).capacity =
      2 ^ exponent - 1 ∧ 2 ^ exponent - 1 ≤ requested := by
  have usable : ∃ exponent, 1 ≤ exponent ∧
      normalizeSpscUsableCapacity requested = 2 ^ exponent - 1 ∧ 2 ^ exponent - 1 ≤ requested := by
    unfold normalizeSpscUsableCapacity
    split
    · exact ⟨1, Nat.le_refl 1, rfl, asked⟩
    · exact growUsable_shape asked (rfl : 1 = 2 ^ 1 - 1)
  obtain ⟨exponent, positive, normalized, bounded⟩ := usable
  have slots : growSlots 2 (2 ^ exponent) = 2 ^ exponent :=
    growSlots_shape (Nat.le_self_pow (Nat.ne_of_gt positive) 2) (Nat.pow_one 2).symm rfl
  refine ⟨exponent, ?_, bounded⟩
  rw [SpscRing.new, BoundedQueue.empty_capacity, normalized,
    Nat.sub_add_cancel (Nat.two_pow_pos exponent), slots]

end RxTech
