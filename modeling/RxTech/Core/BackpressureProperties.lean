import RxTech.Core.ConsumerIndependence

/-!
# A slow consumer

A coordinator whose output ring is small next to the context pool never runs out
of contexts, however slow the consumer is.
-/

set_option autoImplicit false

namespace RxTech

namespace System

/-- A ring asked for at most 14 places gets at most 7. -/
theorem ofConfig_outputCapacity {config : RxConfig} (asked : config.outputRingCapacity ≤ 14)
    (consumerSchedule clock : List Nat) :
    (System.ofConfig config consumerSchedule clock).outputCapacity ≤ 7 := by
  obtain ⟨exponent, capacity, bounded⟩ := @SpscRing.new_normalized_capacity CpiOutput _
    (Nat.le_max_left 1 config.outputRingCapacity)
  have shape : (System.ofConfig config consumerSchedule clock).outputCapacity = 2 ^ exponent - 1 :=
    capacity
  have small : 2 ^ exponent < 2 ^ 4 := by
    have atMost : 2 ^ exponent - 1 ≤ 14 := bounded.trans (Nat.max_le.mpr ⟨by decide, asked⟩)
    omega
  have exponents : exponent ≤ 3 :=
    Nat.le_of_lt_succ ((Nat.pow_lt_pow_iff_right (Nat.lt_succ_self 1)).mp small)
  have power : 2 ^ exponent ≤ 2 ^ 3 := Nat.pow_le_pow_right (by decide) exponents
  omega

end System

/-- With at most 14 places asked for in the output ring, no run fails for want of
a context, the drops are counted, and any other run that receives the same, on
rings of any such size and next to any other consumer, has the same windows up to
the slots, the seal times and what became of the outputs. -/
theorem slow_consumer_only_drops (config : RxConfig) (capacity : config.outputRingCapacity ≤ 14)
    (consumerSchedule clock : List Nat) (ops : List Op) :
    let spec := protocolSpecFromConfig config
    let s := Machine.run (System.step spec) ops (System.ofConfig config consumerSchedule clock)
    s.runError = "" ∧ s.metrics.poolExhaustionCount = 0 ∧
      s.metrics.outputBackpressureCount = deliveries .dropped s.windowLog ∧
      ∀ (outputRingCapacity recycleRingCapacity : Nat) (otherSchedule otherClock : List Nat)
        (others : List Op), outputRingCapacity ≤ 14 →
        others.filter Op.isInput = ops.filter Op.isInput →
        (Machine.run (System.step spec) others (System.ofConfig
          { config with outputRingCapacity, recycleRingCapacity } otherSchedule
          otherClock)).windows.anonymous = s.windows.anonymous := by
  intro spec s
  have few {config : RxConfig} (asked : config.outputRingCapacity ≤ 14) (schedule clock : List Nat) :
      (System.ofConfig config schedule clock).outputCapacity < 14 :=
    Nat.lt_of_le_of_lt (System.ofConfig_outputCapacity asked schedule clock) (by decide)
  obtain ⟨advances, windows⟩ := System.run_determined spec ops
    (System.ofConfig_owned config consumerSchedule clock) (few capacity consumerSchedule clock)
  refine ⟨advances.error, advances.exhaustion, advances.owned.dropped, ?_⟩
  intro outputRingCapacity recycleRingCapacity otherSchedule otherClock others asked same
  obtain ⟨-, otherWindows⟩ := System.run_determined spec others
    (System.ofConfig_owned { config with outputRingCapacity, recycleRingCapacity } otherSchedule
      otherClock) (few asked otherSchedule otherClock)
  rw [otherWindows, windows, ← Windows.determined_filter, same, Windows.determined_filter]
  rfl

/-- One packet makes a CPI. -/
def singleConfig : RxConfig := { pairConfig with protocolPacketsPerChannel := 1 }

/-- The packets of `count` CPIs of one packet each. -/
def singleOps (count : Nat) : List Op :=
  (List.range count).map fun cpi =>
    .zeroData (protocolSpecFromConfig singleConfig) (UInt16.ofNat cpi) 1 0 1 0

private theorem singleOps_valid (count : Nat) : ∀ op ∈ singleOps count, op.Valid := by
  intro op member
  obtain ⟨cpi, -, rfl⟩ := List.mem_map.mp member
  exact Op.zeroData_valid ..

/-- Next to a consumer that never runs, the default rings hold every context of
the pool, and the next CPI cannot be opened. -/
theorem slow_consumer_exhausts_pool :
    let s := Machine.run (System.step (protocolSpecFromConfig singleConfig)) (singleOps 17)
      (System.ofConfig singleConfig [] [])
    (∀ op ∈ singleOps 17, op.Valid) ∧ s.runError = System.poolExhaustedText ∧
      s.metrics.poolExhaustionCount = 1 ∧ s.metrics.outputBackpressureCount = 0 :=
  ⟨singleOps_valid 17, by decide +kernel, by decide +kernel, by decide +kernel⟩

/-- Next to the same consumer, a ring of 14 only drops. -/
theorem slow_consumer_only_drops_stalled :
    let spec := protocolSpecFromConfig singleConfig
    let s := Machine.run (System.step spec) (singleOps 17)
      (System.ofConfig { singleConfig with outputRingCapacity := 14 } [] [])
    s.runError = "" ∧ s.metrics.poolExhaustionCount = 0 ∧
      s.metrics.outputBackpressureCount = deliveries .dropped s.windowLog := by
  obtain ⟨noError, noFailure, counted, -⟩ := slow_consumer_only_drops
    { singleConfig with outputRingCapacity := 14 } (by decide) [] [] (singleOps 17)
  exact ⟨noError, noFailure, counted⟩

/-- With 15 places, one output in the consumer's hand is enough to fail. -/
example :
    (Machine.run (System.step (protocolSpecFromConfig singleConfig))
      (singleOps 1 ++ [.consumer, .consumer] ++ (singleOps 17).tail)
      (System.ofConfig { singleConfig with outputRingCapacity := 15 } [] [])).runError =
      System.poolExhaustedText := by
  decide +kernel

end RxTech
