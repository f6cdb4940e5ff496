import RxTech.Core.BackpressureProperties
import RxTech.Core.BurstIndependence

/-!
# Owner loops with small rings

With at most 14 places asked for in the output ring a run of the owner loop never fails for
want of a context, so its datagrams alone decide what it accepts, captures and puts out,
also when outputs are dropped.
-/

set_option autoImplicit false

namespace RxTech

/-- Few lent slots leave some for the next CPI. -/
theorem System.Advances.unfailing {s next : System} {failures : Nat}
    (advances : System.Advances s next failures) (small : s.outputCapacity < 14) :
    failures = 0 := by
  by_contra failed
  exact Nat.not_le.mpr small (advances.crowded failed)

namespace OwnerLoop

/-- A part of the loop in which no acquire can fail. -/
theorem Computes.unexhausted {loop next : OwnerLoop} {same : Prop}
    (computes : loop.Computes next same) (small : loop.system.outputCapacity < 14) :
    next.exhaustions = loop.exhaustions ∧ next.system.outputCapacity < 14 ∧
      next.system.runError = loop.system.runError := by
  obtain ⟨failures, advances, -⟩ := computes
  obtain rfl := advances.unfailing small
  exact ⟨advances.exhaustion, Nat.lt_of_le_of_lt (Nat.le_of_eq advances.capacity) small,
    advances.error⟩

private theorem mainLoop_unexhausted (pipeline : UdpDatagramPipeline) (received : List Received)
    {loop : OwnerLoop} (steady : loop.Steady) (clear : loop.system.runError = "")
    (small : loop.system.outputCapacity < 14) :
    (mainLoop pipeline received loop).exhaustions = loop.exhaustions ∧
      (mainLoop pipeline received loop).system.outputCapacity < 14 := by
  induction received generalizing loop with
  | nil => exact ⟨rfl, small⟩
  | cons first rest ih =>
      cases first with
      | failed => exact ⟨rfl, small⟩
      | burst datagrams nowNs =>
          have burst := processBurst_computes pipeline datagrams steady.2.1 clear
          have next := processBurst_kept (steady_kept pipeline.spec) datagrams steady
          have quiet : (loop.processBurst pipeline datagrams).checkTimeout nowNs =
              loop.processBurst pipeline datagrams := by
            simp only [checkTimeout, System.checkTimeout_unstamped next.2.2]
          obtain ⟨even, room, fine⟩ := burst.unexhausted small
          have passed : ¬ (loop.processBurst pipeline datagrams).system.runError ≠ "" :=
            not_not.mpr (fine.trans clear)
          simp only [mainLoop, if_neg passed, quiet]
          obtain ⟨drained, vacant, still⟩ := (Computes.drained burst.owned).unexhausted room
          obtain ⟨later, last⟩ := @ih (loop.processBurst pipeline datagrams).drainRecycle
            ((steady_kept pipeline.spec).step _ _ .drainRecycle next)
            (still.trans (fine.trans clear)) vacant
          exact ⟨later.trans (drained.trans even), last⟩

/-- A run with a small output ring never runs out of contexts. -/
theorem run_unexhausted {config : RxConfig} (asked : config.outputRingCapacity ≤ 14)
    (allowedSourceIpv4Be receiverIpv4Be : Nat) (consumerSchedule clock : List Nat)
    (received : List Received) :
    (run config allowedSourceIpv4Be receiverIpv4Be consumerSchedule clock
      received).exhaustions = 0 := by
  let pipeline := UdpDatagramPipeline.ofConfig config allowedSourceIpv4Be receiverIpv4Be
  have steady := start_steady config consumerSchedule clock
  have small : (start config consumerSchedule clock).system.outputCapacity < 14 :=
    Nat.lt_of_le_of_lt (System.ofConfig_outputCapacity asked consumerSchedule clock) (by decide)
  obtain ⟨even, room⟩ := mainLoop_unexhausted pipeline received steady rfl small
  have after := mainLoop_kept (steady_kept pipeline.spec) received steady
  obtain ⟨last, -, -⟩ := (shutdown_computes after.2.1).unexhausted room
  exact last.trans even

/-- What a run leaves and decides if no acquire failed in it. Outputs may be dropped. -/
theorem run_reaches {config : RxConfig} {allowedSourceIpv4Be receiverIpv4Be : Nat}
    {consumerSchedule clock : List Nat} {received : List Received}
    (unexhausted : (run config allowedSourceIpv4Be receiverIpv4Be consumerSchedule clock
      received).exhaustions = 0) :
    let pipeline := UdpDatagramPipeline.ofConfig config allowedSourceIpv4Be receiverIpv4Be
    let reached := LoopResults.onDatagrams pipeline (datagramsReceived received)
      ⟨({} : Windows).anonymous, {}⟩
    (run config allowedSourceIpv4Be receiverIpv4Be consumerSchedule clock received).results =
        ⟨(reached.1.windows.shutdown .canonical).anonymous, reached.1.artifacts⟩ ∧
      fates pipeline received (start config consumerSchedule clock) = reached.2 := by
  intro pipeline reached
  have steady := start_steady config consumerSchedule clock
  have main := mainLoop_determines pipeline received steady rfl
  have after := mainLoop_kept (steady_kept pipeline.spec) received steady
  have whole := main.then (shutdown_computes after.2.1).determines And.intro
  obtain ⟨before, last⟩ := whole.2 unexhausted
  obtain ⟨results, decided⟩ := Prod.mk.inj before
  rw [results] at last
  exact ⟨last, decided⟩

end OwnerLoop

/-- The ring sizes do not enter into what a datagram comes to. -/
theorem LoopResults.onDatagrams_rings (config : RxConfig)
    (allowedSourceIpv4Be receiverIpv4Be outputRingCapacity recycleRingCapacity : Nat)
    (datagrams : List UdpDatagramDesc) (results : LoopResults) :
    onDatagrams (.ofConfig { config with outputRingCapacity, recycleRingCapacity }
        allowedSourceIpv4Be receiverIpv4Be) datagrams results =
      onDatagrams (.ofConfig config allowedSourceIpv4Be receiverIpv4Be) datagrams results := by
  induction datagrams generalizing results with
  | nil => rfl
  | cons datagram rest ih =>
      have same : results.onDatagram (.ofConfig { config with
            outputRingCapacity, recycleRingCapacity } allowedSourceIpv4Be receiverIpv4Be)
          datagram =
        results.onDatagram (.ofConfig config allowedSourceIpv4Be receiverIpv4Be) datagram := rfl
      simp only [onDatagrams, same, ih]

/-- Two runs of the owner loop on the same datagrams, with output rings of at most 14 places
asked for, accept the same packets, capture the same ones and make the same outputs: neither
the bursts nor the consumer nor the sizes of the rings make a difference, and no acquire
fails. Only how many of the outputs are dropped may differ. -/
theorem small_rings_agree (config : RxConfig) (asked : config.outputRingCapacity ≤ 14)
    (outputRingCapacity recycleRingCapacity : Nat) (askedOther : outputRingCapacity ≤ 14)
    (allowedSourceIpv4Be receiverIpv4Be : Nat) (consumerSchedule clock : List Nat)
    (otherSchedule otherClock : List Nat) (received others : List Received)
    (same : datagramsReceived received = datagramsReceived others) :
    let otherConfig := { config with outputRingCapacity, recycleRingCapacity }
    let pipeline := UdpDatagramPipeline.ofConfig config allowedSourceIpv4Be receiverIpv4Be
    let otherPipeline :=
      UdpDatagramPipeline.ofConfig otherConfig allowedSourceIpv4Be receiverIpv4Be
    let first := OwnerLoop.run config allowedSourceIpv4Be receiverIpv4Be consumerSchedule clock
      received
    let second := OwnerLoop.run otherConfig allowedSourceIpv4Be receiverIpv4Be otherSchedule
      otherClock others
    first.system.metrics.poolExhaustionCount = 0 ∧
      OwnerLoop.fates pipeline received (.start config consumerSchedule clock) =
        OwnerLoop.fates otherPipeline others (.start otherConfig otherSchedule otherClock) ∧
      first.artifacts = second.artifacts ∧
      first.system.windows.anonymous = second.system.windows.anonymous := by
  intro otherConfig pipeline otherPipeline first second
  have unexhausted := OwnerLoop.run_unexhausted asked allowedSourceIpv4Be receiverIpv4Be
    consumerSchedule clock received
  obtain ⟨results, decided⟩ := OwnerLoop.run_reaches unexhausted
  obtain ⟨otherResults, otherDecided⟩ := OwnerLoop.run_reaches
    (@OwnerLoop.run_unexhausted otherConfig askedOther allowedSourceIpv4Be receiverIpv4Be
      otherSchedule otherClock others)
  rw [LoopResults.onDatagrams_rings, ← same] at otherResults otherDecided
  have agree : first.results = second.results := results.trans otherResults.symm
  exact ⟨unexhausted, decided.trans otherDecided.symm, congrArg LoopResults.artifacts agree,
    congrArg LoopResults.windows agree⟩

/-- Three CPIs without a consumer: with 14 places asked for none is dropped, with one place
two of them are. -/
theorem small_rings_agree_dropping :
    let config := { pairConfig with
      protocolUdpPacketSize := 1920, protocolPacketsPerChannel := 1, outputRingCapacity := 14 }
    let otherConfig := { config with outputRingCapacity := 1, recycleRingCapacity := 1 }
    let received := [Received.burst [.wholeCpi 1, .zeros, .wholeCpi 2, .wholeCpi 3] 0]
    let others := [Received.burst [.wholeCpi 1] 3, .burst [.zeros, .wholeCpi 2, .wholeCpi 3] 4]
    let first := OwnerLoop.run config 0 0 [] [] received
    let second := OwnerLoop.run otherConfig 0 0 [] [7] others
    (first.system.metrics.outputBackpressureCount = 0 ∧
        second.system.metrics.outputBackpressureCount = 2) ∧
      first.system.metrics.poolExhaustionCount = 0 ∧
      first.artifacts = second.artifacts ∧
      first.system.windows.anonymous = second.system.windows.anonymous := by
  intro config otherConfig received others first second
  refine ⟨by decide +kernel, ?_⟩
  obtain ⟨unexhausted, -, artifacts, windows⟩ := small_rings_agree config (by decide) 1 1
    (by decide) 0 0 [] [] [] [7] received others rfl
  dsimp only [first, second]
  exact ⟨unexhausted, artifacts, windows⟩

end RxTech
