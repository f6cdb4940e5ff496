import RxTech.Core.AccountingProperties
import RxTech.Core.OutputNumbers
import RxTech.Core.TimeoutProperties

/-!
# Bursts and the consumer's speed

A run of the owner loop that drops no output and never runs out of contexts is
determined by its datagrams: neither where the bursts end nor how far the consumer
runs makes a difference. Timeouts do not enter, since no window is ever stamped.
-/

set_option autoImplicit false

namespace RxTech

/-! ## What the datagrams determine -/

/-- What a datagram came to: what `process_datagram` counted, and whether the
coordinator accepted its packet, if it is a data packet. -/
structure DatagramFate where
  stats : PacketProcessStats
  accepted : Option Bool
  deriving DecidableEq, Repr

namespace OwnerLoop

/-- What `on_packet` finds about a packet. -/
def verdict (spec : ProtocolSpec) (loop : OwnerLoop) (processed : ProcessedPacket) : Option Bool :=
  match processed.interpreted.kind with
  | .dataPacket => some (loop.onDataPacket spec processed).2
  | .controlTable | .unknown => none

def fate (pipeline : UdpDatagramPipeline) (loop : OwnerLoop) (datagram : UdpDatagramDesc) :
    DatagramFate :=
  let system := loop.system.drainRecycle
  let (stats, metrics, processed) := pipeline.processDatagram datagram system.metrics
  let loop := { loop with system := { system with metrics } }
  { stats, accepted := processed.bind (loop.verdict pipeline.spec) }

/-- What the datagrams of a burst come to, as far as `datagramLoop` gets. -/
def burstFates (pipeline : UdpDatagramPipeline) :
    List UdpDatagramDesc → OwnerLoop → List DatagramFate
  | [], _ => []
  | datagram :: rest, loop =>
      let (next, stats) := loop.onDatagram pipeline datagram
      loop.fate pipeline datagram ::
        if next.system.runError ≠ "" then []
        else
          burstFates pipeline rest
            { next with filteredPackets := next.filteredPackets + stats.filteredPackets }

/-- What all datagrams come to, as far as `mainLoop` gets. -/
def fates (pipeline : UdpDatagramPipeline) : List Received → OwnerLoop → List DatagramFate
  | [], _ => []
  | .failed :: _, _ => []
  | .burst datagrams nowNs :: rest, loop =>
      let next := loop.processBurst pipeline datagrams
      burstFates pipeline datagrams loop ++
        if next.system.runError ≠ "" then []
        else fates pipeline rest (next.checkTimeout nowNs).drainRecycle

end OwnerLoop

/-- The datagrams that reach the loop. -/
def datagramsReceived : List Received → List UdpDatagramDesc
  | [] => []
  | .failed :: _ => []
  | .burst datagrams _ :: rest => datagrams ++ datagramsReceived rest

/-- What the datagrams so far have left, apart from what the consumer influences. -/
structure LoopResults where
  windows : Windows
  artifacts : CaptureArtifacts

def OwnerLoop.results (loop : OwnerLoop) : LoopResults :=
  ⟨loop.system.windows.anonymous, loop.artifacts⟩

/-- A data packet at the windows, with its verdict recorded. -/
def Windows.adjudicated (spec : ProtocolSpec) (w : Windows) (processed : ProcessedPacket) :
    Windows × Bool :=
  let (windows, accepted) := w.processData spec processed.parsed processed.interpreted .canonical
  ({ windows with verdicts := windows.verdicts ++ [accepted] }.anonymous, accepted)

namespace LoopResults

/-- `on_packet` on the results; the answer is that of the coordinator. -/
def onPacket (spec : ProtocolSpec) (results : LoopResults) (processed : ProcessedPacket) :
    LoopResults × Option Bool :=
  let captured := results.artifacts.capture processed
  match processed.interpreted.kind with
  | .controlTable =>
      (⟨(results.windows.processControl spec processed.parsed).anonymous, captured⟩, none)
  | .dataPacket =>
      let (windows, accepted) := results.windows.adjudicated spec processed
      (⟨windows, if accepted then captured else results.artifacts⟩, some accepted)
  | .unknown => ({ results with artifacts := captured }, none)

def onDatagram (pipeline : UdpDatagramPipeline) (results : LoopResults)
    (datagram : UdpDatagramDesc) : LoopResults × DatagramFate :=
  let (stats, _, processed) := pipeline.processDatagram datagram {}
  let (results, accepted) := processed.elim (results, none) (results.onPacket pipeline.spec)
  (results, { stats, accepted })

def onDatagrams (pipeline : UdpDatagramPipeline) :
    List UdpDatagramDesc → LoopResults → LoopResults × List DatagramFate
  | [], results => (results, [])
  | datagram :: rest, results =>
      let (results, fate) := results.onDatagram pipeline datagram
      let (results, fates) := onDatagrams pipeline rest results
      (results, fate :: fates)

private theorem onDatagrams_append (pipeline : UdpDatagramPipeline)
    (first second : List UdpDatagramDesc)
    (results : LoopResults) :
    onDatagrams pipeline (first ++ second) results =
      let (results, fates) := onDatagrams pipeline first results
      let (results, others) := onDatagrams pipeline second results
      (results, fates ++ others) := by
  induction first generalizing results with
  | nil => rfl
  | cons datagram rest ih => simp only [List.cons_append, onDatagrams, ih]

end LoopResults

/-- The metrics are only written to. -/
theorem UdpDatagramPipeline.processDatagram_metrics (pipeline : UdpDatagramPipeline)
    (datagram : UdpDatagramDesc) (metrics : MetricsCollector) :
    (pipeline.processDatagram datagram metrics).1 = (pipeline.processDatagram datagram {}).1 ∧
      (pipeline.processDatagram datagram metrics).2.2 =
        (pipeline.processDatagram datagram {}).2.2 := by
  simp only [processDatagram]
  split_ifs <;> exact ⟨rfl, rfl⟩

theorem UdpDatagramPipeline.processDatagram_exhaustion (pipeline : UdpDatagramPipeline)
    (datagram : UdpDatagramDesc) (metrics : MetricsCollector) :
    (pipeline.processDatagram datagram metrics).2.1.poolExhaustionCount =
      metrics.poolExhaustionCount := by
  have outcome := processDatagram_outcome pipeline datagram metrics
  generalize pipeline.processDatagram datagram metrics = result at outcome
  cases outcome with
  | malformed | filtered | rejected => rfl
  | handed stats processed =>
      simp only [MetricsCollector.onValidPacket]
      cases processed.interpreted.kind <;> rfl

/-! ## One datagram -/

/-- A part of the loop in which `failures` acquires fail, and after which `same`
holds if none did. -/
def OwnerLoop.Computes (loop next : OwnerLoop) (same : Prop) : Prop :=
  ∃ failures, System.Advances loop.system next.system failures ∧ (failures = 0 → same)

namespace OwnerLoop

/-- What one part computes and what the next computes from it. -/
theorem Computes.then {first second third : OwnerLoop} {same other both : Prop}
    (left : first.Computes second same) (right : second.Computes third other)
    (join : same → other → both) : first.Computes third both := by
  obtain ⟨earlier, advances, computed⟩ := left
  obtain ⟨later, advancing, computes⟩ := right
  refine ⟨earlier + later, advances.trans advancing, fun none => ?_⟩
  have sum := Nat.add_eq_zero_iff.mp none
  exact join (computed sum.1) (computes sum.2)

theorem Computes.keeps {α : Type} {first second third : OwnerLoop} {others : α}
    {outcome : LoopResults × α} (left : first.Computes second ((second.results, others) = outcome))
    (right : second.Computes third (third.results = second.results)) :
    first.Computes third ((third.results, others) = outcome) := by
  refine left.then right fun before after => ?_
  rw [after]
  exact before

/-- A change of metrics and status that leaves the counters of failures alone. -/
theorem Computes.still {loop next : OwnerLoop} (owned : loop.system.Owned)
    (still : System.Still loop.system next.system)
    (ctxPool : next.system.ctxPool = loop.system.ctxPool)
    (windows : next.system.windows = loop.system.windows)
    (artifacts : next.artifacts = loop.artifacts) :
    loop.Computes next (next.results = loop.results) := by
  have touches := still.touches owned ctxPool (congrArg Windows.log windows)
  refine ⟨0, touches.advances owned, fun _ => ?_⟩
  simp only [results, windows, artifacts]

theorem Computes.settles {loop : OwnerLoop} {next : System} (owned : loop.system.Owned)
    (settles : System.Settles loop.system next) :
    loop.Computes { loop with system := next }
      ({ loop with system := next }.results = loop.results) := by
  obtain ⟨advances, windows⟩ := settles.advances owned
  refine ⟨0, advances, fun _ => ?_⟩
  simp only [results, windows]

theorem Computes.owned {loop next : OwnerLoop} {same : Prop} (computes : loop.Computes next same) :
    next.system.Owned := by
  obtain ⟨failures, advances, -⟩ := computes
  exact advances.owned

private theorem onDataPacket_computes (spec : ProtocolSpec) {loop : OwnerLoop}
    (owned : loop.system.Owned) (processed : ProcessedPacket) :
    loop.Computes (loop.onDataPacket spec processed).1
      (((loop.onDataPacket spec processed).1.system.windows.anonymous,
          (loop.onDataPacket spec processed).2) =
        loop.system.windows.anonymous.adjudicated spec processed) := by
  obtain ⟨choices, failures, refines, answered⟩ :=
    System.processDataPacket_refines spec owned processed.parsed processed.interpreted
  have recorded := refines.recorded
  refine ⟨failures, recorded.toAdvances, fun none => ?_⟩
  have determined := loop.system.windows.processData_anonymous spec processed.parsed
    processed.interpreted (answered.acquired none)
    (show Choices.canonical.acquired.isSome = true ∧ _ from ⟨rfl, rfl⟩)
  obtain ⟨windows, verdict⟩ := Prod.mk.inj determined
  refine Prod.ext ?_ (refines.verdict.trans verdict)
  apply (congrArg Windows.anonymous recorded.windows).trans
  simp only [Windows.adjudicated]
  rw [← verdict]
  generalize (loop.system.windows.processData spec processed.parsed processed.interpreted
    choices).2 = accepted
  exact congrArg (fun w : Windows => { w with verdicts := w.verdicts ++ [accepted] }) windows

private theorem onPacket_computes (spec : ProtocolSpec) {loop : OwnerLoop}
    (owned : loop.system.Owned)
    (processed : ProcessedPacket) :
    loop.Computes (loop.onPacket spec processed)
      (((loop.onPacket spec processed).results, loop.verdict spec processed) =
        loop.results.onPacket spec processed) := by
  simp only [onPacket, verdict, LoopResults.onPacket]
  cases processed.interpreted.kind with
  | unknown => exact ⟨0, .refl owned, fun _ => rfl⟩
  | controlTable =>
      have refines := System.processControlPacket_refines spec owned processed.parsed
      refine ⟨0, refines.toAdvances, fun _ => ?_⟩
      have windows : (loop.system.processControlPacket spec processed.parsed).windows.anonymous =
          (loop.system.windows.anonymous.processControl spec processed.parsed).anonymous := by
        rw [refines.windows, Windows.processControl_anonymous]
      simp only [results, capture, windows]
  | dataPacket =>
      obtain ⟨failures, advances, determined⟩ := onDataPacket_computes spec owned processed
      have artifacts : (loop.onDataPacket spec processed).1.artifacts = loop.artifacts := rfl
      generalize loop.onDataPacket spec processed = result at advances determined artifacts ⊢
      obtain ⟨next, accepted⟩ := result
      refine ⟨failures, ?_, fun none => ?_⟩
      · cases accepted <;> exact advances
      · have same : loop.results.windows.adjudicated spec processed =
            (next.system.windows.anonymous, accepted) := (determined none).symm
        simp only [same, show loop.results.artifacts = next.artifacts from artifacts.symm]
        cases accepted <;> rfl

private theorem degradeRunStatus_computes {loop : OwnerLoop} (owned : loop.system.Owned) :
    loop.Computes { loop with system := loop.system.degradeRunStatus }
      ({ loop with system := loop.system.degradeRunStatus }.results = loop.results) := by
  have same (s : System) (runStatus : String) : System.Still s { s with runStatus } :=
    ⟨rfl, rfl, rfl, rfl, rfl, rfl, rfl⟩
  simp only [System.degradeRunStatus, System.applyOutputDegradation]
  split_ifs <;> exact .still owned (same _ _) rfl rfl rfl

theorem Computes.drained {loop : OwnerLoop} (owned : loop.system.Owned) :
    loop.Computes loop.drainRecycle (loop.drainRecycle.results = loop.results) :=
  .settles owned (System.drainRecycle_settles owned.linked)

private theorem drainRecycle_runError {loop : OwnerLoop} (owned : loop.system.Owned) :
    loop.drainRecycle.system.runError = loop.system.runError :=
  congrArg (·.runError) (System.drainRecycle_settles owned.linked).apart

private theorem onDatagram_computes (pipeline : UdpDatagramPipeline) {loop : OwnerLoop}
    (owned : loop.system.Owned) (datagram : UdpDatagramDesc) :
    loop.Computes (loop.onDatagram pipeline datagram).1
      (((loop.onDatagram pipeline datagram).1.results, loop.fate pipeline datagram) =
        loop.results.onDatagram pipeline datagram) := by
  have drained := Computes.drained owned
  have counts := @UdpDatagramPipeline.processDatagram_backpressure pipeline datagram
    loop.system.drainRecycle.metrics
  have exhausts := pipeline.processDatagram_exhaustion datagram loop.system.drainRecycle.metrics
  obtain ⟨stats, handed⟩ := pipeline.processDatagram_metrics datagram
    loop.system.drainRecycle.metrics
  simp only [onDatagram, fate, LoopResults.onDatagram]
  rw [← stats, ← handed]
  generalize pipeline.processDatagram datagram loop.system.drainRecycle.metrics = result
    at counts exhausts
  obtain ⟨stats, metrics, processed⟩ := result
  let counted : OwnerLoop := { loop with system := { loop.system.drainRecycle with metrics } }
  have counting : loop.Computes counted (counted.results = loop.results) :=
    drained.then (.still drained.owned ⟨rfl, rfl, rfl, rfl, counts, exhausts, rfl⟩ rfl rfl rfl)
      fun before after => after.trans before
  cases processed with
  | none => exact counting.then (degradeRunStatus_computes counting.owned) fun before after =>
      congrArg (·, _) (after.trans before)
  | some processed =>
      have packet := onPacket_computes pipeline.spec counting.owned processed
      have handled : loop.Computes (counted.onPacket pipeline.spec processed)
          (((counted.onPacket pipeline.spec processed).results,
              counted.verdict pipeline.spec processed) =
            loop.results.onPacket pipeline.spec processed) :=
        counting.then packet fun before after => before ▸ after
      refine handled.then (degradeRunStatus_computes packet.owned) fun before after => ?_
      refine Prod.ext (after.trans (congrArg Prod.fst before)) ?_
      exact congrArg (fun answer : LoopResults × Option Bool => DatagramFate.mk stats answer.2)
        before

/-! ## The main loop -/

/-- Without an error at first, an error means that an acquire failed. -/
theorem Computes.failed {loop next : OwnerLoop} {same : Prop} (computes : loop.Computes next same)
    (clear : loop.system.runError = "") (failed : next.system.runError ≠ "") (other : Prop) :
    loop.Computes next other := by
  obtain ⟨failures, advances, -⟩ := computes
  refine ⟨failures, advances, fun none => absurd ?_ failed⟩
  rw [advances.error, if_pos none, clear]

private theorem datagramLoop_computes (pipeline : UdpDatagramPipeline)
    (datagrams : List UdpDatagramDesc)
    {loop : OwnerLoop} (owned : loop.system.Owned) (clear : loop.system.runError = "")
    (total : PacketProcessStats) :
    loop.Computes (datagramLoop pipeline datagrams loop total).1
      (((datagramLoop pipeline datagrams loop total).1.results,
          burstFates pipeline datagrams loop) =
        loop.results.onDatagrams pipeline datagrams) := by
  induction datagrams generalizing loop total with
  | nil => exact ⟨0, .refl owned, fun _ => rfl⟩
  | cons datagram rest ih =>
      have first := onDatagram_computes pipeline owned datagram
      simp only [datagramLoop, burstFates, LoopResults.onDatagrams]
      split
      · rename_i failed
        exact first.failed clear failed _
      · rename_i passed
        have counted : loop.Computes { (loop.onDatagram pipeline datagram).1 with
              filteredPackets := (loop.onDatagram pipeline datagram).1.filteredPackets +
                (loop.onDatagram pipeline datagram).2.filteredPackets }
            (((loop.onDatagram pipeline datagram).1.results, loop.fate pipeline datagram) =
              loop.results.onDatagram pipeline datagram) := first
        have later := ih counted.owned (Classical.not_not.mp passed)
        refine counted.then (later _) fun before after => ?_
        rw [← before]
        exact congrArg (fun result : LoopResults × List DatagramFate =>
          (result.1, loop.fate pipeline datagram :: result.2)) after

theorem processBurst_computes (pipeline : UdpDatagramPipeline) (datagrams : List UdpDatagramDesc)
    {loop : OwnerLoop} (owned : loop.system.Owned) (clear : loop.system.runError = "") :
    loop.Computes (loop.processBurst pipeline datagrams)
      (((loop.processBurst pipeline datagrams).results, burstFates pipeline datagrams loop) =
        loop.results.onDatagrams pipeline datagrams) := by
  have received := datagramLoop_computes pipeline datagrams owned clear {}
  simp only [processBurst]
  split
  · exact received
  · exact received.keeps (.still received.owned ⟨rfl, rfl, rfl, rfl, rfl, rfl, rfl⟩ rfl rfl rfl)

def exhaustions (loop : OwnerLoop) : Nat := loop.system.metrics.poolExhaustionCount

/-- A part of the loop after which `same` holds if no acquire failed in it. -/
def Determines (loop next : OwnerLoop) (same : Prop) : Prop :=
  loop.exhaustions ≤ next.exhaustions ∧ (next.exhaustions = loop.exhaustions → same)

theorem Computes.determines {loop next : OwnerLoop} {same : Prop}
    (computes : loop.Computes next same) : loop.Determines next same := by
  obtain ⟨failures, advances, computed⟩ := computes
  have exhaustion : next.exhaustions = loop.exhaustions + failures := advances.exhaustion
  exact ⟨by omega, fun none => computed (by omega)⟩

theorem Determines.then {first second third : OwnerLoop} {same other both : Prop}
    (left : first.Determines second same) (right : second.Determines third other)
    (join : same → other → both) : first.Determines third both := by
  obtain ⟨grows, holds⟩ := left
  obtain ⟨growing, holding⟩ := right
  exact ⟨grows.trans growing, fun none => join (holds (by omega)) (holding (by omega))⟩

/-- Every slot is in one place, and the outputs went to the ring in the order of
their ids. -/
structure InOrder (s : System) : Prop where
  owned : s.Owned
  numbered : s.windows.Numbered
  conveying : s.Conveying

theorem InOrder.step (spec : ProtocolSpec) {s : System} {op : Op} (valid : op.Valid)
    (inOrder : InOrder s) : InOrder (s.step spec op) := by
  obtain ⟨choices, _, refines, _⟩ := System.step_refines spec op inOrder.owned
  refine ⟨refines.owned, ?_, inOrder.conveying.step spec op⟩
  rw [refines.windows]
  exact Windows.step_preserves valid (fun _ _ => .move) choices inOrder.numbered

private theorem inOrder_kept (spec : ProtocolSpec) : Kept spec InOrder where
  step _ _ delivered inOrder := inOrder.step spec delivered.valid
  status _ _ _ _ backpressure inOrder :=
    ⟨inOrder.owned.congr rfl rfl rfl rfl rfl rfl backpressure, inOrder.numbered,
      inOrder.conveying.congr rfl rfl rfl⟩

/-- What carries a run. -/
def Steady (loop : OwnerLoop) : Prop :=
  InOrder loop.system ∧ loop.system.Owned ∧ loop.system.windows.Unstamped

theorem steady_kept (spec : ProtocolSpec) :
    Kept spec fun s => InOrder s ∧ s.Owned ∧ s.windows.Unstamped :=
  (inOrder_kept spec).and (unstamped_kept spec)

theorem start_steady (config : RxConfig) (consumerSchedule clock : List Nat) :
    (start config consumerSchedule clock).Steady := by
  have owned := System.ofConfig_owned config consumerSchedule clock
  have conveying : System.Conveying (start config consumerSchedule clock).system :=
    (System.attached_conveying _ _ consumerSchedule clock).congr rfl rfl rfl
  refine ⟨⟨owned, ⟨rfl, rfl⟩, conveying⟩, owned, fun ctx held => ?_⟩
  cases held with
  | inl active => cases active
  | inr previous => cases previous

theorem mainLoop_determines (pipeline : UdpDatagramPipeline) (received : List Received)
    {loop : OwnerLoop} (steady : loop.Steady) (clear : loop.system.runError = "") :
    loop.Determines (mainLoop pipeline received loop)
      (((mainLoop pipeline received loop).results, fates pipeline received loop) =
        loop.results.onDatagrams pipeline (datagramsReceived received)) := by
  induction received generalizing loop with
  | nil => exact ⟨Nat.le_refl _, fun _ => rfl⟩
  | cons first rest ih =>
      cases first with
      | failed => exact ⟨Nat.le_refl _, fun _ => rfl⟩
      | burst datagrams nowNs =>
          have burst := processBurst_computes pipeline datagrams steady.2.1 clear
          have next := processBurst_kept (steady_kept pipeline.spec) datagrams steady
          have quiet : (loop.processBurst pipeline datagrams).checkTimeout nowNs =
              loop.processBurst pipeline datagrams := by
            simp only [checkTimeout, System.checkTimeout_unstamped next.2.2]
          simp only [mainLoop, fates, datagramsReceived, quiet, LoopResults.onDatagrams_append]
          split
          · rename_i failed
            exact (burst.failed clear failed _).determines
          · rename_i passed
            have drained := burst.keeps (.drained burst.owned)
            have later := @ih (loop.processBurst pipeline datagrams).drainRecycle
              ((steady_kept pipeline.spec).step _ _ .drainRecycle next)
              ((drainRecycle_runError burst.owned).trans (Classical.not_not.mp passed))
            refine drained.determines.then later fun before after => ?_
            rw [← before]
            exact congrArg (fun result : LoopResults × List DatagramFate =>
              (result.1, burstFates pipeline datagrams loop ++ result.2)) after

/-! ## Whole runs -/

theorem shutdown_computes {loop : OwnerLoop} (owned : loop.system.Owned) :
    loop.Computes loop.shutdown (loop.shutdown.results =
      ⟨(loop.results.windows.shutdown .canonical).anonymous, loop.results.artifacts⟩) := by
  obtain ⟨previousClosing, activeClosing, refines⟩ :=
    System.finalizeActiveForShutdown_refines owned
  let closed : OwnerLoop := { loop with system := loop.system.finalizeActiveForShutdown }
  have closes : loop.Computes closed (closed.results =
      ⟨(loop.results.windows.shutdown .canonical).anonymous, loop.results.artifacts⟩) := by
    refine ⟨0, (refines none none).toAdvances, fun _ => ?_⟩
    have windows := congrArg Windows.anonymous (refines none none).windows
    rw [Windows.shutdown_anonymous _ _ .canonical] at windows
    exact congrArg (LoopResults.mk · loop.artifacts) windows
  have degraded := closes.then (degradeRunStatus_computes closes.owned)
    fun before after => after.trans before
  have joined := degraded.then (.settles degraded.owned
    (System.interfere_settles degraded.owned.linked)) fun before after => after.trans before
  exact joined.then (.drained joined.owned) fun before after => after.trans before

private theorem shutdown_inOrder (pipeline : UdpDatagramPipeline) {loop : OwnerLoop}
    (inOrder : InOrder loop.system) : InOrder loop.shutdown.system := by
  have finalized : InOrder loop.system.finalizeActiveForShutdown :=
    inOrder.step pipeline.spec Op.shutdown_valid
  have degraded := degradeRunStatus_kept (inOrder_kept pipeline.spec) finalized
  obtain ⟨joined, windows⟩ :=
    (System.interfere_settles degraded.owned.linked).advances degraded.owned
  have interfered : InOrder loop.system.finalizeActiveForShutdown.degradeRunStatus.interfere :=
    ⟨joined.owned, windows ▸ degraded.numbered, degraded.conveying.interfere⟩
  exact @InOrder.step pipeline.spec _ .drainRecycle trivial interfered

/-- No output was dropped, and no acquire failed. -/
def Undisturbed (loop : OwnerLoop) : Prop :=
  loop.system.metrics.outputBackpressureCount = 0 ∧ loop.system.metrics.poolExhaustionCount = 0

instance (loop : OwnerLoop) : Decidable loop.Undisturbed := instDecidableAnd

theorem Undisturbed.allPushed {loop : OwnerLoop} (undisturbed : loop.Undisturbed)
    (inOrder : InOrder loop.system) : AllPushed loop.system.windowLog :=
  ⟨inOrder.owned.dropped.symm.trans undisturbed.1, inOrder.conveying.undetached⟩

/-- An undisturbed run leaves and decides what its datagrams determine. -/
theorem run_determines (config : RxConfig) (allowedSourceIpv4Be receiverIpv4Be : Nat)
    (consumerSchedule clock : List Nat) (received : List Received) :
    let pipeline := UdpDatagramPipeline.ofConfig config allowedSourceIpv4Be receiverIpv4Be
    let begun := start config consumerSchedule clock
    let loop := run config allowedSourceIpv4Be receiverIpv4Be consumerSchedule clock received
    InOrder loop.system ∧ (loop.Undisturbed →
      (loop.results, fates pipeline received begun) =
        let (results, fates) := LoopResults.onDatagrams pipeline (datagramsReceived received)
          ⟨({} : Windows).anonymous, {}⟩
        (⟨(results.windows.shutdown .canonical).anonymous, results.artifacts⟩, fates)) := by
  intro pipeline begun loop
  have steady : begun.Steady := start_steady config consumerSchedule clock
  have main := mainLoop_determines pipeline received steady rfl
  have after := mainLoop_kept (steady_kept pipeline.spec) received steady
  refine ⟨shutdown_inOrder pipeline after.1, fun undisturbed => ?_⟩
  have whole : begun.Determines loop _ :=
    main.then (shutdown_computes after.2.1).determines fun before last => And.intro before last
  obtain ⟨before, last⟩ := whole.2 undisturbed.2
  apply (congrArg (·, fates pipeline received begun) last).trans
  exact congrArg (fun result : LoopResults × List DatagramFate =>
    (LoopResults.mk (result.1.windows.shutdown .canonical).anonymous result.1.artifacts,
      result.2)) before

end OwnerLoop

/-- Two runs on the same datagrams, however these come in bursts and however far the
consumer gets in between, accept the same datagrams, capture the same packets and
push the same outputs, unless one of them drops an output or runs out of contexts. -/
theorem results_independent_of_bursts_and_consumer (config : RxConfig)
    (allowedSourceIpv4Be receiverIpv4Be : Nat) (consumerSchedule clock : List Nat)
    (otherSchedule otherClock : List Nat) (received others : List Received)
    (same : datagramsReceived received = datagramsReceived others) :
    let pipeline := UdpDatagramPipeline.ofConfig config allowedSourceIpv4Be receiverIpv4Be
    let first := OwnerLoop.run config allowedSourceIpv4Be receiverIpv4Be consumerSchedule clock
      received
    let second := OwnerLoop.run config allowedSourceIpv4Be receiverIpv4Be otherSchedule otherClock
      others
    first.Undisturbed → second.Undisturbed →
      OwnerLoop.fates pipeline received (.start config consumerSchedule clock) =
          OwnerLoop.fates pipeline others (.start config otherSchedule otherClock) ∧
        first.artifacts = second.artifacts ∧
        (pushedWith first.system.windowLog).map unplaced =
          (pushedWith second.system.windowLog).map unplaced := by
  intro pipeline first second firstUndisturbed secondUndisturbed
  obtain ⟨firstInOrder, here⟩ := OwnerLoop.run_determines config allowedSourceIpv4Be
    receiverIpv4Be consumerSchedule clock received
  obtain ⟨secondInOrder, there⟩ := OwnerLoop.run_determines config allowedSourceIpv4Be
    receiverIpv4Be otherSchedule otherClock others
  have results := here firstUndisturbed
  rw [same] at results
  have agree := results.trans (there secondUndisturbed).symm
  have windows : first.system.windows.anonymous = second.system.windows.anonymous :=
    congrArg (fun result => result.1.windows) agree
  refine ⟨congrArg Prod.snd agree, congrArg (fun result => result.1.artifacts) agree, ?_⟩
  exact pushedWith_unplaced windows (firstUndisturbed.allPushed firstInOrder)
    (secondUndisturbed.allPushed secondInOrder) firstInOrder.numbered secondInOrder.numbered

/-- A CPI of one packet that fills its datagram. -/
def UdpDatagramDesc.wholeCpi (cpi : UInt8) : UdpDatagramDesc where
  payloadData := some fun offset =>
    [0x03, 0xff, 0xaa, 0x55, cpi, 0, 0, 0, 1, 0, 1, 0, 0x30, 0xff, 0xaa, 0x55].getD offset 0
  payloadLen := 1920

/-- Two CPIs in one burst without a consumer, and in two bursts with one that keeps
up. -/
theorem results_independent_of_bursts_and_consumer_whole :
    let config := { pairConfig with protocolUdpPacketSize := 1920, protocolPacketsPerChannel := 1 }
    let received := [Received.burst [.wholeCpi 1, .zeros, .wholeCpi 2] 0]
    let others := [Received.burst [.wholeCpi 1] 3, .burst [.zeros, .wholeCpi 2] 4, .failed]
    let pipeline := UdpDatagramPipeline.ofConfig config 0 0
    let first := OwnerLoop.run config 0 0 [] [] received
    let second := OwnerLoop.run config 0 0 [5, 40] [7] others
    (pushedWith first.system.windowLog).length = 2 ∧
      OwnerLoop.fates pipeline received (.start config [] []) =
        OwnerLoop.fates pipeline others (.start config [5, 40] [7]) ∧
      first.artifacts = second.artifacts ∧
      (pushedWith first.system.windowLog).map unplaced =
        (pushedWith second.system.windowLog).map unplaced := by
  intro config received others pipeline first second
  refine ⟨by decide +kernel, ?_⟩
  exact results_independent_of_bursts_and_consumer config 0 0 [] [] [5, 40] [7] received others
    rfl (by decide +kernel) (by decide +kernel)

end RxTech
