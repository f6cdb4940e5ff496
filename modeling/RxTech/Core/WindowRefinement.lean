import RxTech.Core.Ownership
import RxTech.Library.Counting

/-!
# The coordinator refines its windows

From a state in which every pool slot is in one place, recycling, writing to a
window, closing one, control packets and timeouts act on the windows as the
surroundings answer, and leave such a state.
-/

set_option autoImplicit false

namespace RxTech

/-- How an output was handed over. -/
def WindowEvent.delivery : WindowEvent → Option Delivery
  | .produced _ _ delivery => some delivery
  | .opened _ | .stored _ _ | .rebound _ | .discarded _ => none

def deliveries (delivery : Delivery) (log : List WindowEvent) : Nat :=
  log.countP fun event => event.delivery == some delivery

theorem deliveries_append (delivery : Delivery) (first second : List WindowEvent) :
    deliveries delivery (first ++ second) = deliveries delivery first + deliveries delivery second :=
  List.countP_append

namespace System

def poolExhaustedText : String := "cpi context pool exhausted"

/-- How often a slot is a window. -/
def windowCount (s : System) (index : PoolIndex) : Nat :=
  (if s.activeCtxIndex = some index then 1 else 0) +
    (if s.previousCtxIndex = some index then 1 else 0)

/-- Every slot is in exactly one place, the windows know their slots, and every
dropped output is counted. -/
structure Owned (s : System) : Prop where
  linked : s.Linked
  placed : ∀ index, s.outside index + s.windowCount index = 1
  active : ∀ index, s.activeCtxIndex = some index →
    (s.ctxPool.contexts index).header.poolIndex = some index
  previous : ∀ index, s.previousCtxIndex = some index →
    (s.ctxPool.contexts index).header.poolIndex = some index
  dropped : s.metrics.outputBackpressureCount = deliveries .dropped s.windowLog

/-- What an operation does to the rest of the system: at most the outputs it
pushes come to the consumer, and `failures` acquires fail. -/
structure Advances (s next : System) (failures : Nat) : Prop where
  owned : next.Owned
  capacity : next.outputCapacity = s.outputCapacity
  lent : next.unreturned.length + deliveries .pushed s.windowLog ≤
    s.unreturned.length + deliveries .pushed next.windowLog
  exhaustion : next.metrics.poolExhaustionCount = s.metrics.poolExhaustionCount + failures
  error : next.runError = if failures = 0 then s.runError else poolExhaustedText
  crowded : failures ≠ 0 → 14 ≤ s.outputCapacity

theorem Advances.refl {s : System} (owned : s.Owned) : Advances s s 0 :=
  ⟨owned, rfl, Nat.le_refl _, rfl, rfl, fun impossible => absurd rfl impossible⟩

theorem Advances.trans {first second third : System} {earlier later : Nat}
    (left : Advances first second earlier) (right : Advances second third later) :
    Advances first third (earlier + later) where
  owned := right.owned
  capacity := right.capacity.trans left.capacity
  lent := by
    have := left.lent
    have := right.lent
    omega
  exhaustion := by
    have := left.exhaustion
    have := right.exhaustion
    omega
  error := by
    rw [right.error, left.error]
    by_cases none : later = 0 <;> simp [none]
  crowded some := by
    by_cases late : later = 0
    · exact left.crowded (by omega)
    · exact left.capacity ▸ right.crowded late

theorem Advances.keeps {first second third : System} {failures : Nat}
    (left : Advances first second failures) (right : Advances second third 0) :
    Advances first third failures := left.trans right

/-! ## Windows of a state -/

/-- The windows, with other contexts in them. -/
def windowsWith (s : System) (active previous : Option CpiContext) : Windows :=
  { s.windows with active, previous }

theorem Owned.absent_active {s : System} (owned : s.Owned) {index : PoolIndex}
    (active : s.activeCtxIndex = some index) :
    s.outside index = 0 ∧ s.previousCtxIndex ≠ some index := by
  have placed := owned.placed index
  simp only [windowCount, active, if_true] at placed
  refine ⟨by omega, fun previous => ?_⟩
  simp only [previous, if_true] at placed
  omega

theorem Owned.absent_previous {s : System} (owned : s.Owned) {index : PoolIndex}
    (previous : s.previousCtxIndex = some index) :
    s.outside index = 0 ∧ s.activeCtxIndex ≠ some index := by
  have placed := owned.placed index
  simp only [windowCount, previous, if_true] at placed
  refine ⟨by omega, fun active => ?_⟩
  simp only [active, if_true] at placed
  omega

theorem window_eq {s next : System} {window : Option PoolIndex}
    (same : ∀ index, window = some index →
      next.ctxPool.contexts index = s.ctxPool.contexts index) :
    window.map next.ctxPool.contexts = window.map s.ctxPool.contexts := by
  cases window with
  | none => rfl
  | some index => exact congrArg some (same index rfl)

theorem windows_eq_with {s : System} {active previous : Option CpiContext}
    (activeIs : s.activeCtx = active) (previousIs : s.previousCtx = previous) :
    s.windows = s.windowsWith active previous := by
  rw [← activeIs, ← previousIs]
  rfl

theorem windowsWith_of_apart {s next : System} (same : next.apart = s.apart)
    (active previous : Option CpiContext) :
    next.windowsWith active previous = s.windowsWith active previous := by
  change next.apart.windowsWith active previous = s.apart.windowsWith active previous
  rw [same]

/-! ## Recycling -/

theorem Settles.advances {s next : System} (settles : Settles s next) (owned : s.Owned) :
    Advances s next 0 ∧ next.windows = s.windows := by
  have active : next.activeCtxIndex = s.activeCtxIndex := congrArg (·.activeCtxIndex) settles.apart
  have previous : next.previousCtxIndex = s.previousCtxIndex :=
    congrArg (·.previousCtxIndex) settles.apart
  have metrics : next.metrics = s.metrics := congrArg (·.metrics) settles.apart
  have error : next.runError = s.runError := congrArg (·.runError) settles.apart
  have log := windowLog_of_apart settles.apart
  refine ⟨⟨⟨settles.linked, ?_, ?_, ?_, ?_⟩, settles.capacity, ?_, ?_, error, ?_⟩, ?_⟩
  · intro index
    rw [settles.outside, windowCount, active, previous]
    exact owned.placed index
  · intro index holds
    rw [active] at holds
    rw [settles.contexts index (owned.absent_active holds).1]
    exact owned.active index holds
  · intro index holds
    rw [previous] at holds
    rw [settles.contexts index (owned.absent_previous holds).1]
    exact owned.previous index holds
  · rw [metrics, log]
    exact owned.dropped
  · rw [log]
    have := settles.unreturned
    omega
  · rw [metrics, Nat.add_zero]
  · intro impossible
    exact absurd rfl impossible
  · have activeCtx : next.activeCtx = s.activeCtx := by
      rw [System.activeCtx, active]
      exact window_eq fun index holds => settles.contexts index (owned.absent_active holds).1
    have previousCtx : next.previousCtx = s.previousCtx := by
      rw [System.previousCtx, previous]
      exact window_eq fun index holds => settles.contexts index (owned.absent_previous holds).1
    rw [windows_eq_with activeCtx previousCtx, windowsWith_of_apart settles.apart]
    rfl

/-! ## Writing to a window -/

/-- A step that moves no slot and fails nowhere. -/
structure Still (s next : System) : Prop where
  activeCtxIndex : next.activeCtxIndex = s.activeCtxIndex
  previousCtxIndex : next.previousCtxIndex = s.previousCtxIndex
  pipeline : next.pipeline = s.pipeline
  slotLog : next.slotLog = s.slotLog
  backpressure : next.metrics.outputBackpressureCount = s.metrics.outputBackpressureCount
  exhaustion : next.metrics.poolExhaustionCount = s.metrics.poolExhaustionCount
  error : next.runError = s.runError

/-- A step that stays inside the windows: it writes to their contexts and
records that. -/
structure Touches (s next : System) : Prop extends Still s next where
  inUse : next.ctxPool.inUse = s.ctxPool.inUse
  contexts : ∀ index, s.windowCount index = 0 →
    next.ctxPool.contexts index = s.ctxPool.contexts index
  active : ∀ index, s.activeCtxIndex = some index →
    (next.ctxPool.contexts index).header.poolIndex = some index
  previous : ∀ index, s.previousCtxIndex = some index →
    (next.ctxPool.contexts index).header.poolIndex = some index
  log : ∃ events, next.windowLog = s.windowLog ++ events ∧ ∀ event ∈ events, event.delivery = none

private theorem deliveries_of_quiet {delivery : Delivery} {events : List WindowEvent}
    (quiet : ∀ event ∈ events, event.delivery = none) : deliveries delivery events = 0 := by
  refine List.countP_eq_zero.mpr fun event member => ?_
  simp [quiet event member]

theorem Touches.advances {s next : System} (touches : Touches s next) (owned : s.Owned) :
    Advances s next 0 := by
  obtain ⟨events, log, quiet⟩ := touches.log
  have unreturned : next.unreturned = s.unreturned := by
    rw [System.unreturned, touches.pipeline, System.unreturned]
  have lent (index : PoolIndex) : next.lentCount index = s.lentCount index := by
    rw [lentCount, unreturned, lentCount]
  have tokens : next.tokens = s.tokens := by
    rw [System.tokens, touches.pipeline, System.tokens]
  have outside (index : PoolIndex) : next.outside index = s.outside index :=
    outside_eq (congrFun touches.inUse index) (by rw [lent, tokenCount, tokens, tokenCount])
  have deliveries_eq (delivery : Delivery) :
      deliveries delivery next.windowLog = deliveries delivery s.windowLog := by
    rw [log, deliveries_append, deliveries_of_quiet quiet, Nat.add_zero]
  refine ⟨⟨⟨?_, ?_, ?_, ?_, ?_⟩, ?_, ?_, ?_, ?_⟩, ?_, ?_, ?_, ?_, ?_⟩
  · rw [touches.pipeline]
    exact owned.linked.running
  · intro index
    rw [outside]
    exact owned.linked.exclusive index
  · intro index
    simpa only [touches.slotLog, slotPhase, touches.inUse, lent] using owned.linked.history index
  · intro output member
    rw [unreturned] at member
    obtain ⟨index, named, made⟩ := owned.linked.frozen output member
    have := Linked.lent_of_unreturned member named
    have placed := owned.placed index
    simp only [System.outside] at placed
    refine ⟨index, named, ?_⟩
    rw [touches.contexts index (by omega), log]
    exact List.mem_append_left _ made
  · intro token member
    rw [tokens] at member
    obtain ⟨index, named, archived⟩ := owned.linked.tokens token member
    have := Linked.waiting_of_token member named
    have placed := owned.placed index
    simp only [System.outside] at placed
    refine ⟨index, named, archived.congr (touches.contexts index (by omega)) ?_⟩
    rw [log]
    exact fun _ old => List.mem_append_left _ old
  · intro index
    rw [outside, windowCount, touches.activeCtxIndex, touches.previousCtxIndex]
    exact owned.placed index
  · rw [touches.activeCtxIndex]
    exact touches.active
  · rw [touches.previousCtxIndex]
    exact touches.previous
  · rw [touches.backpressure, deliveries_eq]
    exact owned.dropped
  · rw [outputCapacity, touches.pipeline, outputCapacity]
  · rw [unreturned, deliveries_eq]
  · rw [touches.exhaustion, Nat.add_zero]
  · rw [touches.error, if_pos rfl]
  · exact fun impossible => absurd rfl impossible

theorem Still.unreturned {s next : System} (still : Still s next) :
    next.unreturned = s.unreturned := by
  rw [System.unreturned, still.pipeline, System.unreturned]

theorem Still.outside {s next : System} (still : Still s next)
    (inUse : next.ctxPool.inUse = s.ctxPool.inUse) (index : PoolIndex) :
    next.outside index = s.outside index := by
  simp only [System.outside, freeCount, inUse, lentCount, tokenCount, still.unreturned, tokens,
    still.pipeline]

theorem Still.touches {s next : System} (still : Still s next) (owned : s.Owned)
    (ctxPool : next.ctxPool = s.ctxPool) (log : next.windowLog = s.windowLog) : Touches s next where
  toStill := still
  inUse := by rw [ctxPool]
  contexts _ _ := by rw [ctxPool]
  active := by
    rw [ctxPool]
    exact owned.active
  previous := by
    rw [ctxPool]
    exact owned.previous
  log := ⟨[], by simp [log], by simp⟩

theorem Still.writes {s next : System} (still : Still s next) (owned : s.Owned) {index : PoolIndex}
    {ctx : CpiContext} (window : s.activeCtxIndex = some index ∨ s.previousCtxIndex = some index)
    (own : ctx.header.poolIndex = some index) (ctxPool : next.ctxPool = s.ctxPool.set index ctx)
    (log : ∃ events, next.windowLog = s.windowLog ++ events ∧
      ∀ event ∈ events, event.delivery = none) : Touches s next where
  toStill := still
  inUse := by
    rw [ctxPool]
    rfl
  contexts other absent := by
    have different : other ≠ index := by
      rintro rfl
      rcases window with window | window <;> simp [windowCount, window] at absent
    simp [ctxPool, CpiContextPool.set, different]
  active other holds := by
    by_cases same : other = index
    · simp [ctxPool, CpiContextPool.set, same, own]
    · simpa [ctxPool, CpiContextPool.set, same] using owned.active other holds
  previous other holds := by
    by_cases same : other = index
    · simp [ctxPool, CpiContextPool.set, same, own]
    · simpa [ctxPool, CpiContextPool.set, same] using owned.previous other holds
  log := log

theorem Owned.windows_write_active {s next : System} (owned : s.Owned) (still : Still s next)
    {index : PoolIndex} {ctx : CpiContext} (active : s.activeCtxIndex = some index)
    (ctxPool : next.ctxPool = s.ctxPool.set index ctx) :
    next.windows = next.windowsWith (some ctx) s.previousCtx := by
  refine windows_eq_with ?_ ?_
  · simp [activeCtx, still.activeCtxIndex, active, ctxPool, CpiContextPool.set]
  · rw [previousCtx, still.previousCtxIndex]
    refine window_eq fun other previous => ?_
    have different : other ≠ index := by
      rintro rfl
      exact (owned.absent_active active).2 previous
    simp [ctxPool, CpiContextPool.set, different]

theorem Owned.windows_write_previous {s next : System} (owned : s.Owned) (still : Still s next)
    {index : PoolIndex} {ctx : CpiContext} (previous : s.previousCtxIndex = some index)
    (ctxPool : next.ctxPool = s.ctxPool.set index ctx) :
    next.windows = next.windowsWith s.activeCtx (some ctx) := by
  refine windows_eq_with ?_ ?_
  · rw [activeCtx, still.activeCtxIndex]
    refine window_eq fun other active => ?_
    have different : other ≠ index := by
      rintro rfl
      exact (owned.absent_previous previous).2 active
    simp [ctxPool, CpiContextPool.set, different]
  · simp [previousCtx, still.previousCtxIndex, previous, ctxPool, CpiContextPool.set]

/-! ## Closing a context -/

/-- A slot that only a window held goes to the consumer or back to the pool, and
`record` is what the windows see of it. -/
structure Vacates (s next : System) (index : PoolIndex) (record : Windows → Windows) : Prop where
  linked : next.Linked
  outside : ∀ other, next.outside other = s.outside other + if other = index then 1 else 0
  contexts : ∀ other, other ≠ index → s.outside other = 0 →
    next.ctxPool.contexts other = s.ctxPool.contexts other
  activeCtxIndex : next.activeCtxIndex = s.activeCtxIndex
  previousCtxIndex : next.previousCtxIndex = s.previousCtxIndex
  windows : ∀ active previous, next.windowsWith active previous =
    record (s.windowsWith active previous)
  capacity : next.outputCapacity = s.outputCapacity
  lent : next.unreturned.length + deliveries .pushed s.windowLog ≤
    s.unreturned.length + deliveries .pushed next.windowLog
  dropped : next.metrics.outputBackpressureCount + deliveries .dropped s.windowLog =
    s.metrics.outputBackpressureCount + deliveries .dropped next.windowLog
  exhaustion : next.metrics.poolExhaustionCount = s.metrics.poolExhaustionCount
  error : next.runError = s.runError

/-- The slot is freed; `events` tell why. -/
theorem Vacates.of_release {s next : System} {index : PoolIndex} {record : Windows → Windows}
    {events : List WindowEvent} (linked : s.Linked) (absent : s.outside index = 0)
    (ctxPool : next.ctxPool = s.ctxPool.release (some index))
    (slotLog : next.slotLog = s.slotLog ++ [.released index]) (pipeline : next.pipeline = s.pipeline)
    (log : next.windowLog = s.windowLog ++ events)
    (unpushed : deliveries .pushed events = 0)
    (dropped : next.metrics.outputBackpressureCount =
      s.metrics.outputBackpressureCount + deliveries .dropped events)
    (exhaustion : next.metrics.poolExhaustionCount = s.metrics.poolExhaustionCount)
    (error : next.runError = s.runError) (activeCtxIndex : next.activeCtxIndex = s.activeCtxIndex)
    (previousCtxIndex : next.previousCtxIndex = s.previousCtxIndex)
    (windows : ∀ active previous, next.windowsWith active previous =
      record (s.windowsWith active previous)) : Vacates s next index record where
  linked := (release_linked linked absent).congr ctxPool pipeline slotLog
    fun event member => log ▸ List.mem_append_left _ member
  outside other := by
    have released := release_outside linked absent other
    have same : next.outside other = (s.release (some index)).outside other := by
      simp only [System.outside, freeCount, ctxPool, lentCount, tokenCount, unreturned, tokens,
        pipeline]
      rfl
    rw [same, released]
  contexts other different _ := by simp [ctxPool, CpiContextPool.release, different]
  activeCtxIndex := activeCtxIndex
  previousCtxIndex := previousCtxIndex
  windows := windows
  capacity := by rw [outputCapacity, pipeline, outputCapacity]
  lent := by
    rw [unreturned, pipeline, log, deliveries_append, unpushed]
    exact Nat.le_refl _
  dropped := by
    rw [dropped, log, deliveries_append]
    omega
  exhaustion := exhaustion
  error := error

theorem Settles.vacates {s middle next : System} {index : PoolIndex} {record : Windows → Windows}
    (settles : Settles s middle) (vacates : Vacates middle next index record) :
    Vacates s next index record := by
  have metrics : middle.metrics = s.metrics := congrArg (·.metrics) settles.apart
  have log := windowLog_of_apart settles.apart
  have lent := vacates.lent
  have dropped := vacates.dropped
  have exhaustion := vacates.exhaustion
  rw [log] at lent dropped
  rw [metrics] at dropped exhaustion
  refine ⟨vacates.linked, ?_, ?_, vacates.activeCtxIndex.trans ?_, vacates.previousCtxIndex.trans ?_,
    ?_, vacates.capacity.trans settles.capacity, ?_, dropped, exhaustion, vacates.error.trans ?_⟩
  · intro other
    rw [vacates.outside, settles.outside]
  · intro other different outside
    rw [vacates.contexts other different ((settles.outside other).trans outside),
      settles.contexts other outside]
  · exact congrArg (·.activeCtxIndex) settles.apart
  · exact congrArg (·.previousCtxIndex) settles.apart
  · intro active previous
    rw [vacates.windows, windowsWith_of_apart settles.apart]
  · have := settles.unreturned
    omega
  · exact congrArg (·.runError) settles.apart

theorem Vacates.after {s middle next : System} {index : PoolIndex}
    {record recorded : Windows → Windows} (vacates : Vacates middle next index record)
    (still : Still s middle) (inUse : middle.ctxPool.inUse = s.ctxPool.inUse)
    (contexts : ∀ other, other ≠ index → middle.ctxPool.contexts other = s.ctxPool.contexts other)
    (log : middle.windowLog = s.windowLog)
    (windows : ∀ active previous, record (middle.windowsWith active previous) =
      recorded (s.windowsWith active previous)) : Vacates s next index recorded where
  linked := vacates.linked
  outside other := by rw [vacates.outside, still.outside inUse]
  contexts other different absent := by
    rw [← still.outside inUse] at absent
    rw [vacates.contexts other different absent, contexts other different]
  activeCtxIndex := vacates.activeCtxIndex.trans still.activeCtxIndex
  previousCtxIndex := vacates.previousCtxIndex.trans still.previousCtxIndex
  windows active previous := (vacates.windows active previous).trans (windows active previous)
  capacity := by rw [vacates.capacity, outputCapacity, still.pipeline, outputCapacity]
  lent := by
    have lent := vacates.lent
    rwa [log, still.unreturned] at lent
  dropped := by
    have dropped := vacates.dropped
    rwa [log, still.backpressure] at dropped
  exhaustion := vacates.exhaustion.trans still.exhaustion
  error := vacates.error.trans still.error

/-- A full output ring means as many unreturned outputs as it can hold. -/
theorem full_of_refused {s : System} {output : CpiOutput}
    (refused : (s.pipeline.bind fun pipeline => pipeline.pushOutput output) = none) :
    s.outputCapacity ≤ s.unreturned.length := by
  cases attached : s.pipeline with
  | none => simp [outputCapacity, attached]
  | some pipeline =>
      simp only [attached, Option.bind_some, OutputPipeline.pushOutput,
        Option.map_eq_none_iff] at refused
      have full := BoundedQueue.push_eq_none_iff.mp refused
      simp only [outputCapacity, attached, unreturned, Option.elim_some,
        OutputPipeline.unreturned, List.length_append]
      omega

/-- The windows with one more event. -/
def logged (event : WindowEvent) (w : Windows) : Windows := { w with log := w.log ++ [event] }

private theorem offer_vacates {s : System} (output : CpiOutput) {ctx : CpiContext}
    {index : PoolIndex}
    (linked : s.Linked) (absent : s.outside index = 0) (named : output.poolIndex = some index)
    (current : s.ctxPool.contexts index = ctx) :
    ∃ delivery, (delivery = .pushed ∨ delivery = .dropped) ∧
      Vacates s (s.offer output ctx index) index (logged (.produced output ctx delivery)) ∧
      (s.unreturned.length < s.outputCapacity → delivery = .pushed) := by
  unfold offer
  cases accepted : s.pipeline.bind fun pipeline => pipeline.pushOutput output with
  | some pushed =>
      obtain ⟨pipeline, attached, room⟩ := Option.bind_eq_some_iff.mp accepted
      obtain ⟨pushLinked, outside, length, capacity⟩ :=
        push_linked { s with
          pipeline := some pushed
          windowLog := s.windowLog ++ [.produced output ctx .pushed]
          slotLog := s.slotLog ++ [.pushed output] } linked absent named attached room rfl rfl rfl
          (fun _ member => List.mem_append_left _ member) (by simp [current])
      refine ⟨.pushed, .inl rfl, ⟨pushLinked, outside, fun _ _ _ => rfl, rfl, rfl,
        fun _ _ => rfl, capacity, ?_, ?_, rfl, rfl⟩, fun _ => rfl⟩
      · rw [length, deliveries_append]
        simp [deliveries, WindowEvent.delivery]
        omega
      · rw [deliveries_append]
        simp [deliveries, WindowEvent.delivery]
  | none =>
      refine ⟨.dropped, .inr rfl, ?_, fun room => ?_⟩
      · exact .of_release linked absent rfl rfl rfl rfl rfl rfl rfl rfl rfl rfl fun _ _ => rfl
      · have := full_of_refused accepted
        omega

theorem deliver_attached {s : System} {pipeline : OutputPipeline}
    (attached : s.pipeline = some pipeline) (output : CpiOutput) (ctx : CpiContext)
    (index : PoolIndex) :
    s.deliver output ctx index = System.offer
      (System.interfere { s with nextOutputId := s.nextOutputId + 1 })
      { output with outputId := s.nextOutputId } ctx index := by
  simp only [deliver, attached]

private theorem deliver_vacates {s : System} {output : CpiOutput} {ctx : CpiContext}
    {index : PoolIndex}
    (linked : s.Linked) (absent : s.outside index = 0) (named : output.poolIndex = some index)
    (current : s.ctxPool.contexts index = ctx) :
    ∃ delivery, Vacates s (s.deliver output ctx index) index
        (fun w => w.record output ctx delivery) ∧
      (s.unreturned.length < s.outputCapacity → delivery = .pushed) := by
  cases attached : s.pipeline with
  | none =>
      refine ⟨.detached, ?_, by simp [outputCapacity, attached]⟩
      simp only [deliver, attached]
      exact .of_release linked absent rfl rfl rfl rfl rfl rfl rfl rfl rfl rfl fun _ _ => rfl
  | some pipeline =>
      rw [deliver_attached attached]
      have counted : System.Linked { s with nextOutputId := s.nextOutputId + 1 } :=
        linked.congr rfl rfl rfl fun _ member => member
      have settles := interfere_settles counted
      obtain ⟨delivery, given, offered, room⟩ :=
        offer_vacates { output with outputId := s.nextOutputId } settles.linked
          ((settles.outside index).trans absent) named
          ((settles.contexts index absent).trans current)
      refine ⟨delivery, ?_, fun free => room ?_⟩
      · refine (settles.vacates offered).after ⟨rfl, rfl, rfl, rfl, rfl, rfl, rfl⟩ rfl
          (fun _ _ => rfl) rfl ?_
        intro active previous
        rcases given with rfl | rfl <;> rfl
      · have fewer := settles.unreturned
        have capacity := settles.capacity
        exact Nat.lt_of_le_of_lt fewer (capacity ▸ free)

/-- Finalizing a context is closing it, for what the clock and the ring say. -/
theorem finalizeContext_vacates {s : System} {index : PoolIndex} (trigger : Nat)
    (linked : s.Linked) (absent : s.outside index = 0)
    (own : (s.ctxPool.contexts index).header.poolIndex = some index) :
    ∃ closing, Vacates s (s.finalizeContext index trigger) index
        (fun w => w.close (s.ctxPool.contexts index) trigger closing) ∧
      (s.unreturned.length < s.outputCapacity → closing.delivery = .pushed) := by
  cases finalized : CpiFinalizer.tryFinalize (s.ctxPool.contexts index) trigger s.clockNow with
  | none =>
      refine ⟨⟨s.clockNow, .pushed⟩, ?_, fun _ => rfl⟩
      simp only [finalizeContext, finalized, Windows.close]
      exact .of_release linked absent rfl rfl rfl rfl rfl rfl rfl rfl rfl rfl fun _ _ => rfl
  | some result =>
      obtain ⟨sealedCtx, output⟩ := result
      simp only [finalizeContext, finalized, Windows.close]
      let closed : System := { s with
        ctxPool := s.ctxPool.set index sealedCtx
        clock := s.clock.tail
        closedRing := s.closedRing.pushClosed output.cpiId output.sealTsc output.decision }
      have still : Still s closed := ⟨rfl, rfl, rfl, rfl, rfl, rfl, rfl⟩
      have closedLinked : closed.Linked :=
        (setCtx_linked linked absent sealedCtx).congr rfl rfl rfl fun _ member => member
      have named : output.poolIndex = some index := by
        simp only [CpiFinalizer.tryFinalize] at finalized
        split at finalized
        · obtain ⟨decision, -, rfl, rfl⟩ := by simpa using finalized
          exact own
        · cases finalized
      obtain ⟨delivery, vacates, room⟩ := deliver_vacates closedLinked
        ((still.outside rfl index).trans absent) named
        (show closed.ctxPool.contexts index = sealedCtx by simp [closed, CpiContextPool.set])
      refine ⟨⟨s.clockNow, delivery⟩, ?_, room⟩
      refine vacates.after still rfl ?_ rfl ?_
      · intro other different
        simp [closed, CpiContextPool.set, different]
      · intro active previous
        simp only [finalized]
        rfl

/-- An operation that refines the windows to `w`. -/
structure Refines (s next : System) (w : Windows) (failures : Nat) : Prop
    extends Advances s next failures where
  windows : next.windows = w

theorem Refines.refl {s : System} (owned : s.Owned) : Refines s s s.windows 0 :=
  ⟨.refl owned, rfl⟩

theorem Refines.trans {first second third : System} {w v : Windows} {earlier later : Nat}
    (left : Refines first second w earlier) (right : Refines second third v later) :
    Refines first third v (earlier + later) :=
  ⟨left.toAdvances.trans right.toAdvances, right.windows⟩

/-- The window that held the slot is emptied. -/
theorem Vacates.advances {s middle next : System} {index : PoolIndex} {record : Windows → Windows}
    (vacates : Vacates s middle index record) (owned : s.Owned)
    (ctxPool : next.ctxPool = middle.ctxPool) (pipeline : next.pipeline = middle.pipeline)
    (slotLog : next.slotLog = middle.slotLog) (log : next.windowLog = middle.windowLog)
    (metrics : next.metrics = middle.metrics) (error : next.runError = middle.runError)
    (emptied : ∀ other,
      next.windowCount other + (if other = index then 1 else 0) = s.windowCount other)
    (active : ∀ other, next.activeCtxIndex = some other → s.activeCtxIndex = some other)
    (previous : ∀ other, next.previousCtxIndex = some other → s.previousCtxIndex = some other) :
    Advances s next 0 := by
  have linked : next.Linked := vacates.linked.congr ctxPool pipeline slotLog
    fun event member => log ▸ member
  have outside (other : PoolIndex) :
      next.outside other = s.outside other + if other = index then 1 else 0 := by
    rw [← vacates.outside]
    simp only [System.outside, freeCount, ctxPool, lentCount, tokenCount, unreturned, tokens,
      pipeline]
  have placed (other : PoolIndex) : next.outside other + next.windowCount other = 1 := by
    have := owned.placed other
    have := emptied other
    have := outside other
    omega
  -- a window that is left has another slot, and its context was not touched
  have kept (other : PoolIndex) (window : 0 < next.windowCount other) :
      next.ctxPool.contexts other = s.ctxPool.contexts other := by
    have here := outside other
    have now := placed other
    have different : other ≠ index := by
      rintro rfl
      simp only [if_true] at here
      omega
    simp only [different, if_false] at here
    rw [ctxPool]
    exact vacates.contexts other different (by omega)
  refine ⟨⟨linked, placed, ?_, ?_, ?_⟩, ?_, ?_, ?_, ?_, fun impossible => absurd rfl impossible⟩
  · intro other holds
    rw [kept other (by simp [windowCount, holds])]
    exact owned.active other (active other holds)
  · intro other holds
    rw [kept other (by simp [windowCount, holds])]
    exact owned.previous other (previous other holds)
  · have := vacates.dropped
    have := owned.dropped
    rw [metrics, log]
    omega
  · rw [outputCapacity, pipeline]
    exact vacates.capacity
  · rw [log, unreturned, pipeline]
    exact vacates.lent
  · rw [metrics]
    exact vacates.exhaustion
  · rw [error]
    exact vacates.error

theorem Vacates.window_eq {s middle : System} {index : PoolIndex} {record : Windows → Windows}
    (vacates : Vacates s middle index record) {window : Option PoolIndex}
    (absent : ∀ other, window = some other → other ≠ index ∧ s.outside other = 0) :
    window.map middle.ctxPool.contexts = window.map s.ctxPool.contexts :=
  System.window_eq fun other holds =>
    vacates.contexts other (absent other holds).1 (absent other holds).2

theorem finalizeActive_refines {s : System} (trigger : Nat) (owned : s.Owned) :
    ∃ closing, Refines s (s.finalizeActive trigger) (s.windows.closeActive trigger closing) 0 ∧
      (s.unreturned.length < s.outputCapacity → closing.delivery = .pushed) := by
  cases active : s.activeCtxIndex with
  | none =>
      refine ⟨⟨0, .pushed⟩, ?_, fun _ => rfl⟩
      have none : s.windows.active = none := by simp [windows, activeCtx, active]
      simp only [finalizeActive, active, Windows.closeActive, none]
      exact .refl owned
  | some index =>
      obtain ⟨absent, other⟩ := owned.absent_active active
      obtain ⟨closing, vacates, room⟩ :=
        finalizeContext_vacates trigger owned.linked absent (owned.active index active)
      have some : s.windows.active = some (s.ctxPool.contexts index) := by
        simp [windows, activeCtx, active]
      simp only [finalizeActive, active, Windows.closeActive, some]
      refine ⟨closing, ⟨?_, ?_⟩, room⟩
      · refine vacates.advances owned rfl rfl rfl rfl rfl rfl ?_ (by simp) ?_
        · intro place
          simp [windowCount, vacates.previousCtxIndex, active, eq_comm, Nat.add_comm]
        · intro place
          simp [vacates.previousCtxIndex]
      · have previous : (s.finalizeContext index trigger).previousCtx = s.previousCtx := by
          rw [previousCtx, vacates.previousCtxIndex]
          exact vacates.window_eq fun place holds =>
            ⟨fun same => other (same ▸ holds), (owned.absent_previous holds).1⟩
        change (s.finalizeContext index trigger).windowsWith none
          (s.finalizeContext index trigger).previousCtx = _
        rw [previous, vacates.windows, windowsWith, Windows.close_with, Windows.close_previous]
        rfl

theorem finalizePrevious_refines {s : System} (trigger : Nat) (owned : s.Owned) :
    ∃ closing, Refines s (s.finalizePrevious trigger) (s.windows.closePrevious trigger closing) 0 ∧
      (s.unreturned.length < s.outputCapacity → closing.delivery = .pushed) := by
  cases previous : s.previousCtxIndex with
  | none =>
      refine ⟨⟨0, .pushed⟩, ?_, fun _ => rfl⟩
      have none : s.windows.previous = none := by simp [windows, previousCtx, previous]
      simp only [finalizePrevious, previous, Windows.closePrevious, none]
      exact .refl owned
  | some index =>
      obtain ⟨absent, other⟩ := owned.absent_previous previous
      obtain ⟨closing, vacates, room⟩ :=
        finalizeContext_vacates trigger owned.linked absent (owned.previous index previous)
      have some : s.windows.previous = some (s.ctxPool.contexts index) := by
        simp [windows, previousCtx, previous]
      simp only [finalizePrevious, previous, Windows.closePrevious, some]
      refine ⟨closing, ⟨?_, ?_⟩, room⟩
      · refine vacates.advances owned rfl rfl rfl rfl rfl rfl ?_ ?_ (by simp)
        · intro place
          simp [windowCount, vacates.activeCtxIndex, previous, eq_comm]
        · intro place
          simp [vacates.activeCtxIndex]
      · have active : (s.finalizeContext index trigger).activeCtx = s.activeCtx := by
          rw [activeCtx, vacates.activeCtxIndex]
          exact vacates.window_eq fun place holds =>
            ⟨fun same => other (same ▸ holds), (owned.absent_active holds).1⟩
        change (s.finalizeContext index trigger).windowsWith
          (s.finalizeContext index trigger).activeCtx none = _
        rw [active, vacates.windows, windowsWith, Windows.close_with, Windows.close_active]
        rfl

theorem Refines.counted {s middle next : System} {w : Windows} {failures : Nat}
    (first : Refines s middle w failures) (still : Still middle next)
    (ctxPool : next.ctxPool = middle.ctxPool) (same : next.windows = middle.windows) :
    Refines s next w failures where
  toAdvances := first.toAdvances.trans
    ((still.touches first.owned ctxPool (congrArg Windows.log same)).advances first.owned)
  windows := same.trans first.windows

/-! ## Control packets -/

theorem holding_map (s : System) (window : Option PoolIndex) (cpiId : UInt16) :
    Windows.holding (window.map s.ctxPool.contexts) cpiId =
      (s.windowOf window cpiId).map s.ctxPool.contexts := by
  cases window with
  | none => rfl
  | some index =>
      by_cases same : (s.ctxPool.contexts index).header.cpiId = cpiId <;>
        simp [Windows.holding, windowOf, Option.filter, same]

theorem windowOf_eq_some {s : System} {window : Option PoolIndex} {cpiId : UInt16}
    {index : PoolIndex} (found : s.windowOf window cpiId = some index) : window = some index :=
  (Option.filter_eq_some_iff.mp found).1

private theorem merged_own {ctx : CpiContext} {index : PoolIndex} (candidate : ControlSnapshot)
    (own : ctx.header.poolIndex = some index) :
    (mergeControlSnapshot ctx candidate).header.poolIndex = some index :=
  (CpiContext.poolIndex_of_identity (mergeControlSnapshot_identity ctx candidate)).trans own

theorem processControlPacket_refines (spec : ProtocolSpec) {s : System} (owned : s.Owned)
    (parsed : ParsedPacketView) :
    Refines s (s.processControlPacket spec parsed) (s.windows.processControl spec parsed) 0 := by
  unfold processControlPacket Windows.processControl
  split
  · exact .refl owned
  simp only
  rw [show s.windows.active = s.activeCtxIndex.map s.ctxPool.contexts from rfl,
    show s.windows.previous = s.previousCtxIndex.map s.ctxPool.contexts from rfl,
    holding_map, holding_map]
  cases held : s.windowOf s.activeCtxIndex (makeControlSnapshot parsed spec).cpiId with
  | some index =>
      have active := windowOf_eq_some held
      simp only [Option.map_some]
      have own := merged_own (makeControlSnapshot parsed spec) (owned.active index active)
      have still : Still s { s.rebind index (makeControlSnapshot parsed spec) with
          currentControl := ((s.rebind index (makeControlSnapshot parsed spec)).ctxPool.contexts
            index).control } := ⟨rfl, rfl, rfl, rfl, rfl, rfl, rfl⟩
      refine ⟨(still.writes owned (.inl active) own rfl
        ⟨_, rfl, by simp [WindowEvent.delivery]⟩).advances owned, ?_⟩
      rw [owned.windows_write_active still active rfl]
      simp [windowsWith, windows, rebind, setCtx, CpiContextPool.set, Windows.rebindActive]
  | none =>
      cases late : s.windowOf s.previousCtxIndex (makeControlSnapshot parsed spec).cpiId with
      | some index =>
          have previous := windowOf_eq_some late
          have own := merged_own (makeControlSnapshot parsed spec) (owned.previous index previous)
          have still : Still s (s.rebind index (makeControlSnapshot parsed spec)) :=
            ⟨rfl, rfl, rfl, rfl, rfl, rfl, rfl⟩
          refine ⟨(still.writes owned (.inr previous) own rfl
            ⟨_, rfl, by simp [WindowEvent.delivery]⟩).advances owned, ?_⟩
          exact owned.windows_write_previous still previous rfl
      | none =>
          have still : Still s { s with currentControl := makeControlSnapshot parsed spec } :=
            ⟨rfl, rfl, rfl, rfl, rfl, rfl, rfl⟩
          exact ⟨(still.touches owned rfl rfl).advances owned, rfl⟩

/-! ## Timeouts -/

private theorem marked_own {ctx : CpiContext} {index : PoolIndex} (trigger : Nat)
    (own : ctx.header.poolIndex = some index) :
    (markTrigger ctx trigger).header.poolIndex = some index := own

private theorem expirePrevious_refines {s : System} {index : PoolIndex} (trigger : Nat)
    (owned : s.Owned)
    (previous : s.previousCtxIndex = some index) :
    ∃ closing, Refines s
      ((s.setCtx index (markTrigger (s.ctxPool.contexts index) trigger)).finalizePrevious trigger)
      (Windows.closePrevious
        { s.windows with previous := some (markTrigger (s.ctxPool.contexts index) trigger) }
        trigger closing) 0 := by
  have still : Still s (s.setCtx index (markTrigger (s.ctxPool.contexts index) trigger)) :=
    ⟨rfl, rfl, rfl, rfl, rfl, rfl, rfl⟩
  have marked : Refines s _ _ 0 := ⟨(still.writes owned (.inr previous)
    (marked_own trigger (owned.previous index previous)) rfl ⟨[], by simp [setCtx], by simp⟩).advances
      owned, owned.windows_write_previous still previous rfl⟩
  obtain ⟨closing, closed, -⟩ := finalizePrevious_refines trigger marked.owned
  rw [marked.windows] at closed
  exact ⟨closing, marked.trans closed⟩

theorem expireActive_refines {s : System} {index : PoolIndex} (trigger : Nat) (owned : s.Owned)
    (active : s.activeCtxIndex = some index) :
    ∃ closing, Refines s
      ((s.setCtx index (markTrigger (s.ctxPool.contexts index) trigger)).finalizeActive trigger)
      (Windows.closeActive
        { s.windows with active := some (markTrigger (s.ctxPool.contexts index) trigger) }
        trigger closing) 0 := by
  have still : Still s (s.setCtx index (markTrigger (s.ctxPool.contexts index) trigger)) :=
    ⟨rfl, rfl, rfl, rfl, rfl, rfl, rfl⟩
  have marked : Refines s _ _ 0 := ⟨(still.writes owned (.inl active)
    (marked_own trigger (owned.active index active)) rfl ⟨[], by simp [setCtx], by simp⟩).advances
      owned, owned.windows_write_active still active rfl⟩
  obtain ⟨closing, closed, -⟩ := finalizeActive_refines trigger marked.owned
  rw [marked.windows] at closed
  exact ⟨closing, marked.trans closed⟩

private theorem checkPreviousTimeout_refines {s : System} (nowNs : Nat) (owned : s.Owned) :
    ∃ closing, Refines s (s.checkPreviousTimeout nowNs).1
      (s.windows.checkPreviousTimeout nowNs closing) 0 := by
  cases previous : s.previousCtxIndex with
  | none =>
      have none : s.windows.previous = none := by simp [windows, previousCtx, previous]
      simp only [checkPreviousTimeout, previous, Windows.checkPreviousTimeout, none]
      exact ⟨⟨0, .pushed⟩, .refl owned⟩
  | some index =>
      have some : s.windows.previous = some (s.ctxPool.contexts index) := by
        simp [windows, previousCtx, previous]
      simp only [checkPreviousTimeout, previous, Windows.checkPreviousTimeout, some]
      split
      · exact expirePrevious_refines triggerTimeout owned previous
      · exact ⟨⟨0, .pushed⟩, .refl owned⟩

theorem checkTimeout_refines {s : System} (nowNs : Nat) (owned : s.Owned) :
    ∃ previousClosing activeClosing, Refines s (s.checkTimeout nowNs).1
      ((s.windows.checkPreviousTimeout nowNs previousClosing).checkActiveTimeout nowNs
        activeClosing) 0 := by
  obtain ⟨previousClosing, first⟩ := checkPreviousTimeout_refines nowNs owned
  refine ⟨previousClosing, ?_⟩
  rw [← first.windows]
  simp only [checkTimeout]
  generalize s.checkPreviousTimeout nowNs = result at first ⊢
  obtain ⟨middle, fired⟩ := result
  simp only at first ⊢
  cases active : middle.activeCtxIndex with
  | none =>
      have none : middle.windows.active = none := by simp [windows, activeCtx, active]
      simp only [Windows.checkActiveTimeout, none]
      exact ⟨⟨0, .pushed⟩, first.toAdvances, rfl⟩
  | some index =>
      have some : middle.windows.active = some (middle.ctxPool.contexts index) := by
        simp [windows, activeCtx, active]
      simp only [Windows.checkActiveTimeout, some]
      split
      · obtain ⟨closing, expired⟩ := expireActive_refines triggerTimeout first.owned active
        exact ⟨closing, (first.trans expired).counted ⟨rfl, rfl, rfl, rfl, rfl, rfl, rfl⟩ rfl rfl⟩
      · exact ⟨⟨0, .pushed⟩, first.toAdvances, rfl⟩

end System

end RxTech
