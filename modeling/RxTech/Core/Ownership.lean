import RxTech.Core.Windows
import Mathlib.Data.List.Count

/-!
# Who holds a pool slot

Every slot of the context pool is free, is a window, or is referenced by an
output or a token on its way around the pipeline. This module follows the
slots through each primitive of the coordinator and through the consumer.
-/

set_option autoImplicit false

namespace RxTech

/-! ## References to a slot -/

def CpiOutput.refersTo (index : PoolIndex) (output : CpiOutput) : Bool :=
  output.poolIndex == some index

def ReleaseToken.refersTo (index : PoolIndex) (token : ReleaseToken) : Bool :=
  token.ctxPoolIndex == some index

namespace OutputPipeline

/-- The outputs the consumer has not returned: in the ring, or in its hand. -/
def unreturned (pipeline : OutputPipeline) : List CpiOutput :=
  pipeline.outputRing.items ++ pipeline.consumer.phase.hand.toList

/-- The consumer has not seen the stop flag, and every token names a slot. -/
structure Running (pipeline : OutputPipeline) : Prop where
  stop : pipeline.stopFlag = false
  looping : pipeline.consumer.phase.looping = true

/-- What a step of the running consumer does: it may return one output. -/
structure Moved (before after : OutputPipeline) (token : Option ReleaseToken) : Prop where
  running : after.Running
  returned : ∃ output : Option CpiOutput, token = output.map CpiOutput.releaseToken ∧
    before.unreturned.Perm (output.toList ++ after.unreturned)
  recycled : after.recycleRing.items = before.recycleRing.items ++ token.toList
  capacity : after.outputRing.capacity = before.outputRing.capacity

private theorem consumerStep_moved {pipeline : OutputPipeline} (running : pipeline.Running) :
    Moved pipeline pipeline.consumerStep.1 pipeline.consumerStep.2 := by
  obtain ⟨outputRing, recycleRing, ⟨phase, processed, handled⟩, stopFlag⟩ := pipeline
  obtain ⟨stop, looping⟩ := running
  simp only at stop looping
  subst stop
  cases phase with
  | drainPop | drainHandle | drainPush | drainCount | exited =>
      simp [ConsumerPhase.looping] at looping
  | poll | count | handle output | recheck output =>
      exact ⟨⟨rfl, rfl⟩, ⟨none, rfl, .refl _⟩, by simp [consumerStep, goto, callHandler,
        countProcessed], rfl⟩
  | pop =>
      simp only [consumerStep]
      cases popped : outputRing.pop with
      | none => exact ⟨⟨rfl, rfl⟩, ⟨none, rfl, .refl _⟩, by simp [goto], rfl⟩
      | some result =>
          obtain ⟨output, rest⟩ := result
          obtain ⟨items, capacity⟩ := BoundedQueue.pop_eq_some popped
          refine ⟨⟨rfl, rfl⟩, ⟨none, rfl, ?_⟩, by simp [goto], capacity⟩
          simp [unreturned, goto, ConsumerPhase.hand, items]
          exact (List.perm_append_singleton output rest.items).symm
  | push output =>
      simp only [consumerStep]
      cases pushed : recycleRing.push output.releaseToken with
      | none => exact ⟨⟨rfl, rfl⟩, ⟨none, rfl, .refl _⟩, by simp [goto], rfl⟩
      | some rest =>
          obtain ⟨items, _⟩ := BoundedQueue.push_eq_some pushed
          refine ⟨⟨rfl, rfl⟩, ⟨some output, rfl, ?_⟩, items, rfl⟩
          simp [unreturned, goto, ConsumerPhase.hand]

end OutputPipeline

/-! ## The life of a slot -/

/-- A slot is in the pool, with the coordinator, or with the consumer. -/
inductive SlotPhase where
  | free
  | held
  | lent
  deriving DecidableEq, Repr

/-- The slot an event is about. -/
def SlotEvent.index : SlotEvent → Option PoolIndex
  | .acquired index => some index
  | .released index => some index
  | .pushed output => output.poolIndex
  | .returned token => token.ctxPoolIndex

namespace SlotPhase

/-- The life cycle of a slot: nothing happens to a lent slot until the consumer
returns it. -/
def next : SlotPhase → SlotEvent → Option SlotPhase
  | .free, .acquired _ => some .held
  | .held, .released _ => some .free
  | .held, .pushed _ => some .lent
  | .lent, .returned _ => some .held
  | _, _ => none

/-- What an event does to the phase of one slot. -/
def advance (index : PoolIndex) (phase : SlotPhase) (event : SlotEvent) : Option SlotPhase :=
  if event.index = some index then phase.next event else some phase

/-- The phase of one slot after a history; `none` when an event broke the life
cycle. -/
def after (index : PoolIndex) (log : List SlotEvent) : Option SlotPhase :=
  log.foldlM (advance index) .free

private theorem after_concat {index : PoolIndex} {log : List SlotEvent} {phase : SlotPhase}
    (event : SlotEvent) (reached : after index log = some phase) :
    after index (log ++ [event]) =
      if event.index = some index then phase.next event else some phase := by
  simp only [after] at reached
  simp [after, List.foldlM_append, reached, advance]

private theorem next_lent_eq_some {event : SlotEvent} {phase : SlotPhase}
    (moves : SlotPhase.lent.next event = some phase) : ∃ token, event = .returned token := by
  cases event with
  | returned token => exact ⟨token, rfl⟩
  | acquired index | released index | pushed output => cases moves

private theorem next_pushed_eq_some {output : CpiOutput} {before after : SlotPhase}
    (moves : before.next (.pushed output) = some after) : after = .lent := by
  cases before with
  | held => exact (Option.some.inj moves).symm
  | free | lent => cases moves

/-- After a slot is pushed, the next thing that happens to it is its return. -/
theorem returned_after_pushed {index : PoolIndex} {before between rest : List SlotEvent}
    {output : CpiOutput} {event : SlotEvent} {phase : SlotPhase}
    (reached : after index (before ++ .pushed output :: (between ++ event :: rest)) = some phase)
    (named : output.poolIndex = some index) (next : event.index = some index)
    (idle : ∀ other ∈ between, other.index ≠ some index) : ∃ token, event = .returned token := by
  simp only [after, List.foldlM_append, List.foldlM_cons, Option.bind_eq_bind,
    Option.bind_eq_some_iff] at reached
  obtain ⟨earlier, -, pushedPhase, pushed, still, kept, last, moves, -⟩ := reached
  rw [advance, if_pos (by exact named)] at pushed
  rw [advance, if_pos next] at moves
  have stays : between.foldlM (advance index) pushedPhase = some pushedPhase := by
    clear kept
    induction between with
    | nil => rfl
    | cons other between ih =>
        rw [List.foldlM_cons, advance, if_neg (idle other (by simp))]
        exact ih fun later member => idle later (by simp [member])
  obtain rfl : pushedPhase = still := Option.some.inj (stays.symm.trans kept)
  rw [next_pushed_eq_some pushed] at moves
  exact next_lent_eq_some moves

end SlotPhase

namespace System

/-! ## Places -/

/-- The outputs that the consumer has not returned. -/
def unreturned (s : System) : List CpiOutput := s.pipeline.elim [] OutputPipeline.unreturned

def outputCapacity (s : System) : Nat :=
  s.pipeline.elim 0 fun pipeline => pipeline.outputRing.capacity

def freeCount (s : System) (index : PoolIndex) : Nat := if s.ctxPool.inUse index then 0 else 1

def lentCount (s : System) (index : PoolIndex) : Nat :=
  s.unreturned.countP (CpiOutput.refersTo index)

def tokenCount (s : System) (index : PoolIndex) : Nat :=
  s.tokens.countP (ReleaseToken.refersTo index)

/-- How often a slot is held outside the windows. -/
def outside (s : System) (index : PoolIndex) : Nat :=
  s.freeCount index + s.lentCount index + s.tokenCount index

def slotPhase (s : System) (index : PoolIndex) : SlotPhase :=
  if s.ctxPool.inUse index = false then .free
  else if s.lentCount index = 0 then .held
  else .lent

private theorem slotPhase_held {s : System} {index : PoolIndex}
    (used : s.ctxPool.inUse index = true)
    (kept : s.lentCount index = 0) : s.slotPhase index = .held := by
  simp [slotPhase, used, kept]

private theorem slotPhase_lent {s : System} {index : PoolIndex}
    (used : s.ctxPool.inUse index = true)
    (lent : s.lentCount index ≠ 0) : s.slotPhase index = .lent := by
  simp [slotPhase, used, lent]

private theorem slotPhase_congr {s next : System} {index : PoolIndex}
    (inUse : next.ctxPool.inUse index = s.ctxPool.inUse index)
    (lent : next.lentCount index = s.lentCount index) :
    next.slotPhase index = s.slotPhase index := by
  rw [slotPhase, inUse, lent, slotPhase]

/-- The context in the slot is what some pushed output was made from. -/
def Archived (s : System) (index : PoolIndex) : Prop :=
  ∃ output, .produced output (s.ctxPool.contexts index) .pushed ∈ s.windowLog

theorem Archived.congr {s next : System} {index : PoolIndex} (archived : s.Archived index)
    (contexts : next.ctxPool.contexts index = s.ctxPool.contexts index)
    (windowLog : ∀ event ∈ s.windowLog, event ∈ next.windowLog) : next.Archived index := by
  obtain ⟨output, made⟩ := archived
  rw [← contexts] at made
  exact ⟨output, windowLog _ made⟩

/-- What every primitive of the coordinator preserves: no slot is in two places
outside the windows, the history of each slot is a run of its life cycle, and an
output that the consumer has not returned still reads the context it was made
from, which stays in the slot while its token waits. -/
structure Linked (s : System) : Prop where
  running : ∀ pipeline, s.pipeline = some pipeline → pipeline.Running
  exclusive : ∀ index, s.outside index ≤ 1
  history : ∀ index, SlotPhase.after index s.slotLog = some (s.slotPhase index)
  frozen : ∀ output ∈ s.unreturned, ∃ index, output.poolIndex = some index ∧
    .produced output (s.ctxPool.contexts index) .pushed ∈ s.windowLog
  tokens : ∀ token ∈ s.tokens, ∃ index, token.ctxPoolIndex = some index ∧ s.Archived index

theorem Linked.congr {s next : System} (linked : s.Linked) (ctxPool : next.ctxPool = s.ctxPool)
    (pipeline : next.pipeline = s.pipeline) (slotLog : next.slotLog = s.slotLog)
    (windowLog : ∀ event ∈ s.windowLog, event ∈ next.windowLog) : next.Linked := by
  have unreturned : next.unreturned = s.unreturned := by
    rw [System.unreturned, pipeline, System.unreturned]
  have tokens : next.tokens = s.tokens := by rw [System.tokens, pipeline, System.tokens]
  refine ⟨by rw [pipeline]; exact linked.running, ?_, ?_, ?_, ?_⟩
  · intro index
    simpa only [outside, freeCount, lentCount, tokenCount, ctxPool, unreturned, tokens] using
      linked.exclusive index
  · intro index
    have phase : next.slotPhase index = s.slotPhase index :=
      slotPhase_congr (by rw [ctxPool]) (by rw [lentCount, unreturned, lentCount])
    rw [slotLog, phase]
    exact linked.history index
  · intro output member
    rw [unreturned] at member
    obtain ⟨index, named, made⟩ := linked.frozen output member
    exact ⟨index, named, windowLog _ (ctxPool ▸ made)⟩
  · intro token member
    rw [tokens] at member
    obtain ⟨index, named, archived⟩ := linked.tokens token member
    exact ⟨index, named, archived.congr (by rw [ctxPool]) windowLog⟩

/-- The coordinator without the members that recycling touches. -/
def apart (s : System) : System :=
  { s with ctxPool := .fresh, pipeline := none, consumerSchedule := [], slotLog := [] }

theorem windowLog_of_apart {s next : System} (same : next.apart = s.apart) :
    next.windowLog = s.windowLog := by
  change next.apart.windowLog = s.apart.windowLog
  rw [same]

/-- What recycling and the consumer do: slots move among the places outside the
windows. -/
structure Settles (s next : System) : Prop where
  linked : next.Linked
  apart : next.apart = s.apart
  outside : ∀ index, next.outside index = s.outside index
  contexts : ∀ index, s.outside index = 0 →
    next.ctxPool.contexts index = s.ctxPool.contexts index
  unreturned : next.unreturned.length ≤ s.unreturned.length
  capacity : next.outputCapacity = s.outputCapacity

theorem Settles.refl {s : System} (linked : s.Linked) : Settles s s :=
  ⟨linked, rfl, fun _ => rfl, fun _ _ => rfl, Nat.le_refl _, rfl⟩

theorem Settles.trans {first second third : System} (left : Settles first second)
    (right : Settles second third) : Settles first third where
  linked := right.linked
  apart := right.apart.trans left.apart
  outside index := (right.outside index).trans (left.outside index)
  contexts index absent :=
    (right.contexts index ((left.outside index).trans absent)).trans (left.contexts index absent)
  unreturned := Nat.le_trans right.unreturned left.unreturned
  capacity := right.capacity.trans left.capacity

/-! ## The consumer -/

theorem Linked.phase_cases {s : System} (linked : s.Linked) (index : PoolIndex) :
    (s.slotPhase index = .free ∧ s.ctxPool.inUse index = false ∧ s.lentCount index = 0) ∨
      (s.slotPhase index = .held ∧ s.ctxPool.inUse index = true ∧ s.lentCount index = 0) ∨
      (s.slotPhase index = .lent ∧ s.ctxPool.inUse index = true ∧ s.lentCount index = 1) := by
  have exclusive := linked.exclusive index
  simp only [outside, freeCount] at exclusive
  cases used : s.ctxPool.inUse index with
  | false =>
      simp only [used, Bool.false_eq_true, ↓reduceIte] at exclusive
      exact .inl ⟨by simp [slotPhase, used], rfl, by omega⟩
  | true =>
      by_cases lent : s.lentCount index = 0
      · exact .inr (.inl ⟨by simp [slotPhase, used, lent], rfl, lent⟩)
      · exact .inr (.inr ⟨by simp [slotPhase, used, lent], rfl, by omega⟩)

theorem Linked.history_concat {s next : System} (linked : s.Linked) (event : SlotEvent)
    (log : next.slotLog = s.slotLog ++ [event])
    (here : ∀ index, event.index = some index →
      (s.slotPhase index).next event = some (next.slotPhase index))
    (elsewhere : ∀ index, event.index ≠ some index → next.slotPhase index = s.slotPhase index)
    (index : PoolIndex) : SlotPhase.after index next.slotLog = some (next.slotPhase index) := by
  rw [log, SlotPhase.after_concat event (linked.history index)]
  split
  · rename_i named
    exact here index named
  · rename_i other
    rw [elsewhere index other]

@[simp] theorem outside_eq {s next : System} {index : PoolIndex}
    (inUse : next.ctxPool.inUse index = s.ctxPool.inUse index)
    (slots : next.lentCount index + next.tokenCount index =
      s.lentCount index + s.tokenCount index) : next.outside index = s.outside index := by
  simp only [outside, freeCount, inUse]
  omega

/-- The running consumer returns at most one output. -/
structure Returns (s next : System) (output : Option CpiOutput) : Prop where
  apart : next.apart = s.apart
  ctxPool : next.ctxPool = s.ctxPool
  running : ∀ pipeline, next.pipeline = some pipeline → pipeline.Running
  unreturned : s.unreturned.Perm (output.toList ++ next.unreturned)
  tokens : next.tokens = s.tokens ++ output.toList.map CpiOutput.releaseToken
  slotLog : next.slotLog =
    s.slotLog ++ output.toList.map fun output => .returned output.releaseToken
  capacity : next.outputCapacity = s.outputCapacity

theorem Returns.history {s next : System} {output : Option CpiOutput}
    (returns : Returns s next output) (linked : s.Linked)
    (lent : ∀ index, s.lentCount index =
      output.toList.countP (CpiOutput.refersTo index) + next.lentCount index) (index : PoolIndex) :
    SlotPhase.after index next.slotLog = some (next.slotPhase index) := by
  cases output with
  | none =>
      have log : next.slotLog = s.slotLog := by simpa using returns.slotLog
      have same : next.lentCount index = s.lentCount index := by simpa using (lent index).symm
      simpa only [log, slotPhase, returns.ctxPool, same] using linked.history index
  | some output =>
      refine linked.history_concat _ returns.slotLog ?_ ?_ index
      · intro index named
        have here : output.refersTo index = true := by
          simpa [CpiOutput.refersTo, SlotEvent.index, CpiOutput.releaseToken] using named
        have one := lent index
        simp only [Option.toList_some, List.countP_singleton, here, if_true] at one
        rcases linked.phase_cases index with ⟨-, -, none⟩ | ⟨-, -, none⟩ | ⟨phase, used, only⟩
        · omega
        · omega
        · rw [← returns.ctxPool] at used
          rw [phase, slotPhase_held used (by omega)]
          rfl
      · intro index other
        have elsewhere : output.refersTo index = false := by
          simpa [CpiOutput.refersTo, SlotEvent.index, CpiOutput.releaseToken] using other
        have same : next.lentCount index = s.lentCount index := by
          have := lent index
          simp only [Option.toList_some, List.countP_singleton, elsewhere, Bool.false_eq_true,
            if_false] at this
          omega
        simp only [slotPhase, returns.ctxPool, same]

theorem Returns.settles {s next : System} {output : Option CpiOutput}
    (returns : Returns s next output) (linked : s.Linked) : Settles s next := by
  have lent (index : PoolIndex) : s.lentCount index =
      output.toList.countP (CpiOutput.refersTo index) + next.lentCount index := by
    rw [lentCount, returns.unreturned.countP_eq, List.countP_append]
    rfl
  have waiting (index : PoolIndex) : next.tokenCount index =
      s.tokenCount index + output.toList.countP (CpiOutput.refersTo index) := by
    rw [tokenCount, returns.tokens, List.countP_append, List.countP_map]
    rfl
  have outside (index : PoolIndex) : next.outside index = s.outside index := by
    have := lent index
    have := waiting index
    exact outside_eq (by rw [returns.ctxPool]) (by omega)
  refine ⟨⟨returns.running, ?_, returns.history linked lent, ?_, ?_⟩, returns.apart, outside, ?_,
    ?_, returns.capacity⟩
  · intro index
    rw [outside]
    exact linked.exclusive index
  · intro other member
    rw [windowLog_of_apart returns.apart, returns.ctxPool]
    exact linked.frozen other (returns.unreturned.mem_iff.mpr (List.mem_append_right _ member))
  · intro token member
    have contexts {index : PoolIndex} :
        next.ctxPool.contexts index = s.ctxPool.contexts index := by rw [returns.ctxPool]
    have windowLog : ∀ event ∈ s.windowLog, event ∈ next.windowLog := by
      rw [windowLog_of_apart returns.apart]
      exact fun _ old => old
    rw [returns.tokens, List.mem_append, List.mem_map] at member
    rcases member with old | ⟨other, new, rfl⟩
    · obtain ⟨index, named, archived⟩ := linked.tokens token old
      exact ⟨index, named, archived.congr contexts windowLog⟩
    · obtain ⟨index, named, made⟩ :=
        linked.frozen other (returns.unreturned.mem_iff.mpr (List.mem_append_left _ new))
      have archived : s.Archived index := ⟨other, made⟩
      exact ⟨index, named, archived.congr contexts windowLog⟩
  · intro index _
    rw [returns.ctxPool]
  · have := returns.unreturned.length_eq
    rw [List.length_append] at this
    omega

theorem consumerStep_settles {s : System} (linked : s.Linked) : Settles s s.consumerStep := by
  cases attached : s.pipeline with
  | none =>
      have idle : s.consumerStep = s := by simp only [consumerStep, attached]
      rw [idle]
      exact .refl linked
  | some pipeline =>
      obtain ⟨running, ⟨output, token, moved⟩, recycled, capacity⟩ :=
        OutputPipeline.consumerStep_moved (linked.running pipeline attached)
      have step : s.consumerStep = { s with
          pipeline := some pipeline.consumerStep.1
          slotLog := s.slotLog ++ (pipeline.consumerStep.2.map SlotEvent.returned).toList } := by
        simp only [consumerStep, attached]
      rw [step]
      refine Returns.settles (?_ : Returns s _ output) linked
      refine ⟨rfl, rfl, ?_, ?_, ?_, ?_, ?_⟩
      · intro other found
        cases found
        exact running
      · simpa [unreturned, attached] using moved
      · simpa [System.tokens, attached, token, Option.toList_map] using recycled
      · cases output <;> simp [token]
      · simpa [outputCapacity, attached] using capacity

theorem consumerSteps_settles (count : Nat) {s : System} (linked : s.Linked) :
    Settles s (consumerSteps count s) := by
  induction count generalizing s with
  | zero => exact .refl linked
  | succ count ih =>
      have first := consumerStep_settles linked
      exact first.trans (ih first.linked)

theorem Linked.schedule {s : System} (linked : s.Linked) (schedule : List Nat) :
    Settles s { s with consumerSchedule := schedule } :=
  ⟨⟨linked.running, linked.exclusive, linked.history, linked.frozen, linked.tokens⟩, rfl,
    fun _ => rfl, fun _ _ => rfl, Nat.le_refl _, rfl⟩

theorem interfere_settles {s : System} (linked : s.Linked) : Settles s s.interfere := by
  cases scheduled : s.consumerSchedule with
  | nil =>
      have idle : s.interfere = s := by simp only [interfere, scheduled]
      rw [idle]
      exact .refl linked
  | cons count rest =>
      have step : s.interfere = consumerSteps count { s with consumerSchedule := rest } := by
        simp only [interfere, scheduled]
      rw [step]
      exact (linked.schedule rest).trans
        (consumerSteps_settles count (linked.schedule rest).linked)

/-! ## Releasing and recycling -/

theorem Linked.held_of_absent {s : System} (linked : s.Linked) {index : PoolIndex}
    (absent : s.outside index = 0) :
    s.slotPhase index = .held ∧ s.ctxPool.inUse index = true ∧ s.lentCount index = 0 ∧
      s.tokenCount index = 0 := by
  simp only [outside, freeCount] at absent
  rcases linked.phase_cases index with ⟨-, free, -⟩ | ⟨phase, used, none⟩ | ⟨-, -, one⟩
  · simp [free] at absent
  · exact ⟨phase, used, none, by omega⟩
  · omega

theorem Linked.lent_of_unreturned {s : System} {output : CpiOutput} {index : PoolIndex}
    (member : output ∈ s.unreturned) (named : output.poolIndex = some index) :
    0 < s.lentCount index :=
  List.countP_pos_iff.mpr ⟨output, member, by simp [CpiOutput.refersTo, named]⟩

theorem Linked.waiting_of_token {s : System} {token : ReleaseToken} {index : PoolIndex}
    (member : token ∈ s.tokens) (named : token.ctxPoolIndex = some index) :
    0 < s.tokenCount index :=
  List.countP_pos_iff.mpr ⟨token, member, by simp [ReleaseToken.refersTo, named]⟩

/-- A slot that no output references may change under those that are lent. -/
theorem Linked.frozen_of_kept {s next : System} {index : PoolIndex} (linked : s.Linked)
    (kept : s.lentCount index = 0)
    (contexts : ∀ other, other ≠ index → next.ctxPool.contexts other = s.ctxPool.contexts other)
    (windowLog : ∀ event ∈ s.windowLog, event ∈ next.windowLog) :
    ∀ output ∈ s.unreturned, ∃ place, output.poolIndex = some place ∧
      .produced output (next.ctxPool.contexts place) .pushed ∈ next.windowLog := by
  intro output member
  obtain ⟨place, named, made⟩ := linked.frozen output member
  have different : place ≠ index := by
    intro same
    have lent := Linked.lent_of_unreturned member named
    rw [same, kept] at lent
    exact Nat.lt_irrefl 0 lent
  exact ⟨place, named, windowLog _ (by rw [contexts place different]; exact made)⟩

theorem Linked.tokens_of_kept {s next : System} {index : PoolIndex} (linked : s.Linked)
    (kept : s.tokenCount index = 0)
    (contexts : ∀ other, other ≠ index → next.ctxPool.contexts other = s.ctxPool.contexts other)
    (windowLog : ∀ event ∈ s.windowLog, event ∈ next.windowLog) :
    ∀ token ∈ s.tokens, ∃ place, token.ctxPoolIndex = some place ∧ next.Archived place := by
  intro token member
  obtain ⟨place, named, archived⟩ := linked.tokens token member
  have different : place ≠ index := by
    intro same
    have waiting := Linked.waiting_of_token member named
    rw [same, kept] at waiting
    exact Nat.lt_irrefl 0 waiting
  exact ⟨place, named, archived.congr (contexts place different) windowLog⟩

theorem Linked.exclusive_of_entered {s next : System} {index : PoolIndex} (linked : s.Linked)
    (absent : s.outside index = 0)
    (outside : ∀ other, next.outside other = s.outside other + if other = index then 1 else 0)
    (other : PoolIndex) : next.outside other ≤ 1 := by
  rw [outside]
  split
  · rename_i same
    rw [same, absent]
  · exact linked.exclusive other

@[simp] theorem release_lentCount (s : System) (released : Option PoolIndex) (index : PoolIndex) :
    (s.release released).lentCount index = s.lentCount index := rfl

@[simp] theorem release_tokenCount (s : System) (released : Option PoolIndex) (index : PoolIndex) :
    (s.release released).tokenCount index = s.tokenCount index := rfl

theorem release_outside {s : System} {index : PoolIndex} (linked : s.Linked)
    (absent : s.outside index = 0) (other : PoolIndex) :
    (s.release (some index)).outside other = s.outside other + if other = index then 1 else 0 := by
  obtain ⟨-, used, -, -⟩ := linked.held_of_absent absent
  simp only [outside, freeCount, release_lentCount, release_tokenCount]
  by_cases same : other = index
  · subst same
    simp only [release, CpiContextPool.release, Function.update_self, used, if_true]
    simp only [Bool.false_eq_true, if_false]
    omega
  · simp [release, CpiContextPool.release, same]

theorem release_linked {s : System} {index : PoolIndex} (linked : s.Linked)
    (absent : s.outside index = 0) : (s.release (some index)).Linked := by
  obtain ⟨phase, used, kept, waiting⟩ := linked.held_of_absent absent
  have contexts (other : PoolIndex) (different : other ≠ index) :
      (s.release (some index)).ctxPool.contexts other = s.ctxPool.contexts other := by
    simp [release, CpiContextPool.release, different]
  refine ⟨linked.running, linked.exclusive_of_entered absent (release_outside linked absent),
    linked.history_concat (.released index) rfl ?_ ?_,
    linked.frozen_of_kept kept contexts fun _ old => old,
    linked.tokens_of_kept waiting contexts fun _ old => old⟩
  · intro other named
    cases named
    rw [phase]
    simp [slotPhase, release, CpiContextPool.release, SlotPhase.next]
  · intro other elsewhere
    have different : other ≠ index := fun same => elsewhere (congrArg some same.symm)
    simp [slotPhase, release, CpiContextPool.release, different, lentCount, unreturned]

private theorem popToken_eq_some {s rest : System} {token : ReleaseToken}
    (popped : s.popToken = some (token, rest)) :
    s.tokens = token :: rest.tokens ∧ rest.apart = s.apart ∧ rest.ctxPool = s.ctxPool ∧
      rest.slotLog = s.slotLog ∧ rest.unreturned = s.unreturned ∧
      rest.outputCapacity = s.outputCapacity ∧
      ((∀ pipeline, s.pipeline = some pipeline → pipeline.Running) →
        ∀ pipeline, rest.pipeline = some pipeline → pipeline.Running) := by
  unfold popToken at popped
  cases attached : s.pipeline with
  | none => simp [attached] at popped
  | some pipeline =>
      rw [attached] at popped
      simp only at popped
      cases front : pipeline.recycleRing.pop with
      | none => simp [front] at popped
      | some result =>
          obtain ⟨head, ring⟩ := result
          simp only [front, Option.some.injEq, Prod.mk.injEq] at popped
          obtain ⟨rfl, rfl⟩ := popped
          obtain ⟨items, -⟩ := BoundedQueue.pop_eq_some front
          refine ⟨?_, rfl, rfl, rfl, ?_, ?_, ?_⟩
          · simp [tokens, attached, items]
          · simp [unreturned, attached, OutputPipeline.unreturned]
          · simp [outputCapacity, attached]
          · intro running other found
            cases found
            have := running pipeline rfl
            exact ⟨this.stop, this.looping⟩

private theorem popToken_eq_none {s : System} (popped : s.popToken = none) : s.tokens = [] := by
  unfold popToken at popped
  cases attached : s.pipeline with
  | none => simp [tokens, attached]
  | some pipeline =>
      rw [attached] at popped
      simp only at popped
      cases front : pipeline.recycleRing.pop with
      | none => simpa [tokens, attached] using BoundedQueue.pop_eq_none_iff.mp front
      | some result => simp [front] at popped

private theorem recycle_settles {s rest : System} {token : ReleaseToken} (linked : s.Linked)
    (popped : s.popToken = some (token, rest)) :
    Settles s (rest.release token.ctxPoolIndex) := by
  obtain ⟨tokens, apart, ctxPool, slotLog, unreturned, capacity, running⟩ :=
    popToken_eq_some popped
  obtain ⟨index, named, -⟩ := linked.tokens token (by simp [tokens])
  have lent (other : PoolIndex) : rest.lentCount other = s.lentCount other := by
    rw [lentCount, unreturned, lentCount]
  have before (other : PoolIndex) :
      s.outside other = rest.outside other + if other = index then 1 else 0 := by
    have count : s.tokenCount other = rest.tokenCount other + if other = index then 1 else 0 := by
      simp only [tokenCount, tokens, List.countP_cons, ReleaseToken.refersTo, named, beq_iff_eq,
        Option.some.injEq, @eq_comm _ index other]
    simp only [outside, freeCount, lent, count, ctxPool]
    omega
  have absent : rest.outside index = 0 := by
    have := linked.exclusive index
    have := before index
    simp only [if_true] at this
    omega
  have restLinked : rest.Linked := by
    refine ⟨running linked.running, ?_, ?_, ?_, ?_⟩
    · intro other
      have := before other
      have := linked.exclusive other
      omega
    · intro other
      simpa only [slotLog, slotPhase, ctxPool, lent] using linked.history other
    · rw [unreturned, windowLog_of_apart apart, ctxPool]
      exact linked.frozen
    · intro other member
      obtain ⟨slot, at', archived⟩ := linked.tokens other (by simp [tokens, member])
      refine ⟨slot, at', archived.congr (by rw [ctxPool]) ?_⟩
      rw [windowLog_of_apart apart]
      exact fun _ old => old
  rw [named]
  refine ⟨release_linked restLinked absent, apart, ?_, ?_, ?_, capacity⟩
  · intro other
    rw [release_outside restLinked absent, before other]
  · intro other outside
    have different : other ≠ index := by
      rintro rfl
      have := before other
      simp at this
      omega
    simp [release, CpiContextPool.release, different, ctxPool]
  · exact Nat.le_of_eq (congrArg List.length unreturned)

private theorem recycle_tokens {s rest : System} {token : ReleaseToken}
    (popped : s.popToken = some (token, rest)) :
    s.tokens.length = (rest.release token.ctxPoolIndex).tokens.length + 1 := by
  rw [(popToken_eq_some popped).1]
  rfl

/-- A drain that may pop as often as there are tokens empties the ring. -/
theorem drainQuiet_settles (count : Nat) {s : System} (linked : s.Linked)
    (enough : s.tokens.length ≤ count) :
    Settles s (drainQuiet count s).1 ∧ (drainQuiet count s).1.tokens = [] := by
  induction count generalizing s with
  | zero => exact ⟨.refl linked, List.length_eq_zero_iff.mp (Nat.le_zero.mp enough)⟩
  | succ count ih =>
      simp only [drainQuiet]
      cases popped : s.popToken with
      | none => exact ⟨.refl linked, popToken_eq_none popped⟩
      | some result =>
          obtain ⟨token, rest⟩ := result
          have recycled := recycle_settles linked popped
          have fewer := recycle_tokens popped
          obtain ⟨settles, empty⟩ := ih recycled.linked (by omega)
          exact ⟨recycled.trans settles, empty⟩

private theorem drainLoop_settles (schedule : List Nat) {s : System} (linked : s.Linked) :
    Settles s (drainLoop schedule s).1 ∧ (drainLoop schedule s).1.tokens = [] := by
  induction schedule generalizing s with
  | nil =>
      have quiet := linked.schedule []
      obtain ⟨settles, empty⟩ := drainQuiet_settles s.tokens.length quiet.linked (Nat.le_refl _)
      exact ⟨quiet.trans settles, empty⟩
  | cons count rest ih =>
      have scheduled := linked.schedule rest
      have moved := scheduled.trans (consumerSteps_settles count scheduled.linked)
      simp only [drainLoop]
      cases popped : (consumerSteps count { s with consumerSchedule := rest }).popToken with
      | none => exact ⟨moved, popToken_eq_none popped⟩
      | some result =>
          obtain ⟨token, popped'⟩ := result
          have recycled := moved.trans (recycle_settles moved.linked popped)
          obtain ⟨settles, empty⟩ := ih recycled.linked
          exact ⟨recycled.trans settles, empty⟩

private theorem drainRecycleOnce_settles {s : System} (linked : s.Linked) :
    Settles s s.drainRecycleOnce.1 ∧ s.drainRecycleOnce.1.tokens = [] := by
  cases attached : s.pipeline with
  | none =>
      have idle : s.drainRecycleOnce = (s, false) := by simp only [drainRecycleOnce, attached]
      rw [idle]
      exact ⟨.refl linked, by simp [tokens, attached]⟩
  | some pipeline =>
      have loop : s.drainRecycleOnce = drainLoop s.consumerSchedule s := by
        simp only [drainRecycleOnce, attached]
      rw [loop]
      exact drainLoop_settles s.consumerSchedule linked

theorem drainRecycle_settles {s : System} (linked : s.Linked) : Settles s s.drainRecycle :=
  (drainRecycleOnce_settles linked).1

/-! ## Acquiring -/

/-- A free slot leaves the pool, reset for `cpiId`. -/
structure Acquires (s next : System) (cpiId : UInt16) (index : PoolIndex) : Prop where
  linked : next.Linked
  apart : next.apart = s.apart
  outside : ∀ other, s.outside other = next.outside other + if other = index then 1 else 0
  contexts : ∀ other, s.outside other = 0 →
    next.ctxPool.contexts other = s.ctxPool.contexts other
  opened : next.ctxPool.contexts index = CpiContext.reset cpiId (some index) s.openings
  unreturned : next.unreturned.length ≤ s.unreturned.length
  capacity : next.outputCapacity = s.outputCapacity

theorem Settles.acquires {first second third : System} {cpiId : UInt16} {index : PoolIndex}
    (left : Settles first second) (right : Acquires second third cpiId index) :
    Acquires first third cpiId index where
  linked := right.linked
  apart := right.apart.trans left.apart
  outside other := (left.outside other).symm.trans (right.outside other)
  contexts other absent :=
    (right.contexts other ((left.outside other).trans absent)).trans (left.contexts other absent)
  opened := by
    have openings : second.openings = first.openings := by
      change second.apart.openings = first.apart.openings
      rw [left.apart]
    rw [right.opened, openings]
  unreturned := Nat.le_trans right.unreturned left.unreturned
  capacity := right.capacity.trans left.capacity

theorem acquire_eq_some {s next : System} {cpiId : UInt16} {index : PoolIndex}
    (linked : s.Linked) (acquired : s.acquire cpiId = some (index, next)) :
    Acquires s next cpiId index := by
  simp only [acquire, Option.map_eq_some_iff, Prod.exists, Prod.mk.injEq] at acquired
  obtain ⟨slot, pool, found, rfl, rfl⟩ := acquired
  obtain ⟨free, contexts, inUse⟩ := CpiContextPool.acquire_eq_some found
  have unlent : s.lentCount slot = 0 ∧ s.tokenCount slot = 0 ∧ s.slotPhase slot = .free := by
    have := linked.exclusive slot
    simp only [outside, freeCount, free, Bool.false_eq_true, if_false] at this
    exact ⟨by omega, by omega, by simp [slotPhase, free]⟩
  have outside (other : PoolIndex) : s.outside other =
      System.outside { s with
        ctxPool := pool
        slotLog := s.slotLog ++ [.acquired slot] } other + if other = slot then 1 else 0 := by
    by_cases same : other = slot
    · subst same
      simp [System.outside, freeCount, free, inUse, lentCount, tokenCount, unreturned,
        System.tokens]
      omega
    · simp [System.outside, freeCount, inUse, same, lentCount, tokenCount, unreturned,
        System.tokens]
  have others (other : PoolIndex) (different : other ≠ slot) :
      pool.contexts other = s.ctxPool.contexts other := by
    simp [contexts, different]
  refine ⟨⟨linked.running, ?_, linked.history_concat (.acquired slot) rfl ?_ ?_,
    linked.frozen_of_kept unlent.1 others fun _ old => old,
    linked.tokens_of_kept unlent.2.1 others fun _ old => old⟩, rfl, outside, ?_,
    by rw [contexts, Function.update_self], Nat.le_refl _, rfl⟩
  · intro other
    have := outside other
    have := linked.exclusive other
    omega
  · intro other named
    cases named
    have kept := unlent.1
    simp only [lentCount, unreturned] at kept
    rw [unlent.2.2]
    simp only [slotPhase, inUse, Function.update_self, lentCount, unreturned, kept, if_true,
      Bool.true_eq_false, if_false]
    rfl
  · intro other elsewhere
    have different : other ≠ slot := fun same => elsewhere (congrArg some same.symm)
    simp [slotPhase, inUse, different, lentCount, unreturned]
  · intro other absent
    refine others other fun same => ?_
    have := outside other
    rw [if_pos same] at this
    omega

/-- `acquireCtx` acquires a slot, or every slot is in use and no token waits. -/
inductive AcquireOutcome (s : System) (cpiId : UInt16) : Option PoolIndex × System → Prop where
  | acquired {index : PoolIndex} {next : System} (acquires : Acquires s next cpiId index) :
      AcquireOutcome s cpiId (some index, next)
  | exhausted {next : System} (settles : Settles s next) (drained : next.tokens = [])
      (used : ∀ index, next.ctxPool.inUse index = true) : AcquireOutcome s cpiId (none, next)

theorem AcquireOutcome.after {s middle : System} {cpiId : UInt16}
    {result : Option PoolIndex × System} (settles : Settles s middle)
    (outcome : AcquireOutcome middle cpiId result) : AcquireOutcome s cpiId result := by
  cases outcome with
  | acquired acquires => exact .acquired (settles.acquires acquires)
  | exhausted rest drained used => exact .exhausted (settles.trans rest) drained used

private theorem acquire_eq_none {s : System} {cpiId : UInt16} (failed : s.acquire cpiId = none)
    (index : PoolIndex) : s.ctxPool.inUse index = true := by
  rw [acquire, Option.map_eq_none_iff] at failed
  exact CpiContextPool.acquire_eq_none_iff.mp failed index

private theorem acquireRetry_outcome (attempts : Nat) {s : System} (cpiId : UInt16)
    (linked : s.Linked)
    (last : attempts = 0 → s.tokens = [] ∧ ∀ index, s.ctxPool.inUse index = true) :
    AcquireOutcome s cpiId (acquireRetry attempts s cpiId) := by
  induction attempts generalizing s with
  | zero => exact .exhausted (.refl linked) (last rfl).1 (last rfl).2
  | succ attempts ih =>
      obtain ⟨settled, drained⟩ := drainRecycleOnce_settles linked
      simp only [acquireRetry]
      -- the state in which the acquire is tried again
      have again : ∃ retried, Settles s retried ∧ retried.tokens = [] ∧
          (if s.drainRecycleOnce.2 = true then s.drainRecycleOnce.1
            else s.drainRecycleOnce.1.interfere.drainRecycle) = retried := by
        split
        · exact ⟨_, settled, drained, rfl⟩
        · have yielded := settled.trans (interfere_settles settled.linked)
          obtain ⟨redrained, empty⟩ := drainRecycleOnce_settles yielded.linked
          exact ⟨_, yielded.trans redrained, empty, rfl⟩
      obtain ⟨retried, settles, empty, same⟩ := again
      rw [same]
      cases result : retried.acquire cpiId with
      | some acquired =>
          obtain ⟨index, next⟩ := acquired
          exact .acquired (settles.acquires (acquire_eq_some settles.linked result))
      | none =>
          exact (ih settles.linked fun _ => ⟨empty, acquire_eq_none result⟩).after settles

theorem acquireCtx_outcome {s : System} (cpiId : UInt16) (linked : s.Linked) :
    AcquireOutcome s cpiId (s.acquireCtx cpiId) := by
  unfold acquireCtx
  cases result : s.acquire cpiId with
  | some acquired =>
      obtain ⟨index, next⟩ := acquired
      exact .acquired (acquire_eq_some linked result)
  | none => exact acquireRetry_outcome 3 cpiId linked (fun impossible => by cases impossible)

/-! ## Handing over -/

theorem setCtx_linked {s : System} {index : PoolIndex} (linked : s.Linked)
    (absent : s.outside index = 0) (ctx : CpiContext) : (s.setCtx index ctx).Linked := by
  obtain ⟨-, -, kept, waiting⟩ := linked.held_of_absent absent
  have contexts (other : PoolIndex) (different : other ≠ index) :
      (s.setCtx index ctx).ctxPool.contexts other = s.ctxPool.contexts other := by
    simp [setCtx, CpiContextPool.set, different]
  exact ⟨linked.running, linked.exclusive, linked.history,
    linked.frozen_of_kept kept contexts fun _ old => old,
    linked.tokens_of_kept waiting contexts fun _ old => old⟩

/-- Pushing an output lends the slot that it references. -/
theorem push_linked {s : System} (next : System) {pipeline pushed : OutputPipeline}
    {output : CpiOutput} {index : PoolIndex} (linked : s.Linked) (absent : s.outside index = 0)
    (named : output.poolIndex = some index) (attached : s.pipeline = some pipeline)
    (accepted : pipeline.pushOutput output = some pushed)
    (nextPipeline : next.pipeline = some pushed)
    (ctxPool : next.ctxPool = s.ctxPool) (slotLog : next.slotLog = s.slotLog ++ [.pushed output])
    (windowLog : ∀ event ∈ s.windowLog, event ∈ next.windowLog)
    (made : .produced output (s.ctxPool.contexts index) .pushed ∈ next.windowLog) :
    next.Linked ∧
      (∀ other, next.outside other = s.outside other + if other = index then 1 else 0) ∧
      next.unreturned.length = s.unreturned.length + 1 ∧
      next.outputCapacity = s.outputCapacity := by
  simp only [OutputPipeline.pushOutput, Option.map_eq_some_iff] at accepted
  obtain ⟨ring, room, rfl⟩ := accepted
  obtain ⟨items, capacity⟩ := BoundedQueue.push_eq_some room
  have perm : next.unreturned.Perm (output :: s.unreturned) := by
    simp only [unreturned, nextPipeline, attached, Option.elim_some, OutputPipeline.unreturned,
      items, List.append_assoc, List.singleton_append]
    exact List.perm_middle
  have tokens : next.tokens = s.tokens := by
    simp [System.tokens, nextPipeline, attached]
  have refers (other : PoolIndex) : output.refersTo other = decide (other = index) := by
    simp [CpiOutput.refersTo, named, Bool.beq_eq_decide_eq, eq_comm]
  have lent (other : PoolIndex) :
      next.lentCount other = s.lentCount other + if other = index then 1 else 0 := by
    rw [lentCount, perm.countP_eq, List.countP_cons, refers, lentCount]
    simp
  have outside (other : PoolIndex) :
      next.outside other = s.outside other + if other = index then 1 else 0 := by
    simp only [System.outside, freeCount, ctxPool, lent, tokenCount, tokens]
    omega
  obtain ⟨phase, used, kept, -⟩ := linked.held_of_absent absent
  refine ⟨⟨?_, linked.exclusive_of_entered absent outside, linked.history_concat _ slotLog ?_ ?_,
    ?_, ?_⟩, outside, by simpa using perm.length_eq, ?_⟩
  · intro other found
    rw [nextPipeline] at found
    cases found
    have := linked.running pipeline attached
    exact ⟨this.stop, this.looping⟩
  · intro other here
    have same : other = index := by
      simpa [SlotEvent.index, named, eq_comm] using here
    subst same
    have one := lent other
    rw [if_pos rfl, kept] at one
    rw [phase, slotPhase_lent (ctxPool ▸ used) (by omega)]
    rfl
  · intro other elsewhere
    have different : other ≠ index := by
      rintro rfl
      exact elsewhere named
    simp [slotPhase, ctxPool, lent, different]
  · intro other member
    rcases List.mem_cons.mp (perm.mem_iff.mp member) with rfl | old
    · exact ⟨index, named, by rw [ctxPool]; exact made⟩
    · obtain ⟨place, at', before⟩ := linked.frozen other old
      exact ⟨place, at', by rw [ctxPool]; exact windowLog _ before⟩
  · intro token member
    rw [tokens] at member
    obtain ⟨place, at', archived⟩ := linked.tokens token member
    exact ⟨place, at', archived.congr (by rw [ctxPool]) windowLog⟩
  · simp [outputCapacity, nextPipeline, attached, capacity]

end System

end RxTech
