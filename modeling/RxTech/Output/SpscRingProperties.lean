import RxTech.Library.Machine
import RxTech.Output.SpscRing

/-!
# The ring is a bounded queue

Behind the indices stand counters that never wrap. Each cache knows a bound on
the other side's counter that lags by less than a round, so a free slot is never
mistaken for an unread one, and the history of the ring is one of the queue.
-/

set_option autoImplicit false

namespace RxTech

/-! ## What a thread knows -/

/-- The producer's knowledge: `tailSeen` pops are known to `tail_cached_`, and a
slot is written only when it is free. -/
def PushPhase.Knows {α : Type} (size pushed popped tailSeen : Nat) (buf : Nat → α) :
    PushPhase α → Prop
  | .idle | .loadHead _ => True
  | .loadTailCached _ head | .loadTail _ head => head = pushed % size
  | .storeTailCached _ head tail held => head = pushed % size ∧
      ∃ seen, tail = seen % size ∧ tailSeen ≤ seen ∧ seen ≤ popped ∧ held = pushed - seen
  | .recheck _ head held => head = pushed % size ∧ held = pushed - tailSeen
  | .storeSlot _ head => head = pushed % size ∧ pushed + 1 < tailSeen + size
  | .storeHead value head => head = pushed % size ∧ pushed + 1 < tailSeen + size ∧ buf head = value

/-- The consumer leaves the slot alone that the producer is writing. -/
theorem PushPhase.Knows.keep {α : Type} {size pushed popped tailSeen : Nat} {buf next : Nat → α}
    {phase : PushPhase α} (knows : phase.Knows size pushed popped tailSeen buf)
    (same : next (pushed % size) = buf (pushed % size)) :
    phase.Knows size pushed popped tailSeen next := by
  cases phase with
  | storeHead value head =>
      obtain ⟨rfl, room, written⟩ := knows
      exact ⟨rfl, room, same.trans written⟩
  | idle | loadHead | loadTailCached | loadTail | storeTailCached | recheck | storeSlot => exact knows

theorem PushPhase.Knows.pop {α : Type} {size pushed popped tailSeen : Nat} {buf : Nat → α}
    {phase : PushPhase α} (knows : phase.Knows size pushed popped tailSeen buf) :
    phase.Knows size pushed (popped + 1) tailSeen buf := by
  cases phase with
  | storeTailCached value head tail held =>
      obtain ⟨here, seen, stale, later, bounded, counted⟩ := knows
      exact ⟨here, seen, stale, later, Nat.le_succ_of_le bounded, counted⟩
  | idle | loadHead | loadTailCached | loadTail | recheck | storeSlot | storeHead => exact knows

/-- The consumer's knowledge: `headSeen` pushes are known to `head_cached_`, and a
slot is taken only when it was written. -/
def PopPhase.Knows {α : Type} (size : Nat) (pushed : List α) (popped headSeen : Nat) :
    PopPhase α → Prop
  | .idle | .loadTail => True
  | .loadHeadCached tail | .loadHead tail => tail = popped % size
  | .storeHeadCached tail head held => tail = popped % size ∧
      ∃ seen, head = seen % size ∧ headSeen ≤ seen ∧ seen ≤ pushed.length ∧ held = seen - popped
  | .recheck tail held => tail = popped % size ∧ held = headSeen - popped
  | .takeSlot tail => tail = popped % size ∧ popped < headSeen
  | .storeTail tail out => tail = popped % size ∧ popped < headSeen ∧ pushed[popped]? = some out

theorem PopPhase.Knows.append {α : Type} {size popped headSeen : Nat} {pushed : List α}
    {phase : PopPhase α} (knows : phase.Knows size pushed popped headSeen) (value : α) :
    phase.Knows size (pushed ++ [value]) popped headSeen := by
  cases phase with
  | idle | loadTail => trivial
  | loadHeadCached | loadHead | recheck | takeSlot => exact knows
  | storeHeadCached tail head held =>
      obtain ⟨here, seen, stale, later, bounded, counted⟩ := knows
      refine ⟨here, seen, stale, later, ?_, counted⟩
      rw [List.length_append]
      exact Nat.le_add_right_of_le bounded
  | storeTail tail out =>
      obtain ⟨here, seen, is⟩ := knows
      have inside : popped < pushed.length := (List.getElem?_eq_some_iff.mp is).1
      exact ⟨here, seen, (List.getElem?_append_left inside).trans is⟩

/-- The consumer has moved the oldest value out of its slot. -/
def PopPhase.taken {α : Type} : PopPhase α → Bool
  | .storeTail _ _ => true
  | .idle | .loadTail | .loadHeadCached _ | .loadHead _ => false
  | .storeHeadCached _ _ _ | .recheck _ _ | .takeSlot _ => false

/-- A cache lags behind its index, but never by a round. -/
structure RingIndices (mask head tail tailCached headCached pushed popped tailSeen headSeen : Nat) :
    Prop where
  power : ∃ exponent, mask + 1 = 2 ^ exponent
  head : head = pushed % (mask + 1)
  tail : tail = popped % (mask + 1)
  tailCached : tailCached = tailSeen % (mask + 1)
  headCached : headCached = headSeen % (mask + 1)
  tailSeen_le : tailSeen ≤ popped
  popped_le : popped ≤ headSeen
  headSeen_le : headSeen ≤ pushed
  pushed_le : pushed ≤ tailSeen + mask

namespace RingMemory

variable {α : Type}

/-- Every value that was not popped is in its slot. -/
def Stored (size : Nat) (buf : Nat → α) (pushed : List α) (popped : Nat)
    (taken : Bool) : Prop :=
  ∀ index value, popped ≤ index → (taken = true → index ≠ popped) →
    pushed[index]? = some value → buf (index % size) = value

/-- The history is one of the bounded queue, which now holds what was not popped. -/
def RefinesQueue (mask : Nat) (history : List (QueueOp α)) (pushed popped : List α) : Prop :=
  ∃ queue, BoundedQueue.Replays (.empty mask) history queue ∧
    queue.items = pushed.drop popped.length

/-- What holds between any two steps of the two threads. -/
structure Coherent (ring : RingMemory α) (tailSeen headSeen : Nat) : Prop where
  indices : RingIndices ring.mask ring.head ring.tail ring.tailCached ring.headCached
    ring.pushed.length ring.popped.length tailSeen headSeen
  producer : ring.producer.Knows (ring.mask + 1) ring.pushed.length ring.popped.length tailSeen
    ring.buf
  consumer : ring.consumer.Knows (ring.mask + 1) ring.pushed ring.popped.length headSeen
  stored : Stored (ring.mask + 1) ring.buf ring.pushed ring.popped.length ring.consumer.taken
  ordered : ring.popped <+: ring.pushed
  refines : RefinesQueue ring.mask ring.history ring.pushed ring.popped
  rejected : ∀ held ∈ ring.rejected, held = ring.mask
  emptied : ∀ held ∈ ring.emptied, held = 0

variable {ring : RingMemory α} {tailSeen headSeen : Nat}

private theorem getElem?_concat {values : List α} {value other : α} {index : Nat}
    (is : (values ++ [value])[index]? = some other) :
    values[index]? = some other ∨ (index = values.length ∧ other = value) := by
  by_cases inside : index < values.length
  · rw [List.getElem?_append_left inside] at is
    exact .inl is
  · rw [List.getElem?_append_right (Nat.le_of_not_lt inside)] at is
    obtain ⟨last, same⟩ := List.getElem?_eq_some_iff.mp is
    have here : index - values.length = 0 := by simpa using last
    refine .inr ⟨by omega, ?_⟩
    simpa [here] using same.symm

theorem RefinesQueue.step {mask : Nat} {history : List (QueueOp α)} {pushed popped : List α}
    (refines : RefinesQueue mask history pushed popped) {op : QueueOp α}
    {nextPushed nextPopped : List α}
    (answers : ∀ queue : BoundedQueue α, queue.capacity = mask →
      queue.items = pushed.drop popped.length → ∃ next, queue.Answers op next ∧
        next.items = nextPushed.drop nextPopped.length) :
    RefinesQueue mask (history ++ [op]) nextPushed nextPopped := by
  obtain ⟨queue, replays, items⟩ := refines
  obtain ⟨next, answered, nextItems⟩ := answers queue replays.capacity items
  exact ⟨next, replays.step answered, nextItems⟩

/-! ## Steps inside one thread -/

theorem Coherent.producerTo (coherent : ring.Coherent tailSeen headSeen) {phase : PushPhase α}
    (knows : phase.Knows (ring.mask + 1) ring.pushed.length ring.popped.length tailSeen ring.buf) :
    Coherent { ring with producer := phase } tailSeen headSeen :=
  { coherent with producer := knows }

theorem Coherent.consumerTo (coherent : ring.Coherent tailSeen headSeen) {phase : PopPhase α}
    (knows : phase.Knows (ring.mask + 1) ring.pushed ring.popped.length headSeen)
    (taken : phase.taken = ring.consumer.taken) :
    Coherent { ring with consumer := phase } tailSeen headSeen :=
  { coherent with
    consumer := knows
    stored := taken ▸ coherent.stored }

theorem Coherent.next_mod (coherent : ring.Coherent tailSeen headSeen) (counter : Nat) :
    ring.next (counter % (ring.mask + 1)) = (counter + 1) % (ring.mask + 1) := by
  obtain ⟨exponent, power⟩ := coherent.indices.power
  exact CyclicIndex.next_eq power counter

/-- The next index meets a counter that is less than a round behind only when the
ring is full as far as that counter knows. -/
theorem Coherent.next_eq_iff (coherent : ring.Coherent tailSeen headSeen) {seen : Nat}
    (ordered : seen ≤ ring.pushed.length) (close : ring.pushed.length ≤ seen + ring.mask) :
    ring.next (ring.pushed.length % (ring.mask + 1)) = seen % (ring.mask + 1) ↔
      ring.pushed.length = seen + ring.mask := by
  rw [coherent.next_mod, CyclicIndex.succ_mod_eq_iff ordered (by omega)]
  omega

theorem Coherent.tail_eq_iff (coherent : ring.Coherent tailSeen headSeen) {seen : Nat}
    (ordered : ring.popped.length ≤ seen) (bounded : seen ≤ ring.pushed.length) :
    ring.popped.length % (ring.mask + 1) = seen % (ring.mask + 1) ↔
      ring.popped.length = seen := by
  have tailSeen_le := coherent.indices.tailSeen_le
  have pushed_le := coherent.indices.pushed_le
  exact CyclicIndex.mod_eq_iff ordered (by omega)

/-- The slot the producer writes is not the slot of a value that was not popped. -/
theorem Coherent.free_slot (coherent : ring.Coherent tailSeen headSeen)
    (room : ring.pushed.length + 1 < tailSeen + (ring.mask + 1)) {index : Nat}
    (unread : ring.popped.length ≤ index) (inside : index < ring.pushed.length) :
    index % (ring.mask + 1) ≠ ring.pushed.length % (ring.mask + 1) := by
  have tailSeen_le := coherent.indices.tailSeen_le
  intro same
  have := (CyclicIndex.mod_eq_iff (Nat.le_of_lt inside) (by omega)).mp same
  omega

/-- A refusal changes nothing but the history. -/
theorem Coherent.recording (coherent : ring.Coherent tailSeen headSeen) {op : QueueOp α}
    (pushes : op.pushedValue = none) (pops : op.poppedValue = none)
    (answers : ∀ queue : BoundedQueue α, queue.capacity = ring.mask →
      queue.items = ring.pushed.drop ring.popped.length → queue.Answers op queue) :
    Coherent { ring with history := ring.history ++ [op] } tailSeen headSeen := by
  have pushed : RingMemory.pushed { ring with history := ring.history ++ [op] } = ring.pushed := by
    simp [RingMemory.pushed, pushes]
  have popped : RingMemory.popped { ring with history := ring.history ++ [op] } = ring.popped := by
    simp [RingMemory.popped, pops]
  constructor
  · rw [pushed, popped]
    exact coherent.indices
  · rw [pushed, popped]
    exact coherent.producer
  · rw [pushed, popped]
    exact coherent.consumer
  · rw [pushed, popped]
    exact coherent.stored
  · rw [pushed, popped]
    exact coherent.ordered
  · rw [pushed, popped]
    exact coherent.refines.step fun queue capacity items =>
      ⟨queue, answers queue capacity items, items⟩
  · exact coherent.rejected
  · exact coherent.emptied

/-! ## The producer -/

theorem Coherent.loadTail (coherent : ring.Coherent tailSeen headSeen) {value : α} {head : Nat}
    (phase : ring.producer = .loadTail value head) :
    Coherent ring.producerStep tailSeen headSeen := by
  have indices := coherent.indices
  have knows := coherent.producer
  rw [phase] at knows
  obtain rfl : head = ring.pushed.length % (ring.mask + 1) := knows
  have tailSeen_le := indices.tailSeen_le
  have pushed_le := indices.pushed_le
  have popped_le := Nat.le_trans indices.popped_le indices.headSeen_le
  have loaded := coherent.producerTo
    (show PushPhase.Knows _ _ _ _ _ (.storeTailCached value _ ring.tail ring.held) from
      ⟨rfl, ring.popped.length, indices.tail, tailSeen_le, Nat.le_refl _, rfl⟩)
  have full := coherent.next_eq_iff popped_le (by omega)
  rw [← indices.tail] at full
  simp only [RingMemory.producerStep, phase]
  by_cases meets : ring.next (ring.pushed.length % (ring.mask + 1)) = ring.tail
  · rw [if_pos meets]
    refine loaded.recording rfl rfl fun queue capacity items => .rejected ?_
    have length := full.mp meets
    have itemsLength : queue.items.length = ring.pushed.length - ring.popped.length := by
      rw [items]
      exact List.length_drop
    have bound : queue.capacity = ring.mask := capacity
    rw [BoundedQueue.push_eq_none_iff]
    omega
  · rw [if_neg meets, List.append_nil]
    exact loaded

theorem Coherent.storeTailCached (coherent : ring.Coherent tailSeen headSeen) {value : α}
    {head tail held : Nat} (phase : ring.producer = .storeTailCached value head tail held) :
    ∃ seen, Coherent ring.producerStep seen headSeen := by
  have indices := coherent.indices
  have knows := coherent.producer
  rw [phase] at knows
  obtain ⟨here, seen, stale, later, bounded, counted⟩ := knows
  have pushed_le : ring.pushed.length ≤ seen + ring.mask := by
    have := indices.pushed_le
    omega
  simp only [RingMemory.producerStep, phase]
  exact ⟨seen, { coherent with
    indices := { indices with tailCached := stale, tailSeen_le := bounded, pushed_le }
    producer := ⟨here, counted⟩ }⟩

theorem Coherent.recheckPush (coherent : ring.Coherent tailSeen headSeen) {value : α}
    {head held : Nat} (phase : ring.producer = .recheck value head held) :
    Coherent ring.producerStep tailSeen headSeen := by
  have indices := coherent.indices
  have knows := coherent.producer
  rw [phase] at knows
  obtain ⟨rfl, counted⟩ := knows
  have tailSeen_le := indices.tailSeen_le
  have pushed_le := indices.pushed_le
  have popped_le := Nat.le_trans indices.popped_le indices.headSeen_le
  have full := coherent.next_eq_iff (Nat.le_trans tailSeen_le popped_le) pushed_le
  rw [← indices.tailCached] at full
  simp only [RingMemory.producerStep, phase]
  split
  · rename_i meets
    have wasFull : held = ring.mask := by
      have := full.mp meets
      omega
    have idle : Coherent { ring with producer := .idle } tailSeen headSeen :=
      coherent.producerTo trivial
    refine { idle with rejected := fun other member => ?_ }
    rcases List.mem_append.mp member with old | new
    · exact coherent.rejected other old
    · exact (List.mem_singleton.mp new).trans wasFull
  · rename_i apart
    have room : ring.pushed.length ≠ tailSeen + ring.mask := fun length => apart (full.mpr length)
    exact coherent.producerTo ⟨rfl, by omega⟩

theorem Coherent.storeSlot (coherent : ring.Coherent tailSeen headSeen) {value : α} {head : Nat}
    (phase : ring.producer = .storeSlot value head) :
    Coherent ring.producerStep tailSeen headSeen := by
  have knows := coherent.producer
  rw [phase] at knows
  obtain ⟨rfl, room⟩ := knows
  have stored : Stored (ring.mask + 1)
      (Function.update ring.buf (ring.pushed.length % (ring.mask + 1)) value) ring.pushed
      ring.popped.length ring.consumer.taken := by
    intro index other unread taken is
    have inside : index < ring.pushed.length := (List.getElem?_eq_some_iff.mp is).1
    rw [Function.update_of_ne (coherent.free_slot room unread inside)]
    exact coherent.stored index other unread taken is
  simp only [RingMemory.producerStep, phase]
  exact { coherent with
    producer := ⟨rfl, room, Function.update_self ..⟩
    stored }

theorem Coherent.storeHead (coherent : ring.Coherent tailSeen headSeen) {value : α} {head : Nat}
    (phase : ring.producer = .storeHead value head) :
    Coherent ring.producerStep tailSeen headSeen := by
  have indices := coherent.indices
  have knows := coherent.producer
  rw [phase] at knows
  obtain ⟨rfl, room, written⟩ := knows
  have tailSeen_le := indices.tailSeen_le
  have headSeen_le := indices.headSeen_le
  have popped_le := Nat.le_trans indices.popped_le headSeen_le
  have pushed_le : ring.pushed.length + 1 ≤ tailSeen + ring.mask := by omega
  let after : RingMemory α := { ring with
    head := ring.next (ring.pushed.length % (ring.mask + 1))
    producer := .idle
    history := ring.history ++ [.pushed value] }
  have pushed : after.pushed = ring.pushed ++ [value] := by
    simp [RingMemory.pushed, after, QueueOp.pushedValue]
  have popped : after.popped = ring.popped := by
    simp [RingMemory.popped, after, QueueOp.poppedValue]
  have length : after.pushed.length = ring.pushed.length + 1 := by
    rw [pushed, List.length_append]
    rfl
  have moved : after = ring.producerStep := by
    simp only [RingMemory.producerStep, phase, after]
  rw [← moved]
  constructor
  · rw [length, popped]
    exact { indices with
      head := coherent.next_mod _
      headSeen_le := Nat.le_succ_of_le headSeen_le
      pushed_le }
  · trivial
  · rw [pushed, popped]
    exact coherent.consumer.append value
  · rw [pushed, popped]
    intro index other unread taken is
    rcases getElem?_concat is with old | ⟨rfl, rfl⟩
    · exact coherent.stored index other unread taken old
    · exact written
  · rw [pushed, popped]
    exact coherent.ordered.trans (List.prefix_append _ _)
  · rw [pushed, popped]
    refine coherent.refines.step fun queue capacity items => ?_
    have itemsLength : queue.items.length = ring.pushed.length - ring.popped.length := by
      rw [items]
      exact List.length_drop
    obtain ⟨next, accepted, nextItems, -⟩ := queue.push_of_room value (by omega)
    refine ⟨next, .pushed accepted, ?_⟩
    rw [nextItems, items, List.drop_append_of_le_length popped_le]
  · exact coherent.rejected
  · exact coherent.emptied

theorem Coherent.producerStep (coherent : ring.Coherent tailSeen headSeen) :
    ∃ seen, Coherent ring.producerStep seen headSeen := by
  have indices := coherent.indices
  cases phase : ring.producer with
  | idle =>
      simp only [RingMemory.producerStep, phase]
      exact ⟨tailSeen, coherent⟩
  | loadHead value =>
      simp only [RingMemory.producerStep, phase]
      exact ⟨tailSeen, coherent.producerTo indices.head⟩
  | loadTailCached value head =>
      have knows := coherent.producer
      rw [phase] at knows
      obtain rfl : head = ring.pushed.length % (ring.mask + 1) := knows
      have pushed_le := indices.pushed_le
      have ordered := Nat.le_trans indices.tailSeen_le
        (Nat.le_trans indices.popped_le indices.headSeen_le)
      have full := coherent.next_eq_iff ordered pushed_le
      rw [← indices.tailCached] at full
      simp only [RingMemory.producerStep, phase]
      refine ⟨tailSeen, coherent.producerTo ?_⟩
      split
      · rfl
      · rename_i apart
        have room : ring.pushed.length ≠ tailSeen + ring.mask :=
          fun length => apart (full.mpr length)
        exact ⟨rfl, by omega⟩
  | loadTail value head => exact ⟨tailSeen, coherent.loadTail phase⟩
  | storeTailCached value head tail held => exact coherent.storeTailCached phase
  | recheck value head held => exact ⟨tailSeen, coherent.recheckPush phase⟩
  | storeSlot value head => exact ⟨tailSeen, coherent.storeSlot phase⟩
  | storeHead value head => exact ⟨tailSeen, coherent.storeHead phase⟩

/-! ## The consumer -/

theorem Coherent.loadHead (coherent : ring.Coherent tailSeen headSeen) {tail : Nat}
    (movedFrom : α → α) (phase : ring.consumer = .loadHead tail) :
    Coherent (ring.consumerStep movedFrom) tailSeen headSeen := by
  have indices := coherent.indices
  have knows := coherent.consumer
  rw [phase] at knows
  obtain rfl : tail = ring.popped.length % (ring.mask + 1) := knows
  have ordered := Nat.le_trans indices.popped_le indices.headSeen_le
  have loaded : Coherent { ring with
      consumer := .storeHeadCached (ring.popped.length % (ring.mask + 1)) ring.head ring.held }
      tailSeen headSeen :=
    coherent.consumerTo
      ⟨rfl, ring.pushed.length, indices.head, indices.headSeen_le, Nat.le_refl _, rfl⟩
      (by rw [phase]; rfl)
  have empty := coherent.tail_eq_iff ordered (Nat.le_refl _)
  rw [← indices.head] at empty
  simp only [RingMemory.consumerStep, phase]
  by_cases meets : ring.popped.length % (ring.mask + 1) = ring.head
  · rw [if_pos meets]
    refine loaded.recording rfl rfl fun queue capacity items => .empty ?_
    have items' : queue.items = ring.pushed.drop ring.popped.length := items
    rw [BoundedQueue.pop_eq_none_iff, items', empty.mp meets]
    exact List.drop_length
  · rw [if_neg meets, List.append_nil]
    exact loaded

theorem Coherent.storeHeadCached (coherent : ring.Coherent tailSeen headSeen)
    {tail head held : Nat} (movedFrom : α → α)
    (phase : ring.consumer = .storeHeadCached tail head held) :
    ∃ seen, Coherent (ring.consumerStep movedFrom) tailSeen seen := by
  have indices := coherent.indices
  have knows := coherent.consumer
  have stored := coherent.stored
  rw [phase] at knows stored
  obtain ⟨here, seen, stale, later, bounded, counted⟩ := knows
  simp only [RingMemory.consumerStep, phase]
  exact ⟨seen, { coherent with
    indices := { indices with
      headCached := stale
      popped_le := Nat.le_trans indices.popped_le later
      headSeen_le := bounded }
    consumer := ⟨here, counted⟩
    stored }⟩

theorem Coherent.recheckPop (coherent : ring.Coherent tailSeen headSeen) {tail held : Nat}
    (movedFrom : α → α) (phase : ring.consumer = .recheck tail held) :
    Coherent (ring.consumerStep movedFrom) tailSeen headSeen := by
  have indices := coherent.indices
  have knows := coherent.consumer
  rw [phase] at knows
  obtain ⟨rfl, counted⟩ := knows
  have popped_le := indices.popped_le
  have empty := coherent.tail_eq_iff popped_le indices.headSeen_le
  rw [← indices.headCached] at empty
  simp only [RingMemory.consumerStep, phase]
  split
  · rename_i meets
    have wasEmpty : held = 0 := by
      have := empty.mp meets
      omega
    have idle : Coherent { ring with consumer := .idle } tailSeen headSeen :=
      coherent.consumerTo trivial (by rw [phase]; rfl)
    refine { idle with emptied := fun other member => ?_ }
    rcases List.mem_append.mp member with old | new
    · exact coherent.emptied other old
    · exact (List.mem_singleton.mp new).trans wasEmpty
  · rename_i apart
    have some : ring.popped.length ≠ headSeen := fun same => apart (empty.mpr same)
    exact coherent.consumerTo ⟨rfl, by omega⟩ (by rw [phase]; rfl)

theorem Coherent.takeSlot (coherent : ring.Coherent tailSeen headSeen) {tail : Nat}
    (movedFrom : α → α) (phase : ring.consumer = .takeSlot tail) :
    Coherent (ring.consumerStep movedFrom) tailSeen headSeen := by
  have indices := coherent.indices
  have knows := coherent.consumer
  have stored := coherent.stored
  rw [phase] at knows stored
  obtain ⟨rfl, written⟩ := knows
  have tailSeen_le := indices.tailSeen_le
  have headSeen_le := indices.headSeen_le
  have pushed_le := indices.pushed_le
  have inside : ring.popped.length < ring.pushed.length := by omega
  have front : ring.pushed[ring.popped.length]? =
      some (ring.buf (ring.popped.length % (ring.mask + 1))) := by
    rw [List.getElem?_eq_getElem inside]
    exact congrArg some (stored _ _ (Nat.le_refl _) (fun taken => nomatch taken)
      (List.getElem?_eq_getElem inside)).symm
  -- the slot is not that of a later value, and not the one being written
  have apart {index : Nat} (later : ring.popped.length < index)
      (bounded : index ≤ ring.pushed.length) :
      index % (ring.mask + 1) ≠ ring.popped.length % (ring.mask + 1) := by
    intro same
    have := (CyclicIndex.mod_eq_iff (Nat.le_of_lt later) (by omega)).mp same.symm
    omega
  have kept : Stored (ring.mask + 1) (Function.update ring.buf
      (ring.popped.length % (ring.mask + 1))
      (movedFrom (ring.buf (ring.popped.length % (ring.mask + 1))))) ring.pushed
      ring.popped.length true := by
    intro index value unread taken is
    have bounded : index < ring.pushed.length := (List.getElem?_eq_some_iff.mp is).1
    have later : ring.popped.length < index := Nat.lt_of_le_of_ne unread (taken rfl).symm
    rw [Function.update_of_ne (apart later (Nat.le_of_lt bounded))]
    exact stored index value unread (fun impossible => nomatch impossible) is
  have producer : ring.producer.Knows (ring.mask + 1) ring.pushed.length ring.popped.length tailSeen
      (Function.update ring.buf (ring.popped.length % (ring.mask + 1))
        (movedFrom (ring.buf (ring.popped.length % (ring.mask + 1))))) := by
    refine coherent.producer.keep ?_
    exact Function.update_of_ne (apart inside (Nat.le_refl _)) _ _
  simp only [RingMemory.consumerStep, phase]
  exact { coherent with
    producer
    consumer := ⟨rfl, written, front⟩
    stored := kept }

theorem Coherent.storeTail (coherent : ring.Coherent tailSeen headSeen) {tail : Nat} {out : α}
    (movedFrom : α → α) (phase : ring.consumer = .storeTail tail out) :
    Coherent (ring.consumerStep movedFrom) tailSeen headSeen := by
  have indices := coherent.indices
  have knows := coherent.consumer
  have stored := coherent.stored
  rw [phase] at knows stored
  obtain ⟨rfl, written, front⟩ := knows
  have tailSeen_le := indices.tailSeen_le
  have headSeen_le := indices.headSeen_le
  let after : RingMemory α := { ring with
    tail := ring.next (ring.popped.length % (ring.mask + 1))
    consumer := .idle
    history := ring.history ++ [.popped out] }
  have pushed : after.pushed = ring.pushed := by
    simp [RingMemory.pushed, after, QueueOp.pushedValue]
  have popped : after.popped = ring.popped ++ [out] := by
    simp [RingMemory.popped, after, QueueOp.poppedValue]
  have length : after.popped.length = ring.popped.length + 1 := by
    rw [popped, List.length_append]
    rfl
  have moved : after = ring.consumerStep movedFrom := by
    simp only [RingMemory.consumerStep, phase, after]
  obtain ⟨inside, is⟩ := List.getElem?_eq_some_iff.mp front
  have rest : ring.pushed.drop ring.popped.length =
      out :: ring.pushed.drop (ring.popped.length + 1) := by
    rw [← is]
    exact List.drop_eq_getElem_cons inside
  rw [← moved]
  constructor
  · rw [length, pushed]
    exact { indices with
      tail := coherent.next_mod _
      tailSeen_le := Nat.le_succ_of_le tailSeen_le
      popped_le := written }
  · rw [length, pushed]
    exact coherent.producer.pop
  · trivial
  · rw [length, pushed]
    intro index value unread taken found
    exact stored index value (Nat.le_of_succ_le unread) (fun _ => by omega) found
  · rw [popped, pushed]
    have shape : ring.pushed = ring.popped ++ out :: ring.pushed.drop (ring.popped.length + 1) := by
      rw [← rest]
      exact (List.prefix_iff_eq_append.mp coherent.ordered).symm
    refine ⟨ring.pushed.drop (ring.popped.length + 1), ?_⟩
    rw [List.append_assoc]
    exact shape.symm
  · refine coherent.refines.step fun queue capacity items => ?_
    obtain ⟨next, popped', nextItems, -⟩ := BoundedQueue.pop_of_cons (items.trans rest)
    refine ⟨next, .popped popped', ?_⟩
    rw [nextItems, pushed, length]
  · exact coherent.rejected
  · exact coherent.emptied

theorem Coherent.consumerStep (coherent : ring.Coherent tailSeen headSeen) (movedFrom : α → α) :
    ∃ seen, Coherent (ring.consumerStep movedFrom) tailSeen seen := by
  have indices := coherent.indices
  cases phase : ring.consumer with
  | idle =>
      simp only [RingMemory.consumerStep, phase]
      exact ⟨headSeen, coherent⟩
  | loadTail =>
      simp only [RingMemory.consumerStep, phase]
      exact ⟨headSeen, coherent.consumerTo indices.tail (by rw [phase]; rfl)⟩
  | loadHeadCached tail =>
      have knows := coherent.consumer
      rw [phase] at knows
      obtain rfl : tail = ring.popped.length % (ring.mask + 1) := knows
      have popped_le := indices.popped_le
      have empty := coherent.tail_eq_iff popped_le indices.headSeen_le
      rw [← indices.headCached] at empty
      simp only [RingMemory.consumerStep, phase]
      refine ⟨headSeen, coherent.consumerTo ?_ ?_⟩
      · split
        · rfl
        · rename_i apart
          have some : ring.popped.length ≠ headSeen := fun same => apart (empty.mpr same)
          exact ⟨rfl, by omega⟩
      · rw [phase]
        split <;> rfl
  | loadHead tail => exact ⟨headSeen, coherent.loadHead movedFrom phase⟩
  | storeHeadCached tail head held => exact coherent.storeHeadCached movedFrom phase
  | recheck tail held => exact ⟨headSeen, coherent.recheckPop movedFrom phase⟩
  | takeSlot tail => exact ⟨headSeen, coherent.takeSlot movedFrom phase⟩
  | storeTail tail out => exact ⟨headSeen, coherent.storeTail movedFrom phase⟩

theorem Coherent.step (coherent : ring.Coherent tailSeen headSeen) (movedFrom : α → α)
    (label : RingStep α) :
    ∃ tailSeen' headSeen', Coherent (ring.step movedFrom label) tailSeen' headSeen' := by
  cases label with
  | producer =>
      obtain ⟨seen, stepped⟩ := coherent.producerStep
      exact ⟨seen, headSeen, stepped⟩
  | consumer =>
      obtain ⟨seen, stepped⟩ := coherent.consumerStep movedFrom
      exact ⟨tailSeen, seen, stepped⟩
  | callPush value =>
      refine ⟨tailSeen, headSeen, ?_⟩
      simp only [RingMemory.step]
      split
      · exact coherent.producerTo trivial
      · exact coherent
  | callPop =>
      refine ⟨tailSeen, headSeen, ?_⟩
      simp only [RingMemory.step]
      split
      · rename_i idle
        exact coherent.consumerTo trivial (by rw [idle]; rfl)
      · exact coherent

private theorem growSlots_two_pow {cap wanted start : Nat} (power : cap = 2 ^ start) :
    ∃ final, growSlots cap wanted = 2 ^ final := by
  fun_induction growSlots cap wanted generalizing start with
  | case1 cap grows ih => exact @ih (start + 1) (by rw [power, Nat.pow_succ, Nat.mul_comm])
  | case2 cap stops => exact ⟨start, power⟩

private theorem new_coherent [Inhabited α] (minCapacity : Nat) :
    Coherent (new minCapacity : RingMemory α) 0 0 := by
  obtain ⟨exponent, power⟩ := @growSlots_two_pow 2 (minCapacity + 1) 1 rfl
  have size : growSlots 2 (minCapacity + 1) - 1 + 1 = 2 ^ exponent := by
    have := Nat.two_pow_pos exponent
    omega
  exact
    { indices := ⟨⟨exponent, size⟩, (Nat.zero_mod _).symm, (Nat.zero_mod _).symm,
        (Nat.zero_mod _).symm, (Nat.zero_mod _).symm, Nat.le_refl 0, Nat.le_refl 0, Nat.le_refl 0,
        Nat.zero_le _⟩
      producer := trivial
      consumer := trivial
      stored := fun _ _ _ _ impossible => nomatch impossible
      ordered := List.prefix_rfl
      refines := ⟨_, .start, rfl⟩
      rejected := fun _ impossible => nomatch impossible
      emptied := fun _ impossible => nomatch impossible }

private theorem run_coherent [Inhabited α] (movedFrom : α → α) (minCapacity : Nat)
    (steps : List (RingStep α)) :
    ∃ tailSeen headSeen,
      Coherent (Machine.run (step movedFrom) steps (new minCapacity)) tailSeen headSeen := by
  have preserved : ∀ (ring : RingMemory α) label,
      (∃ tailSeen headSeen, Coherent ring tailSeen headSeen) →
      ∃ tailSeen headSeen, Coherent (ring.step movedFrom label) tailSeen headSeen := by
    rintro ring label ⟨tailSeen, headSeen, coherent⟩
    exact coherent.step movedFrom label
  exact Machine.run_invariant_of_step preserved steps ⟨0, 0, new_coherent minCapacity⟩

private theorem step_mask (movedFrom : α → α) (label : RingStep α) (ring : RingMemory α) :
    (ring.step movedFrom label).mask = ring.mask := by
  cases label with
  | callPush | callPop =>
      simp only [step]
      split <;> rfl
  | producer =>
      simp only [step, RingMemory.producerStep]
      cases ring.producer with
      | recheck =>
          simp only
          split <;> rfl
      | idle | loadHead | loadTailCached | loadTail | storeTailCached | storeSlot | storeHead => rfl
  | consumer =>
      simp only [step, RingMemory.consumerStep]
      cases ring.consumer with
      | recheck =>
          simp only
          split <;> rfl
      | idle | loadTail | loadHeadCached | loadHead | storeHeadCached | takeSlot | storeTail => rfl

private theorem run_mask (movedFrom : α → α) (steps : List (RingStep α)) (ring : RingMemory α) :
    (Machine.run (step movedFrom) steps ring).mask = ring.mask := by
  have preserved : ∀ (other : RingMemory α) label, other.mask = ring.mask →
      (other.step movedFrom label).mask = ring.mask :=
    fun other label same => (step_mask movedFrom label other).trans same
  exact @Machine.run_invariant_of_step _ _ _ (fun other => other.mask = ring.mask) preserved steps
    ring rfl

end RingMemory

/-- Whatever the interleaving, the history of the ring is one of the bounded queue
with its capacity: the popped values are a prefix of the pushed ones, the queue
holds the rest, each in its slot unless it is just being taken, and no slot that
is about to be written is one of theirs. A push fails only on a ring that was full
when it loaded `tail_`, a pop only on one that was empty when it loaded `head_`. -/
theorem spsc_ring_refines_bounded_queue {α : Type} [Inhabited α] (movedFrom : α → α)
    (minCapacity : Nat) (steps : List (RingStep α)) :
    let ring := Machine.run (RingMemory.step movedFrom) steps (RingMemory.new minCapacity)
    (∃ queue, BoundedQueue.Replays (SpscRing.new minCapacity) ring.history queue ∧
        queue.capacity = ring.capacity ∧ queue.items = ring.pushed.drop ring.popped.length) ∧
      ring.popped <+: ring.pushed ∧
      ring.held ≤ ring.capacity ∧
      (∀ index value, ring.popped.length ≤ index →
        (ring.consumer.taken = true → index ≠ ring.popped.length) →
        ring.pushed[index]? = some value → ring.buf (index % (ring.capacity + 1)) = value) ∧
      (∀ value slot, ring.producer = .storeSlot value slot → ∀ index, ring.popped.length ≤ index →
        index < ring.pushed.length → index % (ring.capacity + 1) ≠ slot) ∧
      (∀ held ∈ ring.rejected, held = ring.capacity) ∧
      ∀ held ∈ ring.emptied, held = 0 := by
  intro ring
  obtain ⟨tailSeen, headSeen, coherent⟩ := RingMemory.run_coherent movedFrom minCapacity steps
  have mask : ring.mask = growSlots 2 (minCapacity + 1) - 1 :=
    RingMemory.run_mask movedFrom steps _
  obtain ⟨queue, replays, items⟩ := coherent.refines
  have tailSeen_le := coherent.indices.tailSeen_le
  have pushed_le := coherent.indices.pushed_le
  refine ⟨⟨queue, ?_, replays.capacity, items⟩, coherent.ordered, ?_, coherent.stored, ?_,
    coherent.rejected, coherent.emptied⟩
  · rw [SpscRing.new, ← mask]
    exact replays
  · have bounded : ring.pushed.length ≤ tailSeen + ring.mask := pushed_le
    have seen : tailSeen ≤ ring.popped.length := tailSeen_le
    simp only [RingMemory.held, RingMemory.capacity]
    omega
  · intro value slot writing index unread inside
    have knows := coherent.producer
    rw [writing] at knows
    obtain ⟨rfl, room⟩ := knows
    exact coherent.free_slot room unread inside

end RxTech
