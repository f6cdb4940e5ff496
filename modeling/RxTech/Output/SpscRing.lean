import RxTech.Library.CyclicIndex
import RxTech.Output.Pipeline
import Mathlib.Logic.Function.Basic

/-!
# The ring, load by load

`SpscRing::push` and `SpscRing::pop` as their producer and consumer execute
them, one load or store of a shared or private member at a time, in any
sequentially consistent interleaving.
-/

set_option autoImplicit false

namespace RxTech

/-- Where the producer stands in `push`. `held` is history: how many elements the
ring held when `tail_` was loaded. -/
inductive PushPhase (α : Type) where
  | idle
  | loadHead (value : α)
  | loadTailCached (value : α) (head : Nat)
  | loadTail (value : α) (head : Nat)
  | storeTailCached (value : α) (head tail held : Nat)
  | recheck (value : α) (head held : Nat)
  | storeSlot (value : α) (head : Nat)
  | storeHead (value : α) (head : Nat)

/-- Where the consumer stands in `pop`. -/
inductive PopPhase (α : Type) where
  | idle
  | loadTail
  | loadHeadCached (tail : Nat)
  | loadHead (tail : Nat)
  | storeHeadCached (tail head held : Nat)
  | recheck (tail held : Nat)
  | takeSlot (tail : Nat)
  | storeTail (tail : Nat) (out : α)

/-- The members of `SpscRing` and its two threads. The rest is history: the
operations at the points where they take effect, and for every call that
returned false how many elements the ring held at the load that decided it. -/
structure RingMemory (α : Type) where
  mask : Nat
  buf : Nat → α
  head : Nat := 0
  tailCached : Nat := 0
  tail : Nat := 0
  headCached : Nat := 0
  producer : PushPhase α := .idle
  consumer : PopPhase α := .idle
  history : List (QueueOp α) := []
  rejected : List Nat := []
  emptied : List Nat := []

/-- Calls, and steps of the thread that is in a call. -/
inductive RingStep (α : Type) where
  | callPush (value : α)
  | producer
  | callPop
  | consumer

namespace RingMemory

variable {α : Type}

/-- `SpscRing(min_capacity)`. -/
def new [Inhabited α] (minCapacity : Nat) : RingMemory α :=
  { mask := growSlots 2 (minCapacity + 1) - 1, buf := fun _ => default }

/-- `capacity()`, that is `capacity_ - 1`: one slot stays unused. -/
def capacity (ring : RingMemory α) : Nat := ring.mask

/-- The values that were pushed successfully. -/
def pushed (ring : RingMemory α) : List α := ring.history.filterMap QueueOp.pushedValue

/-- The values that were popped. -/
def popped (ring : RingMemory α) : List α := ring.history.filterMap QueueOp.poppedValue

/-- The number of elements in the ring. -/
def held (ring : RingMemory α) : Nat := ring.pushed.length - ring.popped.length

def next (ring : RingMemory α) (index : Nat) : Nat := (index + 1) &&& ring.mask

def producerStep (ring : RingMemory α) : RingMemory α :=
  match ring.producer with
  | .idle => ring
  | .loadHead value => { ring with producer := .loadTailCached value ring.head }
  | .loadTailCached value head =>
      { ring with
        producer := if ring.next head = ring.tailCached then .loadTail value head
          else .storeSlot value head }
  | .loadTail value head =>
      { ring with
        producer := .storeTailCached value head ring.tail ring.held
        history := ring.history ++ if ring.next head = ring.tail then [.rejected value] else [] }
  | .storeTailCached value head tail held =>
      { ring with tailCached := tail, producer := .recheck value head held }
  | .recheck value head held =>
      if ring.next head = ring.tailCached then
        { ring with producer := .idle, rejected := ring.rejected ++ [held] }
      else { ring with producer := .storeSlot value head }
  | .storeSlot value head =>
      { ring with buf := Function.update ring.buf head value, producer := .storeHead value head }
  | .storeHead value head =>
      { ring with
        head := ring.next head
        producer := .idle
        history := ring.history ++ [.pushed value] }

/-- `movedFrom` is what moving out of a slot leaves in it. -/
def consumerStep (movedFrom : α → α) (ring : RingMemory α) : RingMemory α :=
  match ring.consumer with
  | .idle => ring
  | .loadTail => { ring with consumer := .loadHeadCached ring.tail }
  | .loadHeadCached tail =>
      { ring with
        consumer := if tail = ring.headCached then .loadHead tail else .takeSlot tail }
  | .loadHead tail =>
      { ring with
        consumer := .storeHeadCached tail ring.head ring.held
        history := ring.history ++ if tail = ring.head then [.empty] else [] }
  | .storeHeadCached tail head held =>
      { ring with headCached := head, consumer := .recheck tail held }
  | .recheck tail held =>
      if tail = ring.headCached then
        { ring with consumer := .idle, emptied := ring.emptied ++ [held] }
      else { ring with consumer := .takeSlot tail }
  | .takeSlot tail =>
      { ring with
        buf := Function.update ring.buf tail (movedFrom (ring.buf tail))
        consumer := .storeTail tail (ring.buf tail) }
  | .storeTail tail out =>
      { ring with
        tail := ring.next tail
        consumer := .idle
        history := ring.history ++ [.popped out] }

/-- A thread that is still in a call takes no new one. -/
def step (movedFrom : α → α) (label : RingStep α) (ring : RingMemory α) : RingMemory α :=
  match label with
  | .callPush value =>
      match ring.producer with
      | .idle => { ring with producer := .loadHead value }
      | _ => ring
  | .producer => ring.producerStep
  | .callPop =>
      match ring.consumer with
      | .idle => { ring with consumer := .loadTail }
      | _ => ring
  | .consumer => ring.consumerStep movedFrom

end RingMemory

end RxTech
