import RxTech.Core.ConsumerIndependence
import RxTech.Core.Delivery

/-!
# Output ids

The outputs that go to the ring are numbered from one, so an output that was
pushed is known from its place among them and what is left of it without its id.
-/

set_option autoImplicit false

namespace RxTech

/-- The output that was given an id. -/
def WindowEvent.issuedOutput : WindowEvent → Option CpiOutput
  | .produced output _ .pushed | .produced output _ .dropped => some output
  | .produced _ _ .detached | .opened _ | .stored _ _ | .rebound _ | .discarded _ => none

def issuedOutputs (log : List WindowEvent) : List CpiOutput :=
  log.filterMap WindowEvent.issuedOutput

private theorem issuedOutputs_append (first second : List WindowEvent) :
    issuedOutputs (first ++ second) = issuedOutputs first ++ issuedOutputs second :=
  List.filterMap_append

namespace Windows

/-- The ids given out so far are 1, 2, …, in order. -/
structure Numbered (w : Windows) : Prop where
  ids : (issuedOutputs w.log).map CpiOutput.outputId =
    List.range' 1 (issuedOutputs w.log).length
  next : w.nextOutputId = (issuedOutputs w.log).length + 1

variable {spec : ProtocolSpec} {w : Windows}

theorem Numbered.quiet (numbered : w.Numbered) {next : Windows} {events : List WindowEvent}
    (log : next.log = w.log ++ events) (silent : issuedOutputs events = [])
    (nextOutputId : next.nextOutputId = w.nextOutputId) : next.Numbered := by
  have same : issuedOutputs next.log = issuedOutputs w.log := by
    rw [log, issuedOutputs_append, silent, List.append_nil]
  constructor
  · rw [same]
    exact numbered.ids
  · rw [same, nextOutputId]
    exact numbered.next

theorem Numbered.record (numbered : w.Numbered) (output : CpiOutput) (ctx : CpiContext)
    (delivery : Delivery) : (w.record output ctx delivery).Numbered := by
  cases delivery with
  | detached => exact numbered.quiet rfl rfl rfl
  | pushed | dropped =>
      have issued (delivery : Delivery) (issues : WindowEvent.issuedOutput
          (.produced { output with outputId := w.nextOutputId } ctx delivery) =
            some { output with outputId := w.nextOutputId }) :
          issuedOutputs (w.log ++ [.produced { output with outputId := w.nextOutputId } ctx
            delivery]) = issuedOutputs w.log ++ [{ output with outputId := w.nextOutputId }] := by
        rw [issuedOutputs_append]
        exact congrArg (issuedOutputs w.log ++ ·) (by simp [issuedOutputs, issues])
      constructor
      · rw [Windows.record, issued _ rfl, List.map_append, numbered.ids, List.length_append,
          List.length_singleton, List.range'_1_concat, numbered.next, Nat.add_comm 1]
        rfl
      · rw [Windows.record, issued _ rfl, List.length_append, List.length_singleton,
          numbered.next]

theorem Numbered.close (numbered : w.Numbered) (ctx : CpiContext) (trigger : Nat)
    (closing : Closing) : (w.close ctx trigger closing).Numbered := by
  simp only [Windows.close]
  cases CpiFinalizer.tryFinalize ctx trigger closing.sealTsc with
  | none => exact numbered.quiet rfl rfl rfl
  | some result =>
      refine Numbered.record ?_ result.2 result.1 closing.delivery
      exact numbered.quiet (List.append_nil _).symm rfl rfl

theorem Numbered.closeActive (numbered : w.Numbered) (trigger : Nat) (closing : Closing) :
    (w.closeActive trigger closing).Numbered := by
  simp only [Windows.closeActive]
  cases w.active with
  | none => exact numbered
  | some ctx =>
      exact (numbered.close ctx trigger closing).quiet (List.append_nil _).symm rfl rfl

theorem Numbered.closePrevious (numbered : w.Numbered) (trigger : Nat) (closing : Closing) :
    (w.closePrevious trigger closing).Numbered := by
  simp only [Windows.closePrevious]
  cases w.previous with
  | none => exact numbered
  | some ctx =>
      exact (numbered.close ctx trigger closing).quiet (List.append_nil _).symm rfl rfl

theorem Numbered.move {op : Op} {start before after : Windows}
    (move : Move spec op start before after) (numbered : before.Numbered) : after.Numbered := by
  cases move with
  | judged | staged | shifted | repeatedActive | repeatedPrevious =>
      exact numbered.quiet (List.append_nil _).symm rfl rfl
  | reboundActive | reboundPrevious | discardedPrevious | discardedActive | opened | storedActive
  | storedPrevious => exact numbered.quiet rfl rfl rfl
  | committedPrevious active previous parsed packet closing =>
      exact numbered.closePrevious triggerCpiSwitch closing
  | filledActive ctx parsed packet bytes closing =>
      refine Numbered.closeActive ?_ _ closing
      exact numbered.quiet rfl rfl rfl

end Windows

/-! ## Outputs without slots and seal times -/

/-- A pushed output without its slot and seal time, and the context likewise. -/
def unplaced (pushed : CpiOutput × CpiContext) : CpiOutput × CpiContext :=
  ({ pushed.1 with poolIndex := none, sealTsc := 0 }, pushed.2.anonymous)

/-- Every output went to the ring and found room. -/
def AllPushed (log : List WindowEvent) : Prop :=
  deliveries .dropped log = 0 ∧ deliveries .detached log = 0

theorem AllPushed.delivery {log : List WindowEvent} (all : AllPushed log) {output : CpiOutput}
    {ctx : CpiContext} {delivery : Delivery} (member : .produced output ctx delivery ∈ log) :
    delivery = .pushed := by
  cases delivery with
  | pushed => rfl
  | dropped => exact absurd rfl (List.countP_eq_zero.mp all.1 _ member)
  | detached => exact absurd rfl (List.countP_eq_zero.mp all.2 _ member)

theorem AllPushed.anonymous {log : List WindowEvent} (all : AllPushed log) :
    pushedWith (log.map WindowEvent.anonymous) =
      (pushedWith log).map fun pushed => (pushed.1.anonymous, pushed.2.anonymous) := by
  rw [pushedWith, pushedWith, List.filterMap_map, List.map_filterMap]
  refine List.filterMap_congr fun event member => ?_
  cases event with
  | opened | stored | rebound | discarded => rfl
  | produced output ctx delivery =>
      rw [all.delivery member]
      rfl

theorem AllPushed.issued {log : List WindowEvent} (all : AllPushed log) :
    issuedOutputs log = (pushedWith log).map Prod.fst := by
  rw [issuedOutputs, pushedWith, List.map_filterMap]
  refine List.filterMap_congr fun event member => ?_
  cases event with
  | opened | stored | rebound | discarded => rfl
  | produced output ctx delivery =>
      rw [all.delivery member]
      rfl

/-- Pushed outputs from what is left of them without ids and from their ids. -/
theorem unplaced_eq (pushes : List (CpiOutput × CpiContext)) :
    pushes.map unplaced =
      List.zipWith (fun pushed outputId => ({ pushed.1 with outputId }, pushed.2))
        (pushes.map fun pushed => (pushed.1.anonymous, pushed.2.anonymous))
        (pushes.map fun pushed => pushed.1.outputId) := by
  rw [List.zipWith_map, List.zipWith_self]
  rfl

/-- Two runs with the same windows, apart from what the consumer influences, pushed
the same outputs if they dropped none. -/
theorem pushedWith_unplaced {first second : Windows} (same : first.anonymous = second.anonymous)
    (firstAll : AllPushed first.log) (secondAll : AllPushed second.log)
    (firstNumbered : first.Numbered) (secondNumbered : second.Numbered) :
    (pushedWith first.log).map unplaced = (pushedWith second.log).map unplaced := by
  have contents : (pushedWith first.log).map (fun pushed =>
        (pushed.1.anonymous, pushed.2.anonymous)) =
      (pushedWith second.log).map fun pushed => (pushed.1.anonymous, pushed.2.anonymous) := by
    rw [← firstAll.anonymous, ← secondAll.anonymous]
    exact congrArg (fun w : Windows => pushedWith w.log) same
  have numbers {w : Windows} (all : AllPushed w.log) (numbered : w.Numbered) :
      (pushedWith w.log).map (fun pushed => pushed.1.outputId) =
        List.range' 1 (pushedWith w.log).length := by
    have ids := numbered.ids
    rwa [all.issued, List.map_map, List.length_map] at ids
  have lengths : (pushedWith first.log).length = (pushedWith second.log).length := by
    have mapped := congrArg List.length contents
    rwa [List.length_map, List.length_map] at mapped
  rw [unplaced_eq, unplaced_eq, contents, numbers firstAll firstNumbered,
    numbers secondAll secondNumbered, lengths]

end RxTech
