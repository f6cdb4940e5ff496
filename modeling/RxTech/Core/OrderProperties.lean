import RxTech.Core.Delivery
import RxTech.Core.WindowHistory

/-!
# The order of the outputs

Outputs are pushed in the order in which their contexts were opened, but for the
context of the previous window, which later ones may overtake while it waits for
late packets.
-/

set_option autoImplicit false

namespace RxTech

/-- A push: the opening of the context and the number of its output. -/
def WindowEvent.push : WindowEvent → Option (Nat × Nat)
  | .produced output ctx .pushed => some (ctx.birth, output.outputId)
  | .produced _ _ .detached | .produced _ _ .dropped => none
  | .opened _ | .stored _ _ | .rebound _ | .discarded _ => none

/-- The pushes, in order. -/
def pushes (log : List WindowEvent) : List (Nat × Nat) := log.filterMap WindowEvent.push

private theorem pushes_append (first second : List WindowEvent) :
    pushes (first ++ second) = pushes first ++ pushes second :=
  List.filterMap_append

private theorem pushes_of_quiet {events : List WindowEvent}
    (quiet : ∀ event ∈ events, event.delivery = none) : pushes events = [] := by
  refine List.filterMap_eq_nil_iff.mpr fun event member => ?_
  cases event with
  | produced => cases quiet _ member
  | opened | stored | rebound | discarded => rfl

private theorem pushes_ids (log : List WindowEvent) :
    (pushes log).map Prod.snd = (pushedOutputs log).map CpiOutput.outputId := by
  rw [pushes, pushedOutputs, List.map_filterMap, List.map_filterMap]
  congr 1
  funext event
  cases event with
  | produced output ctx delivery => cases delivery <;> rfl
  | opened | stored | rebound | discarded => rfl

private theorem mem_pushes {log : List WindowEvent} {push : Nat × Nat}
    (member : push ∈ pushes log) :
    ∃ output ctx, .produced output ctx .pushed ∈ log ∧ push = (ctx.birth, output.outputId) := by
  obtain ⟨event, inLog, is⟩ := List.mem_filterMap.mp member
  cases event with
  | produced output ctx delivery =>
      cases delivery with
      | pushed => exact ⟨output, ctx, inLog, (Option.some.inj is).symm⟩
      | detached | dropped => cases is
  | opened | stored | rebound | discarded => cases is

namespace Windows

variable {spec : ProtocolSpec}

/-- The active window is the last one that was opened. -/
def Newest (w : Windows) : Prop := ∀ ctx, w.active = some ctx → ctx.birth + 1 = w.openings

theorem Newest.move (formed : spec.WellFormed) {op : Op} {start before after : Windows}
    (sound : before.Sound spec) (move : Move spec op start before after) (newest : before.Newest) :
    after.Newest := by
  cases move with
  | judged | staged | reboundPrevious | discardedPrevious | repeatedPrevious | storedPrevious =>
      exact newest
  | discardedActive | shifted => exact fun _ impossible => nomatch impossible
  | committedPrevious active previous parsed packet closing data isActive next isPrevious =>
      obtain ⟨nextOutputId, output, sealedCtx, produced, closed⟩ := sound.commits isPrevious closing
      rw [closed]
      exact newest
  | filledActive ctx parsed packet bytes closing data active same takes closes =>
      obtain ⟨nextOutputId, output, sealedCtx, decision, -, produced, closed⟩ :=
        sound.fills formed active same takes closes closing
      rw [closed]
      exact fun _ impossible => nomatch impossible
  | opened index parsed packet data inactive opens =>
      intro ctx is
      rw [← Option.some.inj is, openedCtx_birth]
      rfl
  | reboundActive ctx parsed control valid active same =>
      intro other is
      rw [← Option.some.inj is, mergeControlSnapshot_birth ctx _]
      exact newest ctx active
  | repeatedActive ctx active =>
      intro other is
      rw [← Option.some.inj is]
      exact newest ctx active
  | storedActive ctx parsed packet bytes data active same takes stays =>
      intro other is
      rw [← Option.some.inj is, CpiContext.receive_birth]
      exact newest ctx active

/-- What an operation that began in `start` has pushed so far: in order of opening,
and older than an earlier push only if it is the previous window's. -/
def InOrder (start w : Windows) : Prop :=
  ∃ new, pushes w.log = pushes start.log ++ new ∧ (new.map Prod.fst).Pairwise (· < ·) ∧
    ∀ late ∈ new, ∀ early ∈ pushes start.log, late.1 < early.1 →
      ∃ ctx, start.previous = some ctx ∧ ctx.birth = late.1

theorem InOrder.refl (w : Windows) : w.InOrder w :=
  ⟨[], (List.append_nil _).symm, List.Pairwise.nil, fun _ impossible => nomatch impossible⟩

theorem Archives.gone_of_push {w : Windows} (archives : w.Archives spec) {push : Nat × Nat}
    (member : push ∈ pushes w.log) : w.Gone push.1 := by
  obtain ⟨output, ctx, inLog, rfl⟩ := mem_pushes member
  exact (archives output ctx _ inLog).2

/-- What the output of one context adds to the pushes. -/
private theorem pushes_produced (output : CpiOutput) (ctx : CpiContext) (delivery : Delivery) :
    pushes [.produced output ctx delivery] = [] ∨
      ∃ id, pushes [.produced output ctx delivery] = [(ctx.birth, id)] := by
  cases delivery with
  | pushed => exact .inr ⟨output.outputId, rfl⟩
  | detached | dropped => exact .inl rfl

theorem InOrder.keep {start before after : Windows} (inOrder : start.InOrder before)
    (same : pushes after.log = pushes before.log) : start.InOrder after := by
  rw [InOrder, same]
  exact inOrder

/-- A push that is younger than every push before it. -/
theorem InOrder.concat {start before after : Windows} (inOrder : start.InOrder before)
    {push : Nat × Nat} (log : pushes after.log = pushes before.log ++ [push])
    (youngest : ∀ other ∈ pushes before.log, other.1 < push.1) : start.InOrder after := by
  obtain ⟨new, split, ordered, overtaken⟩ := inOrder
  rw [split] at log youngest
  refine ⟨new ++ [push], log.trans (List.append_assoc ..), ?_, ?_⟩
  · rw [List.map_append, List.pairwise_append]
    refine ⟨ordered, List.pairwise_singleton _ _, fun birth inNew last isLast => ?_⟩
    obtain ⟨other, member, rfl⟩ := List.mem_map.mp inNew
    rw [List.mem_singleton.mp isLast]
    exact youngest other (List.mem_append_right _ member)
  · intro late member early inStart younger
    rcases List.mem_append.mp member with old | last
    · exact overtaken late old early inStart younger
    · rw [List.mem_singleton.mp last] at younger
      exact absurd younger (Nat.lt_asymm (youngest early (List.mem_append_left _ inStart)))

theorem InOrder.move (formed : spec.WellFormed) {op : Op} {start before after : Windows}
    (sound : before.Sound spec) (archives : before.Archives spec) (newest : before.Newest)
    (move : Move spec op start before after) (inOrder : start.InOrder before) :
    start.InOrder after := by
  cases move.emits formed sound with
  | nothing events log quiet =>
      apply inOrder.keep
      rw [log, pushes_append, pushes_of_quiet quiet, List.append_nil]
  | @previous previous sealedCtx decision output delivery closedRing nextOutputId first isPrevious
      produced =>
      subst first
      rw [InOrder, pushes_append]
      rcases pushes_produced output sealedCtx delivery with none | ⟨id, one⟩
      · rw [none]
        exact ⟨[], rfl, List.Pairwise.nil, fun _ impossible => nomatch impossible⟩
      · rw [one, produced.birth]
        refine ⟨_, rfl, List.pairwise_singleton _ _, fun late member early _ _ => ?_⟩
        rw [List.mem_singleton.mp member]
        exact ⟨previous, isPrevious, rfl⟩
  | @active active sealedCtx decision output parsed bytes delivery closedRing nextOutputId isActive
      same takes produced =>
      have older : ∀ push ∈ pushes before.log, push.1 < active.birth := by
        intro push member
        have gone := archives.gone_of_push member
        have born := gone.born
        have other := gone.left active (.inl isActive)
        have last := newest active isActive
        omega
      have stored : pushes (before.log ++ [.stored parsed (active.receive spec parsed bytes),
          .produced output sealedCtx delivery]) =
            pushes before.log ++ pushes [.produced output sealedCtx delivery] :=
        pushes_append _ _
      rcases pushes_produced output sealedCtx delivery with none | ⟨id, one⟩
      · rw [none, List.append_nil] at stored
        exact inOrder.keep stored
      · rw [one, produced.birth, CpiContext.receive_birth] at stored
        exact inOrder.concat stored older

end Windows

namespace System

variable {spec : ProtocolSpec}

theorem Owned.step_inOrder {s : System} (owned : s.Owned) (formed : spec.WellFormed)
    (sound : s.windows.Sound spec) (archives : s.windows.Archives spec)
    (newest : s.windows.Newest) {op : Op} (valid : op.Valid) :
    s.windows.InOrder (s.step spec op).windows := by
  obtain ⟨choices, failures, refines, -⟩ := step_refines spec op owned
  rw [refines.windows]
  have kept := Windows.step_preserves valid
    (fun before after move (holds : before.Sound spec ∧ before.Archives spec ∧ before.Newest ∧
        s.windows.InOrder before) =>
      ⟨Windows.Sound.move formed move holds.1,
        Windows.Archives.move formed holds.1 move holds.2.1,
        Windows.Newest.move formed holds.1 move holds.2.2.1,
        Windows.InOrder.move formed holds.1 holds.2.1 holds.2.2.1 move holds.2.2.2⟩)
    choices ⟨sound, archives, newest, .refl _⟩
  exact kept.2.2.2

/-- The invariant of the windows that the order rests on. -/
theorem run_newest (formed : spec.WellFormed) {ops : List Op} {s : System} (owned : s.Owned)
    (sound : s.windows.Sound spec) (newest : s.windows.Newest) (valid : ∀ op ∈ ops, op.Valid) :
    (Machine.run (System.step spec) ops s).windows.Newest :=
  (Windows.run_preserves formed
    (fun _ _ _ _ _ (_ : True) sound move newest => Windows.Newest.move formed sound move newest)
    owned sound newest valid (Machine.along_of_forall (fun _ _ => trivial) ops s)).2

end System

private theorem increases_together {pairs : List (Nat × Nat)}
    (births : (pairs.map Prod.fst).Pairwise (· < ·)) (ids : (pairs.map Prod.snd).Pairwise (· < ·))
    {first second : Nat × Nat} (inFirst : first ∈ pairs) (inSecond : second ∈ pairs)
    (older : first.1 < second.1) : first.2 < second.2 := by
  induction pairs with
  | nil => cases inFirst
  | cons head rest ih =>
      rw [List.map_cons, List.pairwise_cons] at births ids
      rcases List.mem_cons.mp inFirst with rfl | firstRest
      · rcases List.mem_cons.mp inSecond with rfl | secondRest
        · exact absurd older (Nat.lt_irrefl _)
        · exact ids.1 _ (List.mem_map_of_mem secondRest)
      · rcases List.mem_cons.mp inSecond with rfl | secondRest
        · have younger := births.1 _ (List.mem_map_of_mem firstRest)
          omega
        · exact ih births.2 ids.2 firstRest secondRest

/-- If one context was opened before another and both are pushed, the first has the
smaller number, unless it was still the previous window after the operation that
pushed the other. -/
theorem outputs_in_order_but_previous (config : RxConfig)
    (outputMinCapacity recycleMinCapacity : Nat) (consumerSchedule clock : List Nat)
    (ops : List Op) (valid : ∀ op ∈ ops, op.Valid) :
    let spec := protocolSpecFromConfig config
    let after := fun ops => Machine.run (System.step spec) ops
      (System.attached outputMinCapacity recycleMinCapacity consumerSchedule clock)
    ∀ first ∈ pushes (after ops).windowLog, ∀ second ∈ pushes (after ops).windowLog,
      first.1 < second.1 → first.2 < second.2 ∨
        ∃ earlier later, ops = earlier ++ later ∧
          second ∈ pushes (after earlier).windowLog ∧ first ∉ pushes (after earlier).windowLog ∧
          ∃ ctx, (after earlier).previousCtx = some ctx ∧ ctx.birth = first.1 := by
  intro spec after
  have formed := protocolSpecFromConfig_wellFormed config
  have start := System.attached_owned outputMinCapacity recycleMinCapacity consumerSchedule clock
  induction ops using List.reverseRecOn with
  | nil => exact fun _ impossible => nomatch impossible
  | append_singleton ops op ih =>
      have earlierValid : ∀ op ∈ ops, op.Valid := fun other member =>
        valid other (List.mem_append_left _ member)
      have owned : (after ops).Owned := System.run_owned spec ops start
      have conveying : (after (ops ++ [op])).Conveying :=
        (System.attached_conveying ..).run spec (ops ++ [op])
      obtain ⟨sound, archives⟩ := Windows.run_archives formed start (Windows.fresh_sound ..)
        (fun _ _ _ impossible => nomatch impossible) earlierValid
      have newest := System.run_newest formed start (Windows.fresh_sound ..)
        (fun _ impossible => nomatch impossible) earlierValid
      have stepped : after (ops ++ [op]) = (after ops).step spec op := Machine.run_append ..
      have inOrder := owned.step_inOrder formed sound archives newest
        (valid op (List.mem_append_right _ (List.mem_singleton_self op)))
      obtain ⟨new, split, ordered, overtaken⟩ := inOrder
      have log : pushes (after (ops ++ [op])).windowLog = pushes (after ops).windowLog ++ new := by
        rw [stepped]
        exact split
      have ids : ((pushes (after ops).windowLog ++ new).map Prod.snd).Pairwise (· < ·) := by
        rw [← log, pushes_ids]
        exact conveying.numbered
      rw [List.map_append, List.pairwise_append] at ids
      obtain ⟨-, newIds, across⟩ := ids
      intro first inFirst second inSecond older
      rw [log] at inFirst inSecond
      rcases List.mem_append.mp inFirst with firstOld | firstNew
      · rcases List.mem_append.mp inSecond with secondOld | secondNew
        · rcases ih earlierValid first firstOld second secondOld older with less | exception
          · exact .inl less
          · obtain ⟨earlier, later, rfl, rest⟩ := exception
            exact .inr ⟨earlier, later ++ [op], List.append_assoc .., rest⟩
        · exact .inl (across _ (List.mem_map_of_mem firstOld) _ (List.mem_map_of_mem secondNew))
      · rcases List.mem_append.mp inSecond with secondOld | secondNew
        · obtain ⟨ctx, previous, birth⟩ := overtaken first firstNew second secondOld older
          refine .inr ⟨ops, [op], rfl, secondOld, fun pushed => ?_, ctx, previous, birth⟩
          exact (archives.gone_of_push pushed).left ctx (.inr previous) birth
        · exact .inl (increases_together ordered newIds firstNew secondNew older)

/-- CPI 2 fills while CPI 1 waits as the previous window for its second packet. -/
def overtakingOps : List Op :=
  let spec := protocolSpecFromConfig pairConfig
  [.zeroData spec 1 1 0 1 0, .zeroData spec 2 1 0 1 0, .zeroData spec 2 1 0 2 0,
    .zeroData spec 3 1 0 1 0, .zeroData spec 4 1 0 1 0]

private theorem overtakingOps_valid : ∀ op ∈ overtakingOps, op.Valid := by
  simp [overtakingOps]

theorem previous_window_overtaken :
    (∀ op ∈ overtakingOps, op.Valid) ∧
      ¬ ∀ first ∈ pushes (Machine.run (System.step (protocolSpecFromConfig pairConfig))
          overtakingOps (System.attached 32 32 [] [])).windowLog,
        ∀ second ∈ pushes (Machine.run (System.step (protocolSpecFromConfig pairConfig))
          overtakingOps (System.attached 32 32 [] [])).windowLog,
          first.1 < second.1 → first.2 < second.2 := by
  refine ⟨overtakingOps_valid, fun inOrder => ?_⟩
  have pushed : pushes (Machine.run (System.step (protocolSpecFromConfig pairConfig))
      overtakingOps (System.attached 32 32 [] [])).windowLog = [(1, 1), (0, 2)] := by
    decide +kernel
  rw [pushed] at inOrder
  have less := inOrder (0, 2) (by simp) (1, 1) (by simp) (by decide)
  exact absurd less (by decide)

theorem outputs_in_order_but_previous_overtaking :
    let spec := protocolSpecFromConfig pairConfig
    let after := fun ops => Machine.run (System.step spec) ops (System.attached 32 32 [] [])
    (pushes (after overtakingOps).windowLog).length = 2 ∧
      ∀ first ∈ pushes (after overtakingOps).windowLog,
        ∀ second ∈ pushes (after overtakingOps).windowLog,
          first.1 < second.1 → first.2 < second.2 ∨
            ∃ earlier later, overtakingOps = earlier ++ later ∧
              second ∈ pushes (after earlier).windowLog ∧
              first ∉ pushes (after earlier).windowLog ∧
              ∃ ctx, (after earlier).previousCtx = some ctx ∧ ctx.birth = first.1 :=
  ⟨by decide +kernel,
    outputs_in_order_but_previous pairConfig 32 32 [] [] overtakingOps overtakingOps_valid⟩

end RxTech
