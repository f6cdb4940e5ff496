import RxTech.Core.WindowMoves
import RxTech.Core.StepRefinement

/-!
# The invariant of the windows

An open window agrees with the packets the history says it received, its
expected counts are those of a snapshot made from the specification, and the
active window has not raised a trigger that would have closed it.
-/

set_option autoImplicit false

namespace RxTech

/-- The context an event carries. -/
def WindowEvent.ctx : WindowEvent → CpiContext
  | .opened ctx | .stored _ ctx | .rebound ctx | .produced _ ctx _ | .discarded ctx => ctx

/-- The packet that was stored in the context of an opening. -/
def WindowEvent.storedBy (birth : Nat) : WindowEvent → Option ParsedPacketView
  | .stored packet ctx => if ctx.birth = birth then some packet else none
  | .opened _ | .rebound _ | .produced _ _ _ | .discarded _ => none

/-- The packets that were stored in the context of an opening. -/
def receivedBy (log : List WindowEvent) (birth : Nat) : List ParsedPacketView :=
  log.filterMap (WindowEvent.storedBy birth)

theorem receivedBy_append (first second : List WindowEvent) (birth : Nat) :
    receivedBy (first ++ second) birth = receivedBy first birth ++ receivedBy second birth :=
  List.filterMap_append

theorem stored_of_receivedBy {log : List WindowEvent} {birth : Nat} {packet : ParsedPacketView}
    (member : packet ∈ receivedBy log birth) : ∃ ctx, .stored packet ctx ∈ log := by
  obtain ⟨event, logged, stores⟩ := List.mem_filterMap.mp member
  cases event with
  | stored stored ctx =>
      simp only [WindowEvent.storedBy] at stores
      split at stores
      · cases stores
        exact ⟨ctx, logged⟩
      · cases stores
  | opened | rebound | produced | discarded => cases stores

/-- A context that is a window. -/
structure Held (spec : ProtocolSpec) (log : List WindowEvent) (openings : Nat)
    (ctx : CpiContext) : Prop where
  reception : Reception spec (receivedBy log ctx.birth) ctx
  own : ∀ packet ∈ receivedBy log ctx.birth, packet.cpi = ctx.header.cpiId
  bound : Bound spec ctx
  active : ctx.header.state = .active
  born : ctx.birth < openings

theorem Held.keep {spec : ProtocolSpec} {log events : List WindowEvent} {openings : Nat}
    {ctx : CpiContext} (held : Held spec log openings ctx)
    (quiet : receivedBy events ctx.birth = []) : Held spec (log ++ events) openings ctx where
  reception := by
    rw [receivedBy_append, quiet, List.append_nil]
    exact held.reception
  own := by
    rw [receivedBy_append, quiet, List.append_nil]
    exact held.own
  bound := held.bound
  active := held.active
  born := held.born

theorem Held.rebind {spec : ProtocolSpec} (formed : spec.WellFormed) {log : List WindowEvent}
    {openings : Nat} {ctx : CpiContext} (held : Held spec log openings ctx)
    (parsed : ParsedPacketView) :
    Held spec (log ++ [.rebound (mergeControlSnapshot ctx (makeControlSnapshot parsed spec))])
      openings (mergeControlSnapshot ctx (makeControlSnapshot parsed spec)) := by
  have identity := mergeControlSnapshot_identity ctx (makeControlSnapshot parsed spec)
  have birth := CpiContext.birth_of_identity identity
  refine Held.keep ⟨?_, ?_, held.bound.merge (makeControlSnapshot_madeFrom formed parsed), ?_, ?_⟩
    rfl
  · rw [birth]
    exact mergeControlSnapshot_reception held.reception _
  · rw [birth, CpiContext.cpiId_of_identity identity]
    exact held.own
  · exact (CpiContext.state_of_identity identity).trans held.active
  · rw [birth]
    exact held.born

theorem Held.countDuplicate {spec : ProtocolSpec} {log : List WindowEvent} {openings : Nat}
    {ctx : CpiContext} (held : Held spec log openings ctx) :
    Held spec log openings ctx.countDuplicate where
  reception := held.reception.congr (.of_header rfl rfl rfl rfl rfl rfl) rfl rfl
  own := held.own
  bound := ⟨held.bound.madeFrom, held.bound.expectedNPrt, held.bound.expectedSlotCount⟩
  active := held.active
  born := held.born

private theorem receivedBy_stored (spec : ProtocolSpec) (ctx : CpiContext)
    (parsed : ParsedPacketView)
    (bytes : ByteView) :
    receivedBy [.stored parsed (ctx.receive spec parsed bytes)] ctx.birth = [parsed] := by
  simp [receivedBy, WindowEvent.storedBy, CpiContext.receive_birth]

theorem Held.receive {spec : ProtocolSpec} (formed : spec.WellFormed) {log : List WindowEvent}
    {openings : Nat} {ctx : CpiContext} (held : Held spec log openings ctx)
    {parsed : ParsedPacketView} {bytes : ByteView} (same : parsed.cpi = ctx.header.cpiId)
    (takes : ctx.Takes spec parsed bytes) :
    Held spec (log ++ [.stored parsed (ctx.receive spec parsed bytes)]) openings
      (ctx.receive spec parsed bytes) where
  reception := by
    rw [CpiContext.receive_birth, receivedBy_append, receivedBy_stored]
    exact held.reception.store formed takes.accepts takes.payload takes.absent
  own packet member := by
    rw [CpiContext.receive_birth, receivedBy_append, receivedBy_stored] at member
    rw [CpiContext.receive_cpiId]
    rcases List.mem_append.mp member with old | new
    · exact held.own packet old
    · rw [List.mem_singleton.mp new, same]
  bound := held.bound.of_binding CpiContext.receive_binding
  active := (CpiContext.state_of_identity CpiContext.receive_identity).trans held.active
  born := by
    rw [CpiContext.receive_birth]
    exact held.born

namespace Windows

/-- An open window. -/
def Holds (w : Windows) (ctx : CpiContext) : Prop := w.active = some ctx ∨ w.previous = some ctx

/-- What holds between any two moves. -/
structure Sound (spec : ProtocolSpec) (w : Windows) : Prop where
  staged : w.currentControl.valid = true → w.currentControl.MadeFrom spec
  active : ∀ ctx, w.active = some ctx → Held spec w.log w.openings ctx
  previous : ∀ ctx, w.previous = some ctx → Held spec w.log w.openings ctx
  untriggered : ∀ ctx, w.active = some ctx →
    Bits.hasAny ctx.header.triggerBits System.finalizeMask = false
  apart : ∀ active previous, w.active = some active → w.previous = some previous →
    active.birth ≠ previous.birth
  logged : ∀ event ∈ w.log, event.ctx.birth < w.openings

variable {spec : ProtocolSpec} {w : Windows}

theorem receivedBy_of_fresh {log : List WindowEvent} {openings : Nat}
    (logged : ∀ event ∈ log, event.ctx.birth < openings) : receivedBy log openings = [] := by
  refine List.filterMap_eq_nil_iff.mpr fun event member => ?_
  have born := logged event member
  cases event with
  | stored packet ctx => exact if_neg (Nat.ne_of_lt born)
  | opened | rebound | produced | discarded => rfl

theorem untriggered_fullReady {bits : Nat}
    (untriggered : Bits.hasAny bits System.finalizeMask = false) :
    Bits.hasAny bits triggerFullReady = false := by
  have full : Bits.hasAny (bits &&& System.finalizeMask) triggerFullReady =
      Bits.hasAny bits triggerFullReady := Bits.hasAny_and_of_subset (by decide)
  have none : bits &&& System.finalizeMask = 0 := by simpa [Bits.hasAny] using untriggered
  rw [← full, none, Bits.hasAny_zero]

/-- The output that finalizing `ctx` produces. -/
structure Produced (ctx : CpiContext) (decision : CpiDecision) (output : CpiOutput)
    (sealedCtx : CpiContext) : Prop where
  cpiId : output.cpiId = ctx.header.cpiId
  decision : output.decision = decision
  control : output.control = ctx.control
  sealedCpiId : sealedCtx.header.cpiId = ctx.header.cpiId
  summary : sealedCtx.prtSummary = ctx.prtSummary
  binding : sealedCtx.binding = ctx.binding
  record : SameRecord ctx sealedCtx
  readyPrt : sealedCtx.header.readyPrtCount = ctx.header.readyPrtCount
  birth : sealedCtx.birth = ctx.birth

private theorem numbered_produced (w : Windows) (ctx : CpiContext) (trigger now : Nat)
    (decision : CpiDecision) (delivery : Delivery) :
    Produced ctx decision (w.numbered (ctx.seal trigger now decision).makeOutput delivery)
      (ctx.seal trigger now decision) := by
  have record : SameRecord ctx (ctx.seal trigger now decision) :=
    .of_header rfl rfl rfl rfl rfl rfl
  cases delivery <;> exact ⟨rfl, rfl, rfl, rfl, rfl, rfl, record, rfl, rfl⟩

theorem Produced.isFull {ctx sealedCtx : CpiContext} {decision : CpiDecision} {output : CpiOutput}
    (produced : Produced ctx decision output sealedCtx) : sealedCtx.isFull = ctx.isFull := by
  obtain ⟨-, -, expectedSlotCount, -⟩ := by
    simpa only [CpiContext.binding, Prod.mk.injEq] using produced.binding
  simp only [CpiContext.isFull, expectedSlotCount, produced.record.received]

/-- The decision on a window that closes before it is full. -/
def cutDecision (ctx : CpiContext) : CpiDecision :=
  if ctx.header.readyPrtCount > 0 then .incompleteButCommittable else .abnormalCutoffCommit

theorem cutDecision_ne_completeOk (ctx : CpiContext) : cutDecision ctx ≠ .completeOk := by
  unfold cutDecision
  split <;> exact CpiDecision.noConfusion

/-- A switch commits the previous window. -/
theorem Sound.commits (sound : w.Sound spec) {ctx : CpiContext} (previous : w.previous = some ctx)
    (closing : Closing) :
    ∃ nextOutputId output sealedCtx, Produced ctx (cutDecision ctx) output sealedCtx ∧
      w.closePrevious triggerCpiSwitch closing =
        { w with
          previous := none
          closedRing := w.closedRing.pushClosed ctx.header.cpiId closing.sealTsc (cutDecision ctx)
          nextOutputId
          log := w.log ++ [.produced output sealedCtx closing.delivery] } := by
  obtain ⟨nextOutputId, closed⟩ := closePrevious_produces previous
    (sound.previous ctx previous).active (decide?_switch _) closing
  exact ⟨nextOutputId, _, _, numbered_produced .., closed⟩

/-- A write that raises a trigger closes the active window; the output is complete
if the window is full. -/
theorem Sound.fills (sound : w.Sound spec) (formed : spec.WellFormed) {ctx : CpiContext}
    (active : w.active = some ctx) {parsed : ParsedPacketView} {bytes : ByteView}
    (same : parsed.cpi = ctx.header.cpiId) (takes : ctx.Takes spec parsed bytes)
    (closes : Bits.hasAny (ctx.receive spec parsed bytes).header.triggerBits System.finalizeMask =
      true) (closing : Closing) :
    ∃ nextOutputId output sealedCtx decision,
      decision = (if (ctx.receive spec parsed bytes).isFull then .completeOk
        else cutDecision (ctx.receive spec parsed bytes)) ∧
      Produced (ctx.receive spec parsed bytes) decision output sealedCtx ∧
      Windows.closeActive
          { w with
            active := some (ctx.receive spec parsed bytes)
            log := w.log ++ [.stored parsed (ctx.receive spec parsed bytes)] }
          ((ctx.receive spec parsed bytes).header.triggerBits &&& System.finalizeMask) closing =
        { w with
          active := none
          closedRing := w.closedRing.pushClosed ctx.header.cpiId closing.sealTsc decision
          nextOutputId
          log := w.log ++ [.stored parsed (ctx.receive spec parsed bytes),
            .produced output sealedCtx closing.delivery] } := by
  have held := (sound.active ctx active).receive formed same takes
  have full : Windows.active { w with
      active := some (ctx.receive spec parsed bytes)
      log := w.log ++ [.stored parsed (ctx.receive spec parsed bytes)] } =
    some (ctx.receive spec parsed bytes) := rfl
  have raised := CpiContext.receive_fullReady formed takes
  rw [untriggered_fullReady (sound.untriggered ctx active), Bool.false_or] at raised
  have decides := decide?_of_mask (ctx.receive spec parsed bytes).header.readyPrtCount closes
  rw [raised] at decides
  obtain ⟨nextOutputId, closed⟩ := closeActive_produces full held.active decides closing
  simp only [CpiContext.receive_cpiId, List.append_assoc, List.cons_append, List.nil_append]
    at closed
  refine ⟨nextOutputId, _, _, _, rfl, ?_, closed⟩
  exact numbered_produced ..

/-- Events of one opening, which store nothing for another. -/
structure OfBirth (birth : Nat) (events : List WindowEvent) : Prop where
  own : ∀ event ∈ events, event.ctx.birth = birth
  quiet : ∀ other, other ≠ birth → receivedBy events other = []

theorem OfBirth.nil (birth : Nat) : OfBirth birth [] := ⟨by simp, fun _ _ => rfl⟩

theorem OfBirth.cons {birth : Nat} {event : WindowEvent} {events : List WindowEvent}
    (own : event.ctx.birth = birth) (rest : OfBirth birth events) :
    OfBirth birth (event :: events) where
  own other member := by
    rcases List.mem_cons.mp member with rfl | old
    · exact own
    · exact rest.own other old
  quiet other different := by
    have here : event.storedBy other = none := by
      cases event with
      | stored packet ctx => exact if_neg fun same => different (same.symm.trans own)
      | opened | rebound | produced | discarded => rfl
    rw [receivedBy, List.filterMap_cons, here]
    exact rest.quiet other different

private theorem logged_append {log events : List WindowEvent} {openings birth : Nat}
    (logged : ∀ event ∈ log, event.ctx.birth < openings) (own : OfBirth birth events)
    (born : birth < openings) : ∀ event ∈ log ++ events, event.ctx.birth < openings := by
  intro event member
  rcases List.mem_append.mp member with old | new
  · exact logged event old
  · rw [own.own event new]
    exact born

theorem Sound.emptyPrevious (sound : w.Sound spec) {ctx : CpiContext}
    (previous : w.previous = some ctx) {events : List WindowEvent} (own : OfBirth ctx.birth events)
    (closedRing : RecentClosedRing) (nextOutputId : Nat) :
    Sound spec { w with previous := none, closedRing, nextOutputId, log := w.log ++ events } where
  staged := sound.staged
  active other is := (sound.active other is).keep
    (own.quiet _ (sound.apart other ctx is previous))
  previous _ impossible := nomatch impossible
  untriggered := sound.untriggered
  apart _ _ _ impossible := nomatch impossible
  logged := logged_append sound.logged own (sound.previous ctx previous).born

theorem Sound.emptyActive (sound : w.Sound spec) {ctx : CpiContext}
    (active : w.active = some ctx) {events : List WindowEvent} (own : OfBirth ctx.birth events)
    (closedRing : RecentClosedRing) (nextOutputId : Nat) :
    Sound spec { w with active := none, closedRing, nextOutputId, log := w.log ++ events } where
  staged := sound.staged
  active _ impossible := nomatch impossible
  previous other is := (sound.previous other is).keep
    (own.quiet _ (sound.apart ctx other active is).symm)
  untriggered _ impossible := nomatch impossible
  apart _ _ impossible := nomatch impossible
  logged := logged_append sound.logged own (sound.active ctx active).born

theorem Sound.write_active (sound : w.Sound spec) {ctx next : CpiContext}
    {events : List WindowEvent}
    (active : w.active = some ctx) (birth : next.birth = ctx.birth)
    (held : Held spec (w.log ++ events) w.openings next)
    (untriggered : Bits.hasAny next.header.triggerBits System.finalizeMask = false)
    (own : OfBirth ctx.birth events) :
    Sound spec { w with active := some next, log := w.log ++ events } where
  staged := sound.staged
  active other is := by
    obtain rfl := Option.some.inj is
    exact held
  previous other is := (sound.previous other is).keep
    (own.quiet _ (sound.apart ctx other active is).symm)
  untriggered other is := by
    obtain rfl := Option.some.inj is
    exact untriggered
  apart other previous isActive isPrevious := by
    obtain rfl := Option.some.inj isActive
    rw [birth]
    exact sound.apart ctx previous active isPrevious
  logged := logged_append sound.logged own (sound.active ctx active).born

theorem Sound.write_previous (sound : w.Sound spec) {ctx next : CpiContext}
    {events : List WindowEvent} (previous : w.previous = some ctx) (birth : next.birth = ctx.birth)
    (held : Held spec (w.log ++ events) w.openings next)
    (own : OfBirth ctx.birth events) :
    Sound spec { w with previous := some next, log := w.log ++ events } where
  staged := sound.staged
  active other is := (sound.active other is).keep
    (own.quiet _ (sound.apart other ctx is previous))
  previous other is := by
    obtain rfl := Option.some.inj is
    exact held
  untriggered := sound.untriggered
  apart active other isActive isPrevious := by
    obtain rfl := Option.some.inj isPrevious
    rw [birth]
    exact sound.apart active ctx isActive previous
  logged := logged_append sound.logged own (sound.previous ctx previous).born

theorem Sound.stage (sound : w.Sound spec) {control : ControlSnapshot}
    (made : control.MadeFrom spec) : Sound spec { w with currentControl := control } where
  staged _ := made
  active := sound.active
  previous := sound.previous
  untriggered := sound.untriggered
  apart := sound.apart
  logged := sound.logged

theorem Sound.openedCtx (sound : w.Sound spec) (formed : spec.WellFormed) (cpiId : UInt16)
    (index : PoolIndex) :
    Held spec (w.log ++ [.opened (w.openedCtx spec cpiId index)]) (w.openings + 1)
      (w.openedCtx spec cpiId index) := by
  have identity := w.openedCtx_identity spec cpiId index
  have birth := w.openedCtx_birth spec cpiId index
  refine Held.keep ⟨?_, ?_, ?_, congrArg (fun identity => identity.2.2.2) identity, ?_⟩ rfl
  · rw [birth, receivedBy_of_fresh sound.logged]
    exact bindControlSnapshot_reception (.reset formed ..) _
  · rw [birth, receivedBy_of_fresh sound.logged]
    exact fun _ impossible => nomatch impossible
  · exact bindControlSnapshot_bound (selectOpenSnapshot_madeFrom formed sound.staged cpiId) _
  · rw [birth]
    exact Nat.lt_succ_self _

private theorem openedCtx_triggerBits (w : Windows) (cpiId : UInt16) (index : PoolIndex) :
    (w.openedCtx spec cpiId index).header.triggerBits = triggerNone :=
  bindControlSnapshot_triggerBits ..

theorem Sound.openWindow (sound : w.Sound spec) (formed : spec.WellFormed) (cpiId : UInt16)
    (index : PoolIndex) : Sound spec (w.openWindow spec cpiId index) where
  staged _ := selectOpenSnapshot_madeFrom formed sound.staged cpiId
  active ctx is := by
    obtain rfl := Option.some.inj is
    exact sound.openedCtx formed cpiId index
  previous ctx is := by
    have held := (sound.previous ctx is).keep
      (show receivedBy [.opened (w.openedCtx spec cpiId index)] ctx.birth = [] from rfl)
    exact { held with born := Nat.lt_succ_of_lt held.born }
  untriggered ctx is := by
    obtain rfl := Option.some.inj is
    rw [openedCtx_triggerBits]
    rfl
  apart active previous isActive isPrevious := by
    obtain rfl := Option.some.inj isActive
    have older := (sound.previous previous isPrevious).born
    have birth := w.openedCtx_birth spec cpiId index
    omega
  logged := by
    have birth := w.openedCtx_birth spec cpiId index
    exact logged_append (fun event member => Nat.lt_succ_of_lt (sound.logged event member))
      (.cons birth (.nil _)) (Nat.lt_succ_self w.openings)

theorem Sound.move (formed : spec.WellFormed) {op : Op} {start before after : Windows}
    (move : Move spec op start before after) (sound : before.Sound spec) : after.Sound spec := by
  cases move with
  | judged accepted =>
      exact ⟨sound.staged, sound.active, sound.previous, sound.untriggered, sound.apart,
        sound.logged⟩
  | staged parsed control valid =>
      exact sound.stage (makeControlSnapshot_madeFrom formed parsed)
  | reboundActive ctx parsed control valid active same =>
      have held := (sound.active ctx active).rebind formed parsed
      have birth := mergeControlSnapshot_birth ctx (makeControlSnapshot parsed spec)
      have written := sound.write_active active birth held
        (by rw [mergeControlSnapshot_triggerBits]; exact sound.untriggered ctx active)
        (.cons birth (.nil _))
      exact written.stage held.bound.madeFrom
  | reboundPrevious ctx parsed control valid notActive previous same =>
      have birth := mergeControlSnapshot_birth ctx (makeControlSnapshot parsed spec)
      exact sound.write_previous previous birth ((sound.previous ctx previous).rebind formed parsed)
        (.cons birth (.nil _))
  | discardedPrevious ctx marks previous =>
      exact sound.emptyPrevious previous (.cons rfl (.nil _)) before.closedRing before.nextOutputId
  | discardedActive ctx marks active =>
      exact sound.emptyActive active (.cons rfl (.nil _)) before.closedRing before.nextOutputId
  | committedPrevious active previous parsed packet closing data isActive next isPrevious =>
      obtain ⟨nextOutputId, output, sealedCtx, produced, closed⟩ := sound.commits isPrevious closing
      rw [closed]
      refine sound.emptyPrevious isPrevious ?_ _ nextOutputId
      exact .cons produced.birth (.nil _)
  | shifted ctx active vacant =>
      exact ⟨sound.staged, fun _ impossible => (nomatch impossible), sound.active,
        fun _ impossible => (nomatch impossible), fun _ _ impossible => (nomatch impossible),
        sound.logged⟩
  | opened index parsed packet data inactive opens => exact sound.openWindow formed parsed.cpi index
  | repeatedActive ctx active =>
      have held := (sound.active ctx active).countDuplicate
      rw [← List.append_nil before.log] at held
      have written := sound.write_active active
        (show ctx.countDuplicate.birth = ctx.birth from rfl) held (sound.untriggered ctx active) (.nil _)
      rwa [List.append_nil] at written
  | repeatedPrevious ctx previous =>
      have held := (sound.previous ctx previous).countDuplicate
      rw [← List.append_nil before.log] at held
      have written := sound.write_previous previous
        (show ctx.countDuplicate.birth = ctx.birth from rfl) held (.nil _)
      rwa [List.append_nil] at written
  | storedActive ctx parsed packet bytes data active same takes stays =>
      exact sound.write_active active CpiContext.receive_birth
        ((sound.active ctx active).receive formed same takes) stays
        (.cons CpiContext.receive_birth (.nil _))
  | filledActive ctx parsed packet bytes closing data active same takes closes =>
      obtain ⟨nextOutputId, output, sealedCtx, decision, -, produced, closed⟩ :=
        sound.fills formed active same takes closes closing
      rw [closed]
      refine sound.emptyActive active ?_ _ nextOutputId
      exact .cons CpiContext.receive_birth
        (.cons (produced.birth.trans CpiContext.receive_birth) (.nil _))
  | storedPrevious active previous parsed packet bytes data isActive isPrevious other notNext same
      takes =>
      exact sound.write_previous isPrevious CpiContext.receive_birth
        ((sound.previous previous isPrevious).receive formed same takes)
        (.cons CpiContext.receive_birth (.nil _))

theorem fresh_sound (pipeline : Option OutputPipeline) (consumerSchedule clock : List Nat) :
    (System.fresh pipeline consumerSchedule clock).windows.Sound spec where
  staged impossible := nomatch impossible
  active _ impossible := nomatch impossible
  previous _ impossible := nomatch impossible
  untriggered _ impossible := nomatch impossible
  apart _ _ impossible := nomatch impossible
  logged _ member := nomatch member

/-- What every move from a sound state preserves, when the operation meets the
condition where it begins, holds of the windows of every run. -/
theorem run_preserves (formed : spec.WellFormed) {condition : Windows → Op → Prop}
    {invariant : Windows → Prop}
    (preserved : ∀ op start before after, op.Valid → condition start op → before.Sound spec →
      Move spec op start before after → invariant before → invariant after)
    {ops : List Op} {s : System} (owned : s.Owned) (sound : s.windows.Sound spec)
    (holds : invariant s.windows) (valid : ∀ op ∈ ops, op.Valid)
    (along : Machine.Along (System.step spec) (fun s => condition s.windows) ops s) :
    (Machine.run (System.step spec) ops s).windows.Sound spec ∧
      invariant (Machine.run (System.step spec) ops s).windows := by
  refine (System.windows_simulates spec).run_invariant
    (fun w op choices (holds : w.Sound spec ∧ invariant w) (met : op.Valid ∧ condition w op) => ?_)
    owned ⟨sound, holds⟩
    ((Machine.along_of_labels valid).and along)
  refine step_preserves met.1 (fun before after move (holds : before.Sound spec ∧ _) => ?_)
    choices holds
  exact ⟨.move formed move holds.1, preserved op w before after met.1 met.2 holds.1 move holds.2⟩

/-- The same for one operation. -/
theorem op_preserves (formed : spec.WellFormed) {op : Op} {invariant : Windows → Prop}
    (preserved : ∀ start before after, before.Sound spec → Move spec op start before after →
      invariant before → invariant after)
    {s : System} (owned : s.Owned) (sound : s.windows.Sound spec) (holds : invariant s.windows)
    (valid : op.Valid) :
    (s.step spec op).windows.Sound spec ∧ invariant (s.step spec op).windows :=
  run_preserves formed
    (fun other start before after _ (same : other = op) sound move holds =>
      preserved start before after sound (same ▸ move) holds)
    owned sound holds (List.forall_mem_singleton.mpr valid)
    (Machine.along_of_labels (List.forall_mem_singleton.mpr rfl))

theorem run_sound (formed : spec.WellFormed) {ops : List Op} {s : System} (owned : s.Owned)
    (sound : s.windows.Sound spec) (valid : ∀ op ∈ ops, op.Valid) :
    (Machine.run (System.step spec) ops s).windows.Sound spec := by
  have run := run_preserves formed (fun _ _ _ _ _ (_ : True) _ _ (holds : True) => holds) owned sound
    trivial valid (Machine.along_of_forall (fun _ _ => trivial) ops s)
  exact run.1

theorem run_log (formed : spec.WellFormed) {ops : List Op} {s : System} (owned : s.Owned)
    (sound : s.windows.Sound spec) (valid : ∀ op ∈ ops, op.Valid) :
    s.windowLog <+: (Machine.run (System.step spec) ops s).windowLog :=
  have run := run_preserves formed
    (fun _ _ _ _ _ (_ : True) _ move (grown : s.windowLog <+: _) => grown.trans move.log) owned
    sound List.prefix_rfl valid (Machine.along_of_forall (fun _ _ => trivial) ops s)
  run.2

end Windows

end RxTech
