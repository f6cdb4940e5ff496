import RxTech.Core.WindowInvariant

/-!
# What an operation does to the bindings

The slot that keeps a control snapshot for the next CPI is also the mirror of the
active binding. Control packets and openings write it, and with it the bindings of
the windows; every other move carries them along.
-/

set_option autoImplicit false

namespace RxTech

/-- The context that an event opens. -/
def WindowEvent.opening : WindowEvent → Option CpiContext
  | .opened ctx => some ctx
  | .stored _ _ | .rebound _ | .produced _ _ _ | .discarded _ => none

/-- The opened contexts, in order. -/
def openedContexts (log : List WindowEvent) : List CpiContext := log.filterMap WindowEvent.opening

private theorem openedContexts_append (first second : List WindowEvent) :
    openedContexts (first ++ second) = openedContexts first ++ openedContexts second :=
  List.filterMap_append

theorem openedContexts_mono {first second : List WindowEvent} (grown : first <+: second) :
    openedContexts first <+: openedContexts second := grown.filterMap _

/-- Which CPI and which opening the context is for, and what it is bound to. -/
def CpiContext.label (ctx : CpiContext) : UInt16 × Nat × ControlSnapshot :=
  (ctx.header.cpiId, ctx.birth, ctx.control)

theorem CpiContext.receive_label (spec : ProtocolSpec) (ctx : CpiContext)
    (parsed : ParsedPacketView) (bytes : ByteView) :
    (ctx.receive spec parsed bytes).label = ctx.label := by
  simp only [label, receive_cpiId, receive_birth, receive_control]

namespace Windows

variable {spec : ProtocolSpec}

theorem openedCtx_control (spec : ProtocolSpec) (w : Windows) (cpiId : UInt16)
    (index : PoolIndex) :
    (w.openedCtx spec cpiId index).control = selectOpenSnapshot cpiId spec w.currentControl := by
  rw [openedCtx, bindControlSnapshot_control]

theorem openedContexts_openWindow (spec : ProtocolSpec) (w : Windows) (cpiId : UInt16)
    (index : PoolIndex) :
    openedContexts (w.openWindow spec cpiId index).log =
      openedContexts w.log ++ [w.openedCtx spec cpiId index] :=
  openedContexts_append ..

theorem Produced.label_eq {ctx sealedCtx : CpiContext} {decision : CpiDecision}
    {output : CpiOutput} (produced : Produced ctx decision output sealedCtx) :
    sealedCtx.label = ctx.label := by
  have control : sealedCtx.control = ctx.control := congrArg Prod.fst produced.binding
  simp only [CpiContext.label, produced.sealedCpiId, produced.birth, control]

/-- An event about an open window, and not its opening. -/
structure Reports (w : Windows) (event : WindowEvent) : Prop where
  window : ∃ old, w.Holds old ∧ event.ctx.label = old.label
  opening : event.opening = none
  output : ∀ output ctx delivery, event = .produced output ctx delivery →
    output.cpiId = ctx.header.cpiId ∧ output.control = ctx.control

theorem Reports.of_undelivered {w : Windows} {event : WindowEvent} {old : CpiContext}
    (holds : w.Holds old) (same : event.ctx.label = old.label) (opening : event.opening = none)
    (undelivered : event.delivery = none) : w.Reports event where
  window := ⟨old, holds, same⟩
  opening := opening
  output := by
    rintro output ctx delivery rfl
    cases undelivered

theorem Reports.produced {w : Windows} {old ctx sealedCtx : CpiContext} {decision : CpiDecision}
    {output : CpiOutput} (holds : w.Holds old) (same : ctx.label = old.label)
    (produced : Produced ctx decision output sealedCtx) (delivery : Delivery) :
    w.Reports (.produced output sealedCtx delivery) where
  window := ⟨old, holds, produced.label_eq.trans same⟩
  opening := rfl
  output := by
    rintro _ _ _ ⟨⟩
    exact ⟨produced.cpiId.trans produced.sealedCpiId.symm,
      produced.control.trans (congrArg Prod.fst produced.binding).symm⟩

/-- The staging slot stays, and so do the bindings of the windows that are left. -/
structure Carries (before after : Windows) : Prop where
  control : after.currentControl = before.currentControl
  active : ∀ ctx, after.active = some ctx →
    ∃ old, before.active = some old ∧ ctx.label = old.label
  previous : ∀ ctx, after.previous = some ctx → ∃ old, before.Holds old ∧ ctx.label = old.label
  events : ∃ events, after.log = before.log ++ events ∧ ∀ event ∈ events, before.Reports event

theorem Carries.openedContexts_eq {before after : Windows} (carries : Carries before after) :
    openedContexts after.log = openedContexts before.log := by
  obtain ⟨events, log, all⟩ := carries.events
  have quiet : openedContexts events = [] :=
    List.filterMap_eq_nil_iff.mpr fun event member => (all event member).opening
  rw [log, openedContexts_append, quiet, List.append_nil]

theorem Carries.holds {before after : Windows} (carries : Carries before after) {ctx : CpiContext}
    (holds : after.Holds ctx) : ∃ old, before.Holds old ∧ ctx.label = old.label := by
  rcases holds with active | previous
  · obtain ⟨old, wasActive, same⟩ := carries.active ctx active
    exact ⟨old, .inl wasActive, same⟩
  · exact carries.previous ctx previous

/-- What a move does to the bindings. -/
inductive Binds (spec : ProtocolSpec) (op : Op) (start before : Windows) : Windows → Prop where
  | carried {after : Windows} (carries : Carries before after) : Binds spec op start before after
  | staged (parsed : ParsedPacketView) (control : op = .control parsed)
      (valid : ValidControl parsed) (notActive : holding start.active parsed.cpi = none)
      (notPrevious : holding start.previous parsed.cpi = none) :
      Binds spec op start before { before with currentControl := makeControlSnapshot parsed spec }
  | reboundActive (ctx : CpiContext) (parsed : ParsedPacketView) (control : op = .control parsed)
      (valid : ValidControl parsed) (active : before.active = some ctx)
      (found : holding start.active parsed.cpi = some ctx) :
      Binds spec op start before (before.rebindActive ctx (makeControlSnapshot parsed spec))
  | reboundPrevious (ctx : CpiContext) (parsed : ParsedPacketView)
      (control : op = .control parsed) (valid : ValidControl parsed)
      (previous : before.previous = some ctx) :
      Binds spec op start before (before.rebindPrevious ctx (makeControlSnapshot parsed spec))
  | opened (index : PoolIndex) (parsed : ParsedPacketView) (packet : InterpretedPacketView)
      (data : op = .data parsed packet) (opens : Opens start parsed.cpi before) :
      Binds spec op start before (before.openWindow spec parsed.cpi index)

/-- A window is opened before anything else is, with the slot as it was. -/
theorem Opens.staged {start w : Windows} {cpiId : UInt16} (sound : start.Sound spec)
    (opens : Opens start cpiId w) :
    w.currentControl = start.currentControl ∧ openedContexts w.log = openedContexts start.log := by
  cases opens with
  | idle inactive unknown => exact ⟨rfl, rfl⟩
  | switched ctx closing active next =>
      refine ⟨start.closePrevious_currentControl triggerCpiSwitch closing, ?_⟩
      cases previous : start.previous with
      | none => simp only [closePrevious, previous, shift]
      | some late =>
          obtain ⟨nextOutputId, output, sealedCtx, -, closed⟩ := sound.commits previous closing
          rw [closed, shift, openedContexts_append]
          exact List.append_nil _

/-- A change of the active window only. -/
private theorem Carries.of_active {before after : Windows} {ctx next : CpiContext}
    {events : List WindowEvent} (active : before.active = some ctx)
    (control : after.currentControl = before.currentControl)
    (previous : after.previous = before.previous) (log : after.log = before.log ++ events)
    (about : ∀ event ∈ events, before.Reports event) (same : next.label = ctx.label)
    (left : after.active = some next ∨ after.active = none) : Carries before after where
  control := control
  active other is := by
    rcases left with stays | gone
    · obtain rfl := Option.some.inj (stays.symm.trans is)
      exact ⟨ctx, active, same⟩
    · cases gone.symm.trans is
  previous other is := ⟨other, .inr (previous.symm.trans is), rfl⟩
  events := ⟨events, log, about⟩

/-- A change of the previous window only. -/
private theorem Carries.of_previous {before after : Windows} {ctx next : CpiContext}
    {events : List WindowEvent} (previous : before.previous = some ctx)
    (control : after.currentControl = before.currentControl)
    (active : after.active = before.active) (log : after.log = before.log ++ events)
    (about : ∀ event ∈ events, before.Reports event) (same : next.label = ctx.label)
    (left : after.previous = some next ∨ after.previous = none) : Carries before after where
  control := control
  active other is := ⟨other, active.symm.trans is, rfl⟩
  previous other is := by
    rcases left with stays | gone
    · obtain rfl := Option.some.inj (stays.symm.trans is)
      exact ⟨ctx, .inr previous, same⟩
    · cases gone.symm.trans is
  events := ⟨events, log, about⟩

theorem Move.binds (formed : spec.WellFormed) {op : Op} {start before after : Windows}
    (sound : before.Sound spec) (move : Move spec op start before after) :
    Binds spec op start before after := by
  cases move with
  | staged parsed control valid notActive notPrevious =>
      exact .staged parsed control valid notActive notPrevious
  | reboundActive ctx parsed control valid active same =>
      exact .reboundActive ctx parsed control valid active (by simp [holding, active, same])
  | reboundPrevious ctx parsed control valid notActive previous same =>
      exact .reboundPrevious ctx parsed control valid previous
  | opened index parsed packet data inactive opens =>
      exact .opened index parsed packet data opens
  | judged accepted =>
      exact .carried ⟨rfl, fun ctx is => ⟨ctx, is, rfl⟩, fun ctx is => ⟨ctx, .inr is, rfl⟩,
        [], (List.append_nil _).symm, List.forall_mem_nil _⟩
  | shifted ctx active vacant =>
      refine .carried ⟨rfl, fun _ impossible => ?_, fun ctx is => ⟨ctx, .inl is, rfl⟩, [],
        (List.append_nil _).symm, List.forall_mem_nil _⟩
      cases impossible
  | discardedPrevious ctx marks previous =>
      exact .carried (.of_previous previous rfl rfl rfl
        (List.forall_mem_singleton.mpr (.of_undelivered (.inr previous) rfl rfl rfl)) rfl
        (.inr rfl))
  | discardedActive ctx marks active =>
      exact .carried (.of_active active rfl rfl rfl
        (List.forall_mem_singleton.mpr (.of_undelivered (.inl active) rfl rfl rfl)) rfl (.inr rfl))
  | repeatedActive ctx active =>
      have label : ctx.countDuplicate.label = ctx.label := rfl
      exact .carried (.of_active active rfl rfl (List.append_nil _).symm (List.forall_mem_nil _)
        label (.inl rfl))
  | repeatedPrevious ctx previous =>
      have label : ctx.countDuplicate.label = ctx.label := rfl
      exact .carried (.of_previous previous rfl rfl (List.append_nil _).symm (List.forall_mem_nil _)
        label (.inl rfl))
  | storedActive ctx parsed packet bytes data active same takes stays =>
      have label := ctx.receive_label spec parsed bytes
      exact .carried (.of_active active rfl rfl rfl
        (List.forall_mem_singleton.mpr (.of_undelivered (.inl active) label rfl rfl)) label
        (.inl rfl))
  | storedPrevious active previous parsed packet bytes data isActive isPrevious other notNext same
      takes =>
      have label := previous.receive_label spec parsed bytes
      exact .carried (.of_previous isPrevious rfl rfl rfl
        (List.forall_mem_singleton.mpr (.of_undelivered (.inr isPrevious) label rfl rfl)) label
        (.inl rfl))
  | committedPrevious active previous parsed packet closing data isActive next isPrevious =>
      obtain ⟨nextOutputId, output, sealedCtx, produced, closed⟩ := sound.commits isPrevious closing
      rw [closed]
      exact .carried (.of_previous isPrevious rfl rfl rfl
        (List.forall_mem_singleton.mpr (.produced (.inr isPrevious) rfl produced _)) rfl (.inr rfl))
  | filledActive ctx parsed packet bytes closing data active same takes closes =>
      obtain ⟨nextOutputId, output, sealedCtx, decision, -, produced, closed⟩ :=
        sound.fills formed active same takes closes closing
      have label := ctx.receive_label spec parsed bytes
      rw [closed]
      refine .carried (.of_active active rfl rfl rfl ?_ rfl (.inr rfl))
      intro event member
      rcases List.mem_cons.mp member with rfl | last
      · exact .of_undelivered (.inl active) label rfl rfl
      · exact List.forall_mem_singleton.mpr (.produced (.inl active) label produced _) event last

end Windows

end RxTech
