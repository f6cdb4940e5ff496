import RxTech.Core.FixedView
import RxTech.Core.StorageProperties
import RxTech.Core.Delivery

/-!
# Fixed mode ignores control packets

With fixed PRT counts every window is bound as it was opened, so merging the
snapshot of a control packet leaves it as it is.
-/

set_option autoImplicit false

namespace RxTech

/-! ## Windows in fixed mode -/

/-- What binding a snapshot writes, and the CPI. -/
def CpiContext.plan (ctx : CpiContext) : UInt16 × ControlSnapshot × Nat × Nat × Nat × Nat :=
  (ctx.header.cpiId, ctx.control, ctx.header.expectedNPrt, ctx.header.channelsPerPrt,
    ctx.header.packetsPerChannel, ctx.header.expectedSlotCount)

/-- The context is bound to the fixed snapshot of its CPI. -/
def CpiContext.Fixed (spec : ProtocolSpec) (ctx : CpiContext) : Prop :=
  bindControlSnapshot ctx (makeFixedSnapshot ctx.header.cpiId spec) = ctx

section Plan

variable {spec : ProtocolSpec}

private theorem bindControlSnapshot_plan {ctx other : CpiContext}
    (same : ctx.header.cpiId = other.header.cpiId)
    (control : ControlSnapshot) :
    (bindControlSnapshot ctx control).plan = (bindControlSnapshot other control).plan := by
  unfold bindControlSnapshot
  split <;> simp [CpiContext.plan, setExpectedPrtCount, same]

private theorem bindControlSnapshot_eq_self {ctx : CpiContext} {control : ControlSnapshot}
    (same : (bindControlSnapshot ctx control).plan = ctx.plan) :
    bindControlSnapshot ctx control = ctx := by
  obtain ⟨header, bound, prtSummary, slotValidBytes, payload, birth⟩ := ctx
  obtain ⟨⟩ := header
  simp only [bindControlSnapshot] at same ⊢
  by_cases usable : control.valid = true ∧ control.nPrt > 0
  · rw [if_pos usable] at same ⊢
    simp only [CpiContext.plan, setExpectedPrtCount, Prod.mk.injEq] at same
    obtain ⟨-, rfl, rfl, rfl, rfl, rfl⟩ := same
    rfl
  · rw [if_neg usable] at same ⊢
    simp only [CpiContext.plan, Prod.mk.injEq] at same
    obtain ⟨-, rfl, rfl, rfl, rfl, rfl⟩ := same
    rfl

theorem CpiContext.Fixed.of_plan {ctx next : CpiContext} (fixed : ctx.Fixed spec)
    (same : next.plan = ctx.plan) : next.Fixed spec := by
  have named : next.header.cpiId = ctx.header.cpiId := congrArg Prod.fst same
  apply bindControlSnapshot_eq_self
  rw [bindControlSnapshot_plan named, named, fixed, same]

theorem CpiContext.Fixed.bound (ctx : CpiContext) :
    (bindControlSnapshot ctx (makeFixedSnapshot ctx.header.cpiId spec)).Fixed spec := by
  have named : (bindControlSnapshot ctx (makeFixedSnapshot ctx.header.cpiId spec)).header.cpiId =
      ctx.header.cpiId := cpiId_of_identity (bindControlSnapshot_identity ..)
  apply bindControlSnapshot_eq_self
  rw [named]
  exact bindControlSnapshot_plan named _

theorem CpiContext.Fixed.control {ctx : CpiContext} (fixed : ctx.Fixed spec) :
    ctx.control = makeFixedSnapshot ctx.header.cpiId spec := by
  have same := bindControlSnapshot_control ctx (makeFixedSnapshot ctx.header.cpiId spec)
  rwa [fixed] at same

/-- Merging the fixed snapshot once more changes nothing. -/
theorem CpiContext.Fixed.merge {ctx : CpiContext} (fixed : ctx.Fixed spec) :
    mergeControlSnapshot ctx (makeFixedSnapshot ctx.header.cpiId spec) = ctx := by
  have source : ctx.control.bindSource = .fixed := by
    rw [fixed.control]
    rfl
  have candidate : (makeFixedSnapshot ctx.header.cpiId spec).bindSource = .fixed := rfl
  simp only [mergeControlSnapshot, source, candidate, reduceCtorEq, false_and, if_false]
  split
  · exact fixed
  · rfl

private theorem makeControlSnapshot_fixed (fixed : spec.dynamicPrtEnabled = false)
    (parsed : ParsedPacketView) :
    makeControlSnapshot parsed spec = makeFixedSnapshot parsed.cpi spec := if_pos fixed

theorem ProgressTracker.advance_plan (ctx : CpiContext) (prt channel : Nat) (sawTail : Bool) :
    (ProgressTracker.advance spec ctx prt channel sawTail).plan = ctx.plan := by
  have ready (ctx : CpiContext) (pktPerCh : Nat) :
      (markChannelReady ctx prt channel pktPerCh).plan = ctx.plan := by
    simp only [markChannelReady]
    split <;> rfl
  have complete (ctx : CpiContext) (chCount : Nat) :
      (markPrtComplete ctx prt chCount).plan = ctx.plan := by
    simp only [markPrtComplete]
    split <;> rfl
  have tail (ctx : CpiContext) : (observeTail ctx prt).plan = ctx.plan := by
    simp only [observeTail, apply_ite CpiContext.plan]
    exact ite_self _
  have full (ctx : CpiContext) : (markFullReady ctx).plan = ctx.plan := by
    simp only [markFullReady]
    split <;> rfl
  simp only [advance, advancePrt]
  split
  · rfl
  · cases sawTail <;> simp [ready, complete, tail, full]

theorem SlotWriter.write_plan (ctx : CpiContext) (packet : ParsedPacketView) :
    (SlotWriter.write spec ctx packet).1.plan = ctx.plan := by
  have outcome := SlotWriter.write_outcome spec ctx packet
  generalize SlotWriter.write spec ctx packet = result at outcome ⊢
  cases outcome <;> rfl

end Plan

namespace Windows

variable {spec : ProtocolSpec}

/-- Every window is as it was bound. -/
def Fixed (spec : ProtocolSpec) (w : Windows) : Prop :=
  ∀ ctx, w.Holds ctx → ctx.Fixed spec

theorem Fixed.write {ctx : CpiContext} (fixed : ctx.Fixed spec) (packet : ParsedPacketView) :
    (SlotWriter.write spec ctx packet).1.Fixed spec :=
  CpiContext.Fixed.of_plan fixed (SlotWriter.write_plan ctx packet)

theorem Fixed.stored {ctx : CpiContext} (fixed : ctx.Fixed spec) (parsed : ParsedPacketView)
    (packet : InterpretedPacketView) : (Windows.stored spec ctx parsed packet).Fixed spec :=
  CpiContext.Fixed.of_plan fixed (ProgressTracker.advance_plan ..)

/-- Only the windows are looked at. -/
theorem Fixed.of_windows {w next : Windows} (fixed : w.Fixed spec)
    (active : ∀ ctx, next.active = some ctx → ctx.Fixed spec)
    (previous : next.previous = w.previous) : next.Fixed spec := by
  intro ctx holds
  cases holds with
  | inl isActive => exact active ctx isActive
  | inr isPrevious => exact fixed ctx (.inr (previous ▸ isPrevious))

theorem Fixed.closeActive {w : Windows} (fixed : ∀ ctx, w.previous = some ctx → ctx.Fixed spec)
    (trigger : Nat) (closing : Closing) : (w.closeActive trigger closing).Fixed spec := by
  obtain ⟨vacant, kept⟩ := closeActive_eq (w := w) trigger closing
  intro ctx holds
  cases holds with
  | inl isActive =>
      rw [vacant] at isActive
      cases isActive
  | inr isPrevious => exact fixed ctx (kept ▸ isPrevious)

theorem Fixed.closePrevious {w : Windows} (fixed : ∀ ctx, w.active = some ctx → ctx.Fixed spec)
    (trigger : Nat) (closing : Closing) : (w.closePrevious trigger closing).Fixed spec := by
  obtain ⟨kept, vacant⟩ := closePrevious_eq (w := w) trigger closing
  intro ctx holds
  cases holds with
  | inl isActive => exact fixed ctx (kept ▸ isActive)
  | inr isPrevious =>
      rw [vacant] at isPrevious
      cases isPrevious

theorem Fixed.shift {w : Windows} (fixed : w.Fixed spec) : w.shift.Fixed spec := by
  intro ctx holds
  cases holds with
  | inl isActive => cases isActive
  | inr isPrevious => exact fixed ctx (.inl isPrevious)

theorem Fixed.writeActive {w : Windows} (fixed : w.Fixed spec) {ctx : CpiContext}
    (active : ctx.Fixed spec) (parsed : ParsedPacketView) (packet : InterpretedPacketView)
    (closing : Closing) : (w.writeActive spec ctx parsed packet closing).1.Fixed spec := by
  have written := Fixed.write active parsed
  have advanced := Fixed.stored written parsed packet
  have previous : ∀ other, w.previous = some other → other.Fixed spec :=
    fun other is => fixed other (.inr is)
  simp only [Windows.writeActive]
  split
  · refine fixed.of_windows (fun other is => ?_) rfl
    rwa [← Option.some.inj is]
  split
  · exact fixed
  split
  · refine Fixed.closeActive ?_ _ _
    exact previous
  · refine fixed.of_windows (fun other is => ?_) rfl
    rwa [← Option.some.inj is]

theorem Fixed.writeLate {w : Windows} (fixed : w.Fixed spec) (parsed : ParsedPacketView)
    (packet : InterpretedPacketView) : (w.writeLate spec parsed packet).1.Fixed spec := by
  simp only [Windows.writeLate]
  cases late : holding w.previous parsed.cpi with
  | none => exact fixed
  | some ctx =>
      have isPrevious := (holding_eq_some late).1
      have written := Fixed.write (fixed ctx (.inr isPrevious)) parsed
      have advanced := Fixed.stored written parsed packet
      dsimp only
      split
      · intro other holds
        cases holds with
        | inl isActive => exact fixed other (.inl isActive)
        | inr is => rwa [← Option.some.inj is]
      · intro other holds
        cases holds with
        | inl isActive => exact fixed other (.inl isActive)
        | inr is => rwa [← Option.some.inj is]

private theorem openedCtx_fixed (fixed : spec.dynamicPrtEnabled = false) (w : Windows)
    (cpiId : UInt16)
    (index : PoolIndex) : (w.openedCtx spec cpiId index).Fixed spec := by
  have selected : selectOpenSnapshot cpiId spec w.currentControl = makeFixedSnapshot cpiId spec :=
    if_pos fixed
  rw [openedCtx, selected]
  exact CpiContext.Fixed.bound (CpiContext.reset cpiId (some index) w.openings)

theorem Fixed.openWindow (static : spec.dynamicPrtEnabled = false) {w : Windows}
    (fixed : w.Fixed spec) (cpiId : UInt16) (index : PoolIndex) :
    (w.openWindow spec cpiId index).Fixed spec := by
  refine fixed.of_windows (fun other is => ?_) rfl
  rw [← Option.some.inj is]
  exact openedCtx_fixed static w cpiId index

theorem Fixed.openAndWrite (static : spec.dynamicPrtEnabled = false) {w : Windows}
    (fixed : w.Fixed spec) (parsed : ParsedPacketView) (packet : InterpretedPacketView)
    (acquired : Option PoolIndex) (closing : Closing) :
    (w.openAndWrite spec parsed packet acquired closing).1.Fixed spec := by
  cases acquired with
  | none => exact fixed
  | some index =>
      exact Fixed.writeActive (fixed.openWindow static packet.cpi index)
        (openedCtx_fixed static w packet.cpi index) parsed packet closing

theorem Fixed.admitPacket (static : spec.dynamicPrtEnabled = false) {w : Windows}
    (fixed : w.Fixed spec) {ctx : CpiContext} (active : w.active = some ctx)
    (parsed : ParsedPacketView) (packet : InterpretedPacketView) (choices : Choices) :
    (w.admitPacket spec ctx parsed packet choices).1.Fixed spec := by
  simp only [Windows.admitPacket]
  cases CpiAdmission.judge parsed ctx.header.cpiId w.closedRing with
  | writeActive => exact fixed.writeActive (fixed ctx (.inl active)) parsed packet _
  | triggerCpiSwitch =>
      have closed : (w.closePrevious triggerCpiSwitch choices.previousClosing).Fixed spec :=
        Fixed.closePrevious (fun other is => fixed other (.inl is)) _ _
      exact closed.shift.openAndWrite static parsed packet _ _
  | lateToClosed | drop => exact fixed.writeLate parsed packet

theorem Fixed.processData (static : spec.dynamicPrtEnabled = false) {w : Windows}
    (fixed : w.Fixed spec) (parsed : ParsedPacketView) (packet : InterpretedPacketView)
    (choices : Choices) : (w.processData spec parsed packet choices).1.Fixed spec := by
  cases active : w.active with
  | some ctx =>
      simp only [Windows.processData, active]
      exact fixed.admitPacket static active parsed packet choices
  | none =>
      simp only [Windows.processData, active]
      split
      · exact fixed
      · cases choices.acquired with
        | none => exact fixed
        | some index =>
            exact (fixed.openWindow static packet.cpi index).admitPacket static rfl parsed packet
              choices

/-- A window that holds the CPI of a control packet is merged to itself. -/
theorem Fixed.merge (static : spec.dynamicPrtEnabled = false) {ctx : CpiContext}
    (fixed : ctx.Fixed spec) {parsed : ParsedPacketView}
    (same : ctx.header.cpiId = (makeControlSnapshot parsed spec).cpiId) :
    mergeControlSnapshot ctx (makeControlSnapshot parsed spec) = ctx := by
  rw [makeControlSnapshot_cpiId] at same
  rw [makeControlSnapshot_fixed static, ← same]
  exact CpiContext.Fixed.merge fixed

theorem Fixed.processControl (static : spec.dynamicPrtEnabled = false) {w : Windows}
    (fixed : w.Fixed spec) (parsed : ParsedPacketView) : (w.processControl spec parsed).Fixed spec := by
  simp only [Windows.processControl]
  split
  · exact fixed
  cases here : holding w.active (makeControlSnapshot parsed spec).cpiId with
  | some ctx =>
      obtain ⟨active, same⟩ := holding_eq_some here
      have holds := fixed ctx (.inl active)
      simp only [rebindActive, Fixed.merge static holds same]
      refine fixed.of_windows (fun other is => ?_) rfl
      rwa [← Option.some.inj is]
  | none =>
      cases late : holding w.previous (makeControlSnapshot parsed spec).cpiId with
      | none => exact fixed
      | some ctx =>
          obtain ⟨previous, same⟩ := holding_eq_some late
          have holds := fixed ctx (.inr previous)
          simp only [rebindPrevious, Fixed.merge static holds same]
          intro other window
          cases window with
          | inl isActive => exact fixed other (.inl isActive)
          | inr is => rwa [← Option.some.inj is]

theorem Fixed.checkPreviousTimeout {w : Windows} (fixed : w.Fixed spec) (nowNs : Nat)
    (closing : Closing) : (w.checkPreviousTimeout nowNs closing).Fixed spec := by
  simp only [Windows.checkPreviousTimeout]
  split
  · split
    · refine Fixed.closePrevious (fun other is => ?_) _ _
      exact fixed other (.inl is)
    · exact fixed
  · exact fixed

theorem Fixed.checkActiveTimeout {w : Windows} (fixed : w.Fixed spec) (nowNs : Nat)
    (closing : Closing) : (w.checkActiveTimeout nowNs closing).Fixed spec := by
  simp only [Windows.checkActiveTimeout]
  split
  · split
    · refine Fixed.closeActive (fun other is => ?_) _ _
      exact fixed other (.inr is)
    · exact fixed
  · exact fixed

theorem Fixed.shutdown {w : Windows} (fixed : w.Fixed spec) (choices : Choices) :
    (w.shutdown choices).Fixed spec := by
  have closed : (w.closePrevious triggerStop choices.previousClosing).Fixed spec :=
    Fixed.closePrevious (fun other is => fixed other (.inl is)) _ _
  simp only [Windows.shutdown]
  split
  · exact closed
  · refine Fixed.closeActive (fun other is => ?_) _ _
    exact closed other (.inr is)

theorem Fixed.step (static : spec.dynamicPrtEnabled = false) {w : Windows} (fixed : w.Fixed spec)
    (op : Op) (choices : Choices) : (w.step spec op choices).Fixed spec := by
  cases op with
  | control parsed => exact fixed.processControl static parsed
  | data parsed packet =>
      intro ctx holds
      exact fixed.processData static parsed packet choices ctx holds
  | timeout nowNs => exact (fixed.checkPreviousTimeout nowNs _).checkActiveTimeout nowNs _
  | drainRecycle | consumer => exact fixed
  | shutdown => exact fixed.shutdown choices

end Windows

/-! ## Runs with and without control packets -/

def Op.isControl : Op → Bool
  | .control _ => true
  | .data _ _ | .timeout _ | .drainRecycle | .consumer | .shutdown => false

namespace System

variable {spec : ProtocolSpec}

/-- What the caller of an operation gets back. -/
def answer (spec : ProtocolSpec) (op : Op) (s : System) : Option Bool :=
  match op with
  | .data parsed packet => some (s.processDataPacket spec parsed packet).2
  | .timeout nowNs => some (s.checkTimeout nowNs).2
  | .control _ | .drainRecycle | .consumer | .shutdown => none

/-- The coordinator, with windows that are as they were bound. -/
structure FixedMode (spec : ProtocolSpec) (s : System) : Prop where
  owned : s.Owned
  fixed : s.windows.Fixed spec

theorem FixedMode.step (static : spec.dynamicPrtEnabled = false) {s : System}
    (mode : s.FixedMode spec) (op : Op) : (s.step spec op).FixedMode spec := by
  obtain ⟨choices, failures, refines, -⟩ := step_refines spec op mode.owned
  constructor
  · exact refines.owned
  · rw [refines.windows]
    exact mode.fixed.step static op choices

private theorem windowOf_cpiId {s : System} {window : Option PoolIndex} {cpiId : UInt16}
    {index : PoolIndex} (found : s.windowOf window cpiId = some index) :
    (s.ctxPool.contexts index).header.cpiId = cpiId := by
  simpa using (Option.filter_eq_some_iff.mp found).2

private theorem rebind_fixedView (static : spec.dynamicPrtEnabled = false) {s : System}
    {index : PoolIndex}
    {parsed : ParsedPacketView} (fixed : (s.ctxPool.contexts index).Fixed spec)
    (same : (s.ctxPool.contexts index).header.cpiId = (makeControlSnapshot parsed spec).cpiId) :
    (s.rebind index (makeControlSnapshot parsed spec)).fixedView = s.fixedView := by
  simp only [rebind, Windows.Fixed.merge static fixed same]
  simp [fixedView, setCtx, CpiContextPool.set, WindowEvent.untimed]

/-- A control packet does not change the view. -/
theorem processControlPacket_fixedView (static : spec.dynamicPrtEnabled = false) {s : System}
    (mode : s.FixedMode spec) (parsed : ParsedPacketView) :
    (s.processControlPacket spec parsed).fixedView = s.fixedView := by
  simp only [processControlPacket]
  split
  · rfl
  cases here : s.windowOf s.activeCtxIndex (makeControlSnapshot parsed spec).cpiId with
  | some index =>
      have window : s.windows.active = some (s.ctxPool.contexts index) :=
        congrArg (Option.map s.ctxPool.contexts) (windowOf_eq_some here)
      exact rebind_fixedView static (mode.fixed _ (.inl window)) (windowOf_cpiId here)
  | none =>
      cases late : s.windowOf s.previousCtxIndex (makeControlSnapshot parsed spec).cpiId with
      | none => rfl
      | some index =>
          have window : s.windows.previous = some (s.ctxPool.contexts index) :=
            congrArg (Option.map s.ctxPool.contexts) (windowOf_eq_some late)
          exact rebind_fixedView static (mode.fixed _ (.inr window)) (windowOf_cpiId late)

/-- An operation other than a control packet on a view. -/
theorem step_fixedView (static : spec.dynamicPrtEnabled = false) (s : System) {op : Op}
    (other : op.isControl = false) :
    (s.fixedView.step spec op).fixedView = (s.step spec op).fixedView ∧
      s.fixedView.answer spec op = s.answer spec op := by
  have stable := s.fixedView_fixedView
  cases op with
  | control parsed => cases other
  | data parsed packet =>
      have processed := processDataPacket_fixedView static s parsed packet
      obtain ⟨views, flags⟩ := Prod.mk.inj processed
      constructor
      · have judged (t : System) (accepted : Bool) :
            fixedView { t with verdicts := t.verdicts ++ [accepted] } =
              { t.fixedView with verdicts := t.fixedView.verdicts ++ [accepted] } := rfl
        simp only [System.step]
        rw [judged, judged, views, flags]
      · exact congrArg some flags
  | timeout nowNs =>
      have checked := fixedViews_of_eq (s.checkTimeout_fixedView nowNs)
      obtain ⟨views, flags⟩ := Prod.mk.inj checked
      exact ⟨views, congrArg some flags⟩
  | drainRecycle =>
      simp only [System.step, drainRecycle_fixedView, fixedView_fixedView, answer, and_self]
  | consumer =>
      simp only [System.step, consumerStep_fixedView, fixedView_fixedView, answer, and_self]
  | shutdown =>
      simp only [System.step, finalizeActiveForShutdown_fixedView, fixedView_fixedView, answer,
        and_self]

/-- Control packets are hidden from the view. -/
theorem fixedMode_hides (static : spec.dynamicPrtEnabled = false) :
    Machine.Hides (System.step spec) (System.answer spec) fixedView (fun op => !op.isControl)
      (FixedMode spec) where
  preserved s op mode := mode.step static op
  hidden s op control mode := by
    cases op with
    | control parsed => exact ⟨processControlPacket_fixedView static mode parsed, rfl⟩
    | data | timeout | drainRecycle | consumer | shutdown => cases control
  determined first second op other same := by
    have notControl : op.isControl = false := by simpa using other
    obtain ⟨firstViews, firstAnswer⟩ := step_fixedView static first notControl
    obtain ⟨secondViews, secondAnswer⟩ := step_fixedView static second notControl
    rw [← firstViews, ← secondViews, ← firstAnswer, ← secondAnswer, same]
    exact ⟨rfl, rfl⟩

private theorem pushedWith_fixedView (s : System) :
    pushedWith s.fixedView.windowLog =
      (pushedWith s.windowLog).map fun pushed => (pushed.1.untimed, pushed.2.untimed) := by
  have events (event : WindowEvent) : event.untimed.bind WindowEvent.pushedWith =
      event.pushedWith.map fun pushed => (pushed.1.untimed, pushed.2.untimed) := by
    cases event with
    | opened | stored | rebound | discarded => rfl
    | produced output ctx delivery => cases delivery <;> rfl
  rw [pushedWith, pushedWith, List.map_filterMap, fixedView, List.filterMap_filterMap]
  exact List.filterMap_congr fun event _ => events event

end System

/-- With fixed PRT counts a run without its control packets gives the same
answers to data packets and timeout checks, has the same windows and pushes the
same outputs, apart from when they were sealed. -/
theorem fixed_mode_ignores_control (config : RxConfig)
    (static : config.protocolDynamicPrtEnabled = false) (rings : Option (Nat × Nat))
    (consumerSchedule clock otherClock : List Nat) (ops : List Op) :
    let spec := protocolSpecFromConfig config
    let start := System.withRings rings consumerSchedule clock
    let otherStart := System.withRings rings consumerSchedule otherClock
    let others := ops.filter fun op => !op.isControl
    let s := Machine.run (System.step spec) ops start
    let t := Machine.run (System.step spec) others otherStart
    Machine.answers (System.step spec) (System.answer spec) ops start =
        Machine.answers (System.step spec) (System.answer spec) others otherStart ∧
      s.activeCtx.map CpiContext.untimed = t.activeCtx.map CpiContext.untimed ∧
      s.previousCtx.map CpiContext.untimed = t.previousCtx.map CpiContext.untimed ∧
      (pushedWith s.windowLog).map (fun pushed => (pushed.1.untimed, pushed.2.untimed)) =
        (pushedWith t.windowLog).map fun pushed => (pushed.1.untimed, pushed.2.untimed) := by
  intro spec start otherStart others s t
  have mode : start.FixedMode spec :=
    ⟨System.withRings_owned rings consumerSchedule clock, fun ctx holds => by
      rcases holds with impossible | impossible <;> cases impossible⟩
  obtain ⟨views, answers⟩ := (System.fixedMode_hides static).run ops mode
    (show start.fixedView = otherStart.fixedView from rfl)
  have active : s.fixedView.activeCtx = t.fixedView.activeCtx := congrArg System.activeCtx views
  have previous : s.fixedView.previousCtx = t.fixedView.previousCtx :=
    congrArg System.previousCtx views
  have pushed : pushedWith s.fixedView.windowLog = pushedWith t.fixedView.windowLog :=
    congrArg (fun s : System => pushedWith s.windowLog) views
  rw [System.pushedWith_fixedView, System.pushedWith_fixedView] at pushed
  refine ⟨answers, ?_, ?_, pushed⟩
  · rw [System.activeCtx, System.activeCtx, Option.map_map, Option.map_map]
    exact active
  · rw [System.previousCtx, System.previousCtx, Option.map_map, Option.map_map]
    exact previous

/-- Control tables for CPI 0, for the active window and for the previous one. -/
def interruptedOps : List Op :=
  let spec := protocolSpecFromConfig pairConfig
  [.announce 0 7, .zeroData spec 1 1 0 1 0, .announce 1 9, .zeroData spec 2 1 0 1 0, .announce 1 3,
    .zeroData spec 1 1 0 1 0, .zeroData spec 2 1 0 2 0, .announce 0 0, .zeroData spec 3 1 0 2 0]

theorem fixed_mode_ignores_control_interrupted :
    let spec := protocolSpecFromConfig pairConfig
    let start := System.withRings (some (32, 32)) [] [40, 41]
    let otherStart := System.withRings (some (32, 32)) [] [50]
    let others := interruptedOps.filter fun op => !op.isControl
    let s := Machine.run (System.step spec) interruptedOps start
    let t := Machine.run (System.step spec) others otherStart
    (others.length = 5 ∧ (pushedOutputs s.windowLog).length = 1) ∧
      Machine.answers (System.step spec) (System.answer spec) interruptedOps start =
        Machine.answers (System.step spec) (System.answer spec) others otherStart ∧
      s.activeCtx.map CpiContext.untimed = t.activeCtx.map CpiContext.untimed ∧
      s.previousCtx.map CpiContext.untimed = t.previousCtx.map CpiContext.untimed ∧
      (pushedWith s.windowLog).map (fun pushed => (pushed.1.untimed, pushed.2.untimed)) =
        (pushedWith t.windowLog).map fun pushed => (pushed.1.untimed, pushed.2.untimed) :=
  ⟨by decide +kernel, fixed_mode_ignores_control pairConfig rfl (some (32, 32)) [] [40, 41] [50]
    interruptedOps⟩

end RxTech
