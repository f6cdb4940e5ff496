import RxTech.Core.StorageProperties
import RxTech.Core.Staging

/-!
# Staged control snapshots

A snapshot staged for the next CPI binds the context that the first packet of that
CPI opens, as long as nothing writes the staging slot in between.
-/

set_option autoImplicit false

namespace RxTech

private theorem selectOpenSnapshot_staged {spec : ProtocolSpec}
    (dynamic : spec.dynamicPrtEnabled = true)
    {staged : ControlSnapshot} (valid : staged.valid = true) :
    selectOpenSnapshot staged.cpiId spec staged = staged := by
  simp [selectOpenSnapshot, dynamic, valid]

namespace Windows

variable {spec : ProtocolSpec}

/-- The operation leaves the staging slot alone: a control packet reaches the
previous window only, and a data packet opens no window. -/
def KeepsStaging (w : Windows) : Op → Prop
  | .control parsed => ValidControl parsed →
      holding w.active parsed.cpi = none ∧ (holding w.previous parsed.cpi).isSome = true
  | .data parsed _ => ¬ w.OpensFor parsed
  | .timeout _ | .drainRecycle | .consumer | .shutdown => True

instance (w : Windows) (op : Op) : Decidable (w.KeepsStaging op) :=
  match op with
  | .control parsed => inferInstanceAs (Decidable (ValidControl parsed →
      holding w.active parsed.cpi = none ∧ (holding w.previous parsed.cpi).isSome = true))
  | .data parsed _ => inferInstanceAs (Decidable (¬ w.OpensFor parsed))
  | .timeout _ | .drainRecycle | .consumer | .shutdown => isTrue trivial

/-- The snapshot of `cpiId` is staged, and the active window is the one before. -/
structure Awaits (cpiId : UInt16) (snapshot : ControlSnapshot) (w : Windows) : Prop where
  control : w.currentControl = snapshot
  active : ∀ ctx, w.active = some ctx → cpiId = ctx.header.cpiId + 1

theorem Awaits.move {cpiId : UInt16} {snapshot : ControlSnapshot} (formed : spec.WellFormed)
    {op : Op} {start before after : Windows} (keeps : start.KeepsStaging op)
    (sound : before.Sound spec) (move : Move spec op start before after)
    (awaits : before.Awaits cpiId snapshot) : after.Awaits cpiId snapshot := by
  have binds := move.binds formed sound
  cases binds with
  | carried carries =>
      refine ⟨carries.control.trans awaits.control, fun ctx active => ?_⟩
      obtain ⟨old, wasActive, same⟩ := carries.active ctx active
      have named : ctx.header.cpiId = old.header.cpiId := congrArg Prod.fst same
      rw [named]
      exact awaits.active old wasActive
  | staged parsed control valid notActive notPrevious =>
      subst control
      obtain ⟨-, reaches⟩ := keeps valid
      rw [notPrevious] at reaches
      cases reaches
  | reboundActive ctx parsed control valid active found =>
      subst control
      obtain ⟨missed, -⟩ := keeps valid
      cases found.symm.trans missed
  | reboundPrevious => exact ⟨awaits.control, awaits.active⟩
  | opened index parsed packet data opens =>
      subst data
      exact absurd opens.opensFor keeps

private theorem processControl_staged {w : Windows} {parsed : ParsedPacketView}
    (valid : ValidControl parsed) (notActive : holding w.active parsed.cpi = none)
    (notPrevious : holding w.previous parsed.cpi = none) :
    w.processControl spec parsed =
      { w with currentControl := makeControlSnapshot parsed spec } := by
  have accepted : ¬ (parsed.valid = false ∨ parsed.kind ≠ .controlTable) := by
    simp [valid.valid, valid.kind]
  simp only [processControl, if_neg accepted, makeControlSnapshot_cpiId, notActive, notPrevious]

/-- What an operation that began in `start` has opened so far: contexts of the CPI
that are bound to the snapshot, which stays staged. -/
structure OpensBound (cpiId : UInt16) (snapshot : ControlSnapshot) (start w : Windows) : Prop where
  control : w.currentControl = snapshot
  opened : ∃ new, openedContexts w.log = openedContexts start.log ++ new ∧
    ∀ ctx ∈ new, ctx.header.cpiId = cpiId ∧ ctx.control = snapshot

theorem OpensBound.move (formed : spec.WellFormed) (dynamic : spec.dynamicPrtEnabled = true)
    {snapshot : ControlSnapshot} (usable : snapshot.valid = true) {parsed : ParsedPacketView}
    {packet : InterpretedPacketView} (same : parsed.cpi = snapshot.cpiId)
    {begun start before after : Windows} (sound : before.Sound spec)
    (move : Move spec (.data parsed packet) begun before after)
    (bound : OpensBound parsed.cpi snapshot start before) :
    OpensBound parsed.cpi snapshot start after := by
  obtain ⟨new, opened, all⟩ := bound.opened
  have binds := move.binds formed sound
  cases binds with
  | carried carries =>
      exact ⟨carries.control.trans bound.control, new, carries.openedContexts_eq.trans opened, all⟩
  | staged _ control => cases control
  | reboundActive _ _ control => cases control
  | reboundPrevious _ _ control => cases control
  | opened index other otherPacket data opens =>
      cases data
      have selected : selectOpenSnapshot parsed.cpi spec before.currentControl = snapshot := by
        rw [bound.control, same]
        exact selectOpenSnapshot_staged dynamic usable
      refine ⟨selected, new ++ [before.openedCtx spec parsed.cpi index], ?_, ?_⟩
      · rw [openedContexts_openWindow, opened, List.append_assoc]
      · intro ctx member
        rcases List.mem_append.mp member with old | added
        · exact all ctx old
        · rw [List.mem_singleton.mp added]
          exact ⟨openedCtx_cpiId .., (openedCtx_control ..).trans selected⟩

private theorem openAndWrite_opens (spec : ProtocolSpec) (w : Windows) {parsed : ParsedPacketView}
    {packet : InterpretedPacketView} (valid : ValidData parsed packet) (index : PoolIndex)
    (closing : Closing) :
    (openedContexts w.log).length <
      (openedContexts (w.openAndWrite spec parsed packet (some index) closing).1.log).length := by
  have named : parsed.cpi = (w.openedCtx spec parsed.cpi index).header.cpiId :=
    (w.openedCtx_cpiId spec parsed.cpi index).symm
  have written : Moves spec (.data parsed packet) w (w.openWindow spec parsed.cpi index)
      (w.openAndWrite spec parsed packet (some index) closing).1 := by
    simp only [openAndWrite, valid.cpi]
    exact writeActive_moves rfl valid rfl named closing
  have grown := (openedContexts_mono written.log).length_le
  have opened := congrArg List.length (openedContexts_openWindow spec w parsed.cpi index)
  simp only [List.length_append, List.length_singleton] at opened
  omega

private theorem processData_opens (spec : ProtocolSpec) {w : Windows} {parsed : ParsedPacketView}
    {packet : InterpretedPacketView} (valid : ValidData parsed packet) (opens : w.OpensFor parsed)
    {choices : Choices} (acquired : choices.acquired.isSome = true)
    (switchAcquired : choices.switchAcquired.isSome = true) :
    (openedContexts w.log).length <
      (openedContexts (w.processData spec parsed packet choices).1.log).length := by
  rcases opens with ⟨inactive, unknown⟩ | ⟨ctx, active, next⟩
  · obtain ⟨index, is⟩ := Option.isSome_iff_exists.mp acquired
    rw [processData_idle valid inactive unknown, is]
    exact openAndWrite_opens spec w valid index _
  · obtain ⟨index, is⟩ := Option.isSome_iff_exists.mp switchAcquired
    have closed := openedContexts_mono
      (w.closePrevious_log triggerCpiSwitch choices.previousClosing)
    have opened := openAndWrite_opens spec
      (w.closePrevious triggerCpiSwitch choices.previousClosing).shift valid index
      choices.activeClosing
    simp only [processData, active, admitPacket_switch valid next, is]
    exact Nat.lt_of_le_of_lt closed.length_le opened

end Windows

/-- The packet of the announced CPI, between `before` and `after`, opens contexts of
that CPI only, and binds them to the announced count. It opens one unless the pool is
exhausted or the CPI is remembered as closed. -/
def System.OpensAnnounced (control : ParsedPacketView) (before after : System) : Prop :=
  ∃ new, openedContexts after.windowLog = openedContexts before.windowLog ++ new ∧
    (∀ ctx ∈ new, ctx.header.cpiId = control.cpi ∧ ctx.control.bindSource = .control ∧
      ctx.control.nPrt = control.prt) ∧
    (after.metrics.poolExhaustionCount = before.metrics.poolExhaustionCount →
      (before.activeCtx = none → before.closedRing.contains control.cpi = false) → new ≠ [])

namespace System

variable {s : System} {control : ParsedPacketView}

/-- A control packet for the CPI after the active one is staged. -/
theorem step_awaits (spec : ProtocolSpec) (owned : s.Owned) (valid : ValidControl control)
    {active : CpiContext} (isActive : s.activeCtx = some active)
    (next : control.cpi = active.header.cpiId + 1)
    (notPrevious : ∀ previous, s.previousCtx = some previous →
      previous.header.cpiId ≠ control.cpi) :
    (s.step spec (.control control)).windows.Awaits control.cpi
      (makeControlSnapshot control spec) := by
  have notActive : Windows.holding s.windows.active control.cpi = none := by
    have other : active.header.cpiId ≠ control.cpi := by
      rw [next]
      exact (succ_ne_self active.header.cpiId).symm
    simp [windows, Windows.holding, isActive, other]
  have notHeld : Windows.holding s.windows.previous control.cpi = none := by
    refine Option.filter_eq_none_iff.mpr fun previous is => ?_
    simpa using notPrevious previous is
  obtain ⟨choices, step⟩ := (windows_simulates spec).commutes s (.control control) owned
  rw [step, Windows.step, Windows.processControl_staged valid notActive notHeld]
  refine ⟨rfl, fun ctx is => ?_⟩
  obtain rfl := Option.some.inj (isActive.symm.trans is)
  exact next

private theorem awaits_opensFor {snapshot : ControlSnapshot} {data : ParsedPacketView}
    (awaits : s.windows.Awaits control.cpi snapshot) (same : data.cpi = control.cpi)
    (unknown : s.activeCtx = none → s.closedRing.contains control.cpi = false) :
    s.windows.OpensFor data := by
  cases active : s.activeCtx with
  | none =>
      refine .inl ⟨active, ?_⟩
      rw [same]
      exact unknown active
  | some ctx => exact .inr ⟨ctx, active, same.trans (awaits.active ctx active)⟩

private theorem step_opensAnnounced {spec : ProtocolSpec} (formed : spec.WellFormed)
    (owned : s.Owned)
    (sound : s.windows.Sound spec) (legal : LegalControl spec control)
    (awaits : s.windows.Awaits control.cpi (makeControlSnapshot control spec))
    {data : ParsedPacketView} {packet : InterpretedPacketView} (valid : ValidData data packet)
    (same : data.cpi = control.cpi) :
    OpensAnnounced control s (s.step spec (.data data packet)) := by
  have snapshot := makeControlSnapshot_legal legal
  have usable : (makeControlSnapshot control spec).valid = true := by rw [snapshot]
  have own : data.cpi = (makeControlSnapshot control spec).cpiId := by
    rw [makeControlSnapshot_cpiId, same]
  have start : Windows.OpensBound data.cpi (makeControlSnapshot control spec) s.windows s.windows :=
    ⟨awaits.control, [], (List.append_nil _).symm, fun _ impossible => nomatch impossible⟩
  obtain ⟨-, bound⟩ := Windows.op_preserves formed
    (fun _ _ _ sound move bound =>
      Windows.OpensBound.move formed legal.1 usable own sound move bound)
    owned sound start valid
  obtain ⟨new, opened, all⟩ := bound.opened
  refine ⟨new, opened, fun ctx member => ?_, fun room unknown empty => ?_⟩
  · obtain ⟨named, control⟩ := all ctx member
    rw [control, snapshot, named]
    exact ⟨same, rfl, rfl⟩
  · obtain ⟨choices, failures, refines, answered⟩ := step_refines spec (.data data packet) owned
    have none : failures = 0 := by
      have := refines.exhaustion
      omega
    obtain ⟨acquired, switchAcquired⟩ := answered none
    have grown := Windows.processData_opens spec valid
      (awaits_opensFor awaits same unknown) acquired switchAcquired
    have step : (s.step spec (.data data packet)).windowLog =
        (s.windows.processData spec data packet choices).1.log :=
      congrArg Windows.log refines.windows
    rw [← step] at grown
    rw [empty, List.append_nil] at opened
    exact Nat.ne_of_gt grown (congrArg List.length opened)

end System

/-- What is bound when a snapshot has been staged for the next CPI: while nothing
writes the staging slot, the first packet of that CPI opens a context that is bound
to it. -/
theorem staged_control_binds_next (config : RxConfig) (rings : Option (Nat × Nat))
    (consumerSchedule clock : List Nat) (ops between : List Op)
    (valid : ∀ op ∈ ops ++ between, op.Valid) (control data : ParsedPacketView)
    (packet : InterpretedPacketView) (validControl : ValidControl control)
    (validData : ValidData data packet) (same : data.cpi = control.cpi)
    (legal : LegalControl (protocolSpecFromConfig config) control) :
    let spec := protocolSpecFromConfig config
    let s := Machine.run (System.step spec) ops (System.withRings rings consumerSchedule clock)
    (∃ active, s.activeCtx = some active ∧ control.cpi = active.header.cpiId + 1) →
      (∀ previous, s.previousCtx = some previous → previous.header.cpiId ≠ control.cpi) →
      Machine.Along (System.step spec) (fun s => s.windows.KeepsStaging) between
        (s.step spec (.control control)) →
      let before := Machine.run (System.step spec) between (s.step spec (.control control))
      System.OpensAnnounced control before (before.step spec (.data data packet)) := by
  intro spec s next notPrevious keeps before
  obtain ⟨active, isActive, next⟩ := next
  have formed := protocolSpecFromConfig_wellFormed config
  have start := System.withRings_owned rings consumerSchedule clock
  have owned : s.Owned := System.run_owned spec ops start
  have sound : s.windows.Sound spec := Windows.run_sound formed start (Windows.fresh_sound ..)
    fun op member => valid op (List.mem_append_left _ member)
  have ownedStaged : (s.step spec (.control control)).Owned :=
    System.run_owned spec [.control control] owned
  have single : ∀ op ∈ [Op.control control], op.Valid := by simp [Op.Valid]
  have soundStaged : (s.step spec (.control control)).windows.Sound spec :=
    Windows.run_sound formed owned sound single
  obtain ⟨soundBefore, awaits⟩ := Windows.run_preserves formed
    (fun op begun first second _ keeps sound move awaits =>
      Windows.Awaits.move formed keeps sound move awaits)
    ownedStaged soundStaged (System.step_awaits spec owned validControl isActive next notPrevious)
    (fun op member => valid op (List.mem_append_right _ member)) keeps
  exact System.step_opensAnnounced formed (System.run_owned spec between ownedStaged) soundBefore
    legal awaits validData same

/-- A control packet of the active CPI overwrites the snapshot of the next one. -/
theorem staged_control_lost :
    let spec := protocolSpecFromConfig announcedConfig
    let control : ParsedPacketView := { valid := true, kind := .controlTable, cpi := 2, prt := 5 }
    let s := Machine.run (System.step spec) [.zeroData spec 1 1 0 1 0]
      (System.withRings (some (32, 32)) [] [])
    let before := Machine.run (System.step spec) [.announce 1 7] (s.step spec (.control control))
    ValidControl control ∧ LegalControl spec control ∧
      (∃ active, s.activeCtx = some active ∧ control.cpi = active.header.cpiId + 1) ∧
      s.previousCtx = none ∧
      ¬ System.OpensAnnounced control before (before.step spec (.zeroData spec 2 1 0 1 0)) := by
  intro spec control s before
  refine ⟨⟨rfl, rfl⟩, ⟨rfl, by decide, by decide⟩, by decide +kernel, by decide +kernel,
    fun announced => ?_⟩
  obtain ⟨new, opened, all, -⟩ := announced
  have found : ((openedContexts (before.step spec (.zeroData spec 2 1 0 1 0)).windowLog).drop 1).any
    (fun ctx => ctx.control.bindSource == .provisional) = true := by decide +kernel
  have earlier : (openedContexts before.windowLog).length = 1 := by decide +kernel
  rw [opened, ← earlier, List.drop_left] at found
  obtain ⟨ctx, member, provisional⟩ := List.any_eq_true.mp found
  rw [(all ctx member).2.1] at provisional
  cases provisional

/-- A packet of the active CPI, a late one and a control packet of the previous CPI
leave the snapshot staged. -/
theorem staged_control_binds_next_late :
    let spec := protocolSpecFromConfig announcedConfig
    let s := Machine.run (System.step spec) [.zeroData spec 1 1 0 1 0, .zeroData spec 2 1 0 1 0]
      (System.withRings (some (32, 32)) [] [])
    let before := Machine.run (System.step spec)
      [.zeroData spec 2 2 0 1 0, .zeroData spec 1 2 0 1 0, .announce 1 7]
      (s.step spec (.announce 3 5))
    System.OpensAnnounced { valid := true, kind := .controlTable, cpi := 3, prt := 5 } before
      (before.step spec (.zeroData spec 3 1 0 1 0)) := by
  intro spec s before
  exact staged_control_binds_next announcedConfig (some (32, 32)) [] []
    [.zeroData spec 1 1 0 1 0, .zeroData spec 2 1 0 1 0]
    [.zeroData spec 2 2 0 1 0, .zeroData spec 1 2 0 1 0, .announce 1 7] (by simp)
    { valid := true, kind := .controlTable, cpi := 3, prt := 5 }
    (.zeroData spec 3 1 0 1 0) _ ⟨rfl, rfl⟩ ⟨rfl, rfl, rfl, rfl, rfl⟩ rfl
    ⟨rfl, by decide, by decide⟩ (by decide +kernel) (by decide +kernel) (by decide +kernel)

end RxTech
