import RxTech.Core.StorageProperties

/-!
# The timeout cut

With stamped packets a timeout check closes exactly the windows whose first packet
is a timeout old, and leaves the others alone.
-/

set_option autoImplicit false

namespace RxTech

/-! ## What a check does to the pool -/

/-- What a check does to one window, by which contexts are overdue. -/
structure CutWindow (overdue : CpiContext → Prop) (s next : System)
    (before after : Option PoolIndex) : Prop where
  vacant : before = none → after = none
  closed : ∀ index, before = some index → overdue (s.ctxPool.contexts index) →
    after = none ∧ next.ctxPool.inUse index = false
  kept : ∀ index, before = some index → ¬ overdue (s.ctxPool.contexts index) →
    after = some index ∧ next.ctxPool.inUse index = s.ctxPool.inUse index ∧
      next.ctxPool.contexts index = s.ctxPool.contexts index

theorem CutWindow.congr {overdue other : CpiContext → Prop} {s next : System}
    {before after : Option PoolIndex} (cut : CutWindow overdue s next before after)
    (same : ∀ index, before = some index →
      (overdue (s.ctxPool.contexts index) ↔ other (s.ctxPool.contexts index))) :
    CutWindow other s next before after where
  vacant := cut.vacant
  closed index is old := cut.closed index is ((same index is).mpr old)
  kept index is recent := cut.kept index is (mt (same index is).mp recent)

theorem CutWindow.of_none {overdue : CpiContext → Prop} {s next : System} {after : Option PoolIndex}
    (vacant : after = none) : CutWindow overdue s next none after where
  vacant _ := vacant
  closed index is := by cases is
  kept index is := by cases is

theorem CutWindow.of_some {overdue : CpiContext → Prop} {s next : System} {after : Option PoolIndex}
    {index : PoolIndex}
    (closed : overdue (s.ctxPool.contexts index) →
      after = none ∧ next.ctxPool.inUse index = false)
    (kept : ¬ overdue (s.ctxPool.contexts index) →
      after = some index ∧ next.ctxPool.inUse index = s.ctxPool.inUse index ∧
        next.ctxPool.contexts index = s.ctxPool.contexts index) :
    CutWindow overdue s next (some index) after where
  vacant impossible := by cases impossible
  closed other is := by
    cases is
    exact closed
  kept other is := by
    cases is
    exact kept

/-- What a check leaves alone: it only discards contexts. -/
structure CutSilently (s next : System) : Prop where
  log : ∃ discarded : List CpiContext,
    next.windowLog = s.windowLog ++ discarded.map WindowEvent.discarded
  closedRing : next.closedRing = s.closedRing
  nextOutputId : next.nextOutputId = s.nextOutputId
  pipeline : next.pipeline = s.pipeline

theorem CutSilently.refl (s : System) : CutSilently s s :=
  ⟨⟨[], by simp⟩, rfl, rfl, rfl⟩

theorem CutSilently.trans {s middle next : System} (first : CutSilently s middle)
    (second : CutSilently middle next) : CutSilently s next := by
  obtain ⟨early, log⟩ := first.log
  obtain ⟨late, log'⟩ := second.log
  exact ⟨⟨early ++ late, by rw [log', log, List.map_append, List.append_assoc]⟩,
    second.closedRing.trans first.closedRing, second.nextOutputId.trans first.nextOutputId,
    second.pipeline.trans first.pipeline⟩

namespace System

/-- The window at `index` is closed without an output. -/
def discardWindow (s : System) (index : PoolIndex) : System :=
  let ctx := markTrigger (s.ctxPool.contexts index) triggerTimeout
  { (s.setCtx index ctx).release (some index) with
    windowLog := s.windowLog ++ [.discarded ctx] }

private theorem finalizeContext_timeout (s : System) (index : PoolIndex) :
    (s.setCtx index (markTrigger (s.ctxPool.contexts index) triggerTimeout)).finalizeContext index
      triggerTimeout = s.discardWindow index := by
  have declined (ctx : CpiContext) (now : Nat) :
      CpiFinalizer.tryFinalize ctx triggerTimeout now = none := by
    simp [CpiFinalizer.tryFinalize, Windows.decide?_silent ctx.header.readyPrtCount (.inl rfl)]
  simp only [finalizeContext, declined]
  simp [discardWindow, setCtx, CpiContextPool.set, release]

private theorem discardWindow_free (s : System) (index : PoolIndex) :
    (s.discardWindow index).ctxPool.inUse index = false :=
  Function.update_self ..

private theorem discardWindow_other (s : System) {index other : PoolIndex}
    (different : other ≠ index) :
    (s.discardWindow index).ctxPool.inUse other = s.ctxPool.inUse other ∧
      (s.discardWindow index).ctxPool.contexts other = s.ctxPool.contexts other :=
  ⟨Function.update_of_ne different ..,
    (Function.update_of_ne different ..).trans (Function.update_of_ne different ..)⟩

theorem Owned.windows_apart {s : System} (owned : s.Owned) {active previous : PoolIndex}
    (isActive : s.activeCtxIndex = some active) (isPrevious : s.previousCtxIndex = some previous) :
    active ≠ previous := by
  rintro rfl
  have placed := owned.placed active
  simp only [windowCount, isActive, isPrevious, if_true] at placed
  omega

private theorem checkPreviousTimeout_cut (s : System) (nowNs : Nat) :
    let next := (s.checkPreviousTimeout nowNs).1
    CutSilently s next ∧ next.activeCtxIndex = s.activeCtxIndex ∧
      CutWindow (fun ctx => timedOut ctx nowNs = true) s next s.previousCtxIndex
        next.previousCtxIndex ∧
      ∀ index, s.previousCtxIndex ≠ some index →
        next.ctxPool.inUse index = s.ctxPool.inUse index ∧
          next.ctxPool.contexts index = s.ctxPool.contexts index := by
  cases previous : s.previousCtxIndex with
  | none =>
      have nothing : s.checkPreviousTimeout nowNs = (s, false) := by
        simp only [checkPreviousTimeout, previous]
      rw [nothing]
      exact ⟨.refl s, rfl, .of_none previous, fun _ _ => ⟨rfl, rfl⟩⟩
  | some late =>
      by_cases old : timedOut (s.ctxPool.contexts late) nowNs = true
      · have cut : (s.checkPreviousTimeout nowNs).1 =
            { s.discardWindow late with previousCtxIndex := none } := by
          rw [← finalizeContext_timeout]
          simp only [checkPreviousTimeout, previous, old, if_true]
          simp only [finalizePrevious, setCtx, previous]
        rw [cut]
        refine ⟨⟨⟨[_], rfl⟩, rfl, rfl, rfl⟩, rfl, .of_some ?_ ?_, ?_⟩
        · exact fun _ => ⟨rfl, s.discardWindow_free late⟩
        · exact fun recent => absurd old recent
        · exact fun index other => s.discardWindow_other fun same => other (same ▸ rfl)
      · have nothing : s.checkPreviousTimeout nowNs = (s, false) := by
          simp only [checkPreviousTimeout, previous, if_neg old]
        rw [nothing]
        refine ⟨.refl s, rfl, .of_some ?_ ?_, fun _ _ => ⟨rfl, rfl⟩⟩
        · exact fun overdue => absurd overdue old
        · exact fun _ => ⟨previous, rfl, rfl⟩

/-- A check closes the windows that have timed out and no others. -/
theorem checkTimeout_cut {s : System} (owned : s.Owned) (nowNs : Nat) :
    let next := (s.checkTimeout nowNs).1
    let overdue := fun ctx => timedOut ctx nowNs = true
    CutSilently s next ∧ CutWindow overdue s next s.activeCtxIndex next.activeCtxIndex ∧
      CutWindow overdue s next s.previousCtxIndex next.previousCtxIndex := by
  obtain ⟨silent, sameActive, previous, elsewhere⟩ := s.checkPreviousTimeout_cut nowNs
  simp only [checkTimeout]
  generalize s.checkPreviousTimeout nowNs = middle at silent sameActive previous elsewhere ⊢
  obtain ⟨middle, flag⟩ := middle
  simp only at silent sameActive previous elsewhere ⊢
  cases active : middle.activeCtxIndex with
  | none =>
      rw [active] at sameActive
      rw [← sameActive]
      exact ⟨silent, .of_none active, previous⟩
  | some index =>
      have isActive : s.activeCtxIndex = some index := sameActive.symm.trans active
      have notPrevious : s.previousCtxIndex ≠ some index := fun isPrevious =>
        owned.windows_apart isActive isPrevious rfl
      obtain ⟨sameUse, sameCtx⟩ := elsewhere index notPrevious
      dsimp only
      rw [isActive, sameCtx]
      by_cases old : timedOut (s.ctxPool.contexts index) nowNs = true
      · have cut : ((middle.setCtx index (markTrigger (s.ctxPool.contexts index)
            triggerTimeout)).finalizeActive triggerTimeout) =
              { middle.discardWindow index with activeCtxIndex := none } := by
          rw [← finalizeContext_timeout, sameCtx]
          simp only [finalizeActive, setCtx, active]
        simp only [old, if_true, cut]
        refine ⟨silent.trans ⟨⟨[_], rfl⟩, rfl, rfl, rfl⟩, .of_some ?_ ?_,
          ⟨previous.vacant, ?_, ?_⟩⟩
        · exact fun _ => ⟨rfl, middle.discardWindow_free index⟩
        · exact fun recent => absurd old recent
        · intro late isPrevious overdue
          have different := (owned.windows_apart isActive isPrevious).symm
          obtain ⟨closed, free⟩ := previous.closed late isPrevious overdue
          exact ⟨closed, (middle.discardWindow_other different).1.trans free⟩
        · intro late isPrevious recent
          have different := (owned.windows_apart isActive isPrevious).symm
          obtain ⟨kept, use, ctx⟩ := previous.kept late isPrevious recent
          obtain ⟨use', ctx'⟩ := middle.discardWindow_other different
          exact ⟨kept, use'.trans use, ctx'.trans ctx⟩
      · simp only [if_neg old]
        refine ⟨silent, .of_some ?_ ?_, previous⟩
        · exact fun overdue => absurd overdue old
        · exact fun _ => ⟨active, sameUse, sameCtx⟩

end System

/-! ## The first packet of a window -/

/-- A data packet carries the time at which it was received. -/
def Op.Stamped : Op → Prop
  | .data parsed _ => 0 < parsed.rxTsc
  | .control _ | .timeout _ | .drainRecycle | .consumer | .shutdown => True

/-- The receive time of the first packet that an opening accepted. -/
def firstAccepted (log : List WindowEvent) (birth : Nat) : Option Nat :=
  (receivedBy log birth).head?.map ParsedPacketView.rxTsc

private theorem firstAccepted_prefix {before after : List WindowEvent} (grown : before <+: after)
    {birth first : Nat} (accepted : firstAccepted before birth = some first) :
    firstAccepted after birth = some first := by
  obtain ⟨events, rfl⟩ := grown
  obtain ⟨packet, isFirst, rfl⟩ := Option.map_eq_some_iff.mp accepted
  rw [firstAccepted, receivedBy_append, List.head?_append, isFirst]
  rfl

/-- Every packet in the history is stamped. -/
def StampedLog (log : List WindowEvent) : Prop :=
  ∀ packet ctx, .stored packet ctx ∈ log → 0 < packet.rxTsc

theorem StampedLog.received {log : List WindowEvent} (all : StampedLog log) {birth : Nat}
    {packet : ParsedPacketView} (member : packet ∈ receivedBy log birth) : 0 < packet.rxTsc := by
  obtain ⟨ctx, stored⟩ := stored_of_receivedBy member
  exact all packet ctx stored

namespace Windows

variable {spec : ProtocolSpec}

/-- Only a data packet is ever stored. -/
theorem Move.stored_origin (formed : spec.WellFormed) {op : Op} {start before after : Windows}
    (sound : before.Sound spec) (move : Move spec op start before after)
    {packet : ParsedPacketView} {ctx : CpiContext} (member : .stored packet ctx ∈ after.log) :
    .stored packet ctx ∈ before.log ∨ ∃ interpreted, op = .data packet interpreted := by
  cases move with
  | judged | staged | shifted | repeatedActive | repeatedPrevious => exact .inl member
  | reboundActive | reboundPrevious | discardedPrevious | discardedActive | opened =>
      rcases List.mem_append.mp member with old | new
      · exact .inl old
      · cases List.mem_singleton.mp new
  | committedPrevious active previous parsed interpreted closing data isActive next isPrevious =>
      obtain ⟨nextOutputId, output, sealedCtx, -, closed⟩ := sound.commits isPrevious closing
      rw [closed] at member
      rcases List.mem_append.mp member with old | new
      · exact .inl old
      · cases List.mem_singleton.mp new
  | storedActive ctx parsed interpreted bytes data =>
      rcases List.mem_append.mp member with old | new
      · exact .inl old
      · cases List.mem_singleton.mp new
        exact .inr ⟨interpreted, data⟩
  | filledActive ctx parsed interpreted bytes closing data active same takes closes =>
      obtain ⟨nextOutputId, output, sealedCtx, decision, -, -, closed⟩ :=
        sound.fills formed active same takes closes closing
      rw [closed] at member
      rcases List.mem_append.mp member with old | new
      · exact .inl old
      · rcases List.mem_cons.mp new with here | last
        · cases here
          exact .inr ⟨interpreted, data⟩
        · cases List.mem_singleton.mp last
  | storedPrevious active previous parsed interpreted bytes data =>
      rcases List.mem_append.mp member with old | new
      · exact .inl old
      · cases List.mem_singleton.mp new
        exact .inr ⟨interpreted, data⟩

theorem StampedLog.move (formed : spec.WellFormed) {op : Op} {start before after : Windows}
    (stamped : op.Stamped) (sound : before.Sound spec) (move : Move spec op start before after)
    (all : StampedLog before.log) : StampedLog after.log := by
  intro packet ctx member
  rcases move.stored_origin formed sound member with old | ⟨interpreted, rfl⟩
  · exact all packet ctx old
  · exact stamped

/-- The anchor of a window is the receive time of its first packet. -/
theorem anchor_eq {w : Windows} (sound : w.Sound spec) (all : StampedLog w.log) {ctx : CpiContext}
    (holds : w.Holds ctx) : ctx.header.firstRxTsc = (firstAccepted w.log ctx.birth).getD 0 := by
  have held : Held spec w.log w.openings ctx := holds.elim (sound.active ctx) (sound.previous ctx)
  rw [held.reception.recorded.anchor, firstAccepted]
  cases received : receivedBy w.log ctx.birth with
  | nil => rfl
  | cons first rest =>
      have stamped := all.received (received ▸ List.mem_cons_self ..)
      simp [Nat.ne_of_gt stamped]

private theorem timedOut_iff {w : Windows} (sound : w.Sound spec) (all : StampedLog w.log)
    (timeout : 0 < spec.cpiTimeoutNs) {ctx : CpiContext} (holds : w.Holds ctx) (nowNs : Nat) :
    System.timedOut ctx nowNs = true ↔
      ∃ first ∈ firstAccepted w.log ctx.birth, first + spec.cpiTimeoutNs ≤ nowNs := by
  have held : Held spec w.log w.openings ctx := holds.elim (sound.active ctx) (sound.previous ctx)
  have anchor := anchor_eq sound all holds
  simp only [System.timedOut, decide_eq_true_eq, held.bound.madeFrom.timeoutNs]
  cases accepted : firstAccepted w.log ctx.birth with
  | none =>
      rw [accepted, Option.getD_none] at anchor
      simp [anchor]
  | some first =>
      rw [accepted, Option.getD_some] at anchor
      have positive : 0 < first := by
        obtain ⟨packet, isFirst, rfl⟩ := Option.map_eq_some_iff.mp accepted
        exact all.received (List.mem_of_mem_head? isFirst)
      simp only [anchor, Option.mem_some_iff, exists_eq_left']
      omega

private theorem run_stamped (formed : spec.WellFormed) {ops : List Op} {s : System}
    (owned : s.Owned)
    (sound : s.windows.Sound spec) (all : StampedLog s.windowLog) (valid : ∀ op ∈ ops, op.Valid)
    (stamped : ∀ op ∈ ops, op.Stamped) :
    (Machine.run (System.step spec) ops s).windows.Sound spec ∧
      StampedLog (Machine.run (System.step spec) ops s).windowLog :=
  run_preserves formed
    (fun _ _ _ _ _ stamped sound move all => StampedLog.move formed stamped sound move all) owned
    sound all valid (Machine.along_of_labels stamped)

end Windows

/-- When every data packet is stamped, the limit of each window is the configured one
and its anchor the receive time of the first packet it accepted, in this state and
later; a check closes exactly the windows whose anchor is a timeout old, without an
output, and frees their slots. -/
theorem timeout_cut_exact (config : RxConfig) (timeout : 0 < config.protocolCpiTimeoutNs)
    (rings : Option (Nat × Nat)) (consumerSchedule clock : List Nat) (ops : List Op)
    (valid : ∀ op ∈ ops, op.Valid) (stamped : ∀ op ∈ ops, op.Stamped) :
    let spec := protocolSpecFromConfig config
    let s := Machine.run (System.step spec) ops (System.withRings rings consumerSchedule clock)
    (∀ nowNs,
      let next := (s.checkTimeout nowNs).1
      let overdue := fun ctx : CpiContext => ∃ first ∈ firstAccepted s.windowLog ctx.birth,
        first + config.protocolCpiTimeoutNs ≤ nowNs
      CutSilently s next ∧ CutWindow overdue s next s.activeCtxIndex next.activeCtxIndex ∧
        CutWindow overdue s next s.previousCtxIndex next.previousCtxIndex) ∧
      ∀ later, (∀ op ∈ later, op.Valid) → (∀ op ∈ later, op.Stamped) →
        let s' := Machine.run (System.step spec) later s
        ∀ ctx, s'.windows.Holds ctx → ctx.control.timeoutNs = config.protocolCpiTimeoutNs ∧
          ∀ first ∈ firstAccepted s.windowLog ctx.birth, ctx.header.firstRxTsc = first := by
  intro spec s
  have formed := protocolSpecFromConfig_wellFormed config
  have start := System.withRings_owned rings consumerSchedule clock
  have owned : s.Owned := System.run_owned spec ops start
  obtain ⟨sound, all⟩ := Windows.run_stamped formed start (Windows.fresh_sound ..)
    (fun _ _ impossible => nomatch impossible) valid stamped
  constructor
  · intro nowNs next overdue
    obtain ⟨silent, active, previous⟩ := System.checkTimeout_cut owned nowNs
    refine ⟨silent, active.congr fun index isActive => ?_, previous.congr fun index isPrevious => ?_⟩
    · exact Windows.timedOut_iff sound all timeout
        (.inl (congrArg (Option.map s.ctxPool.contexts) isActive)) nowNs
    · exact Windows.timedOut_iff sound all timeout
        (.inr (congrArg (Option.map s.ctxPool.contexts) isPrevious)) nowNs
  · intro later laterValid laterStamped s' ctx holds
    obtain ⟨sound', all'⟩ := Windows.run_stamped formed owned sound all laterValid laterStamped
    have held : Held spec s'.windowLog s'.openings ctx :=
      holds.elim (sound'.active ctx) (sound'.previous ctx)
    refine ⟨held.bound.madeFrom.timeoutNs, fun first accepted => ?_⟩
    have grown : s.windowLog <+: s'.windowLog := Windows.run_log formed owned sound laterValid
    have anchor := Windows.anchor_eq sound' all' holds
    rw [show s'.windows.log = s'.windowLog from rfl, firstAccepted_prefix grown accepted] at anchor
    exact anchor

/-- The first packets of two CPIs, received at 5 and at 900. -/
def twoWindowsOps : List Op :=
  let spec := protocolSpecFromConfig pairConfig
  let first (cpi : UInt16) (rxTsc : Nat) : Op :=
    .data { ParsedPacketView.zeroData spec cpi 1 0 1 0 with rxTsc }
      { valid := true, kind := .dataPacket, cpi, prt := 1, channel := 0, packetIndex := 1 }
  [first 1 5, first 2 900]

/-- A check at 1005 closes the first of them. -/
theorem timeout_cut_exact_two_windows :
    let config := { pairConfig with protocolCpiTimeoutNs := 1000 }
    let spec := protocolSpecFromConfig config
    let s := Machine.run (System.step spec) twoWindowsOps (System.withRings (some (32, 32)) [] [])
    ((s.checkTimeout 1005).1.previousCtxIndex = none ∧
      (s.checkTimeout 1005).1.activeCtxIndex.isSome = true) ∧
    (∀ nowNs,
      let next := (s.checkTimeout nowNs).1
      let overdue := fun ctx : CpiContext => ∃ first ∈ firstAccepted s.windowLog ctx.birth,
        first + config.protocolCpiTimeoutNs ≤ nowNs
      CutSilently s next ∧ CutWindow overdue s next s.activeCtxIndex next.activeCtxIndex ∧
        CutWindow overdue s next s.previousCtxIndex next.previousCtxIndex) ∧
      ∀ later, (∀ op ∈ later, op.Valid) → (∀ op ∈ later, op.Stamped) →
        let s' := Machine.run (System.step spec) later s
        ∀ ctx, s'.windows.Holds ctx → ctx.control.timeoutNs = config.protocolCpiTimeoutNs ∧
          ∀ first ∈ firstAccepted s.windowLog ctx.birth, ctx.header.firstRxTsc = first := by
  refine ⟨by decide +kernel, timeout_cut_exact { pairConfig with protocolCpiTimeoutNs := 1000 }
    (by decide) (some (32, 32)) [] [] twoWindowsOps ?_ ?_⟩
  · intro op member
    rcases List.mem_cons.mp member with rfl | last
    · exact ⟨rfl, rfl, rfl, rfl, rfl⟩
    · rw [List.mem_singleton.mp last]
      exact ⟨rfl, rfl, rfl, rfl, rfl⟩
  · intro op member
    rcases List.mem_cons.mp member with rfl | last
    · exact Nat.succ_pos _
    · rw [List.mem_singleton.mp last]
      exact Nat.succ_pos _

end RxTech
