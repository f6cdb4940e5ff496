import RxTech.Core.WindowRefinement

/-!
# Every operation refines a step of the windows

Data packets, which open, write and close windows, and with them whole runs.
-/

set_option autoImplicit false

namespace RxTech

namespace System

/-! ## Data packets -/

/-- An operation that also answers whether a packet was accepted. -/
structure RefinesWith (s : System) (next : System × Bool) (w : Windows × Bool) (failures : Nat) :
    Prop extends Refines s next.1 w.1 failures where
  verdict : next.2 = w.2

private theorem written_own (spec : ProtocolSpec) {ctx : CpiContext} {index : PoolIndex}
    (parsed : ParsedPacketView) (own : ctx.header.poolIndex = some index) :
    (SlotWriter.write spec ctx parsed).1.header.poolIndex = some index :=
  (CpiContext.poolIndex_of_identity (SlotWriter.write_identity spec ctx parsed)).trans own

private theorem stored_own (spec : ProtocolSpec) {ctx : CpiContext} {index : PoolIndex}
    (parsed : ParsedPacketView) (packet : InterpretedPacketView)
    (own : ctx.header.poolIndex = some index) :
    (Windows.stored spec (SlotWriter.write spec ctx parsed).1 parsed packet).header.poolIndex =
      some index :=
  (CpiContext.poolIndex_of_identity (ProgressTracker.advance_identity ..)).trans
    (written_own spec parsed own)

private theorem storeProgress_refines_active (spec : ProtocolSpec) {s : System} {index : PoolIndex}
    (owned : s.Owned) (active : s.activeCtxIndex = some index) (parsed : ParsedPacketView)
    (packet : InterpretedPacketView) {ctx : CpiContext}
    (is : ctx = Windows.stored spec
      (SlotWriter.write spec (s.ctxPool.contexts index) parsed).1 parsed packet) :
    Refines s
      (s.storeProgress spec index (SlotWriter.write spec (s.ctxPool.contexts index) parsed).1 parsed
        packet)
      { s.windows with
        active := some ctx
        log := s.windowLog ++ [.stored parsed ctx] } 0 := by
  subst is
  have still : Still s (s.storeProgress spec index
      (SlotWriter.write spec (s.ctxPool.contexts index) parsed).1 parsed packet) :=
    ⟨rfl, rfl, rfl, rfl, rfl, rfl, rfl⟩
  refine ⟨?_, owned.windows_write_active still active rfl⟩
  exact (still.writes owned (.inl active)
    (stored_own spec parsed packet (owned.active index active)) rfl
    ⟨_, rfl, by simp [WindowEvent.delivery]⟩).advances owned

private theorem storeProgress_context (spec : ProtocolSpec) (s : System) (index : PoolIndex)
    (written : CpiContext) (parsed : ParsedPacketView) (packet : InterpretedPacketView) :
    (s.storeProgress spec index written parsed packet).ctxPool.contexts index =
      Windows.stored spec written parsed packet := by
  simp [storeProgress, setCtx, CpiContextPool.set, Windows.stored]

private theorem writeActive_refines (spec : ProtocolSpec) {s : System} {index : PoolIndex}
    (owned : s.Owned) (active : s.activeCtxIndex = some index) (parsed : ParsedPacketView)
    (packet : InterpretedPacketView) :
    ∃ closing, RefinesWith s (s.writeActive spec index parsed packet)
        (s.windows.writeActive spec (s.ctxPool.contexts index) parsed packet closing) 0 ∧
      (s.unreturned.length < s.outputCapacity → closing.delivery = .pushed) := by
  have own := owned.active index active
  simp only [writeActive, Windows.writeActive, storeProgress_context]
  split
  · have still : Still s
        (s.setCtx index (SlotWriter.write spec (s.ctxPool.contexts index) parsed).1).dropPacket :=
      ⟨rfl, rfl, rfl, rfl, rfl, rfl, rfl⟩
    refine ⟨⟨0, .pushed⟩, ⟨⟨?_, ?_⟩, rfl⟩, fun _ => rfl⟩
    · exact (still.writes owned (.inl active) (written_own spec parsed own) rfl
        ⟨[], by simp [setCtx, dropPacket], by simp⟩).advances owned
    · exact owned.windows_write_active still active rfl
  split
  · have same : Refines s s s.windows 0 := .refl owned
    exact ⟨⟨0, .pushed⟩, ⟨same.counted ⟨rfl, rfl, rfl, rfl, rfl, rfl, rfl⟩ rfl rfl, rfl⟩,
      fun _ => rfl⟩
  have progress := storeProgress_refines_active spec owned active parsed packet rfl
  split
  · obtain ⟨closing, closed, room⟩ := finalizeActive_refines
      ((Windows.stored spec (SlotWriter.write spec (s.ctxPool.contexts index) parsed).1 parsed
        packet).header.triggerBits &&& finalizeMask) progress.owned
    rw [progress.windows] at closed
    exact ⟨closing, ⟨progress.trans closed, rfl⟩, room⟩
  · exact ⟨⟨0, .pushed⟩, ⟨progress, rfl⟩, fun _ => rfl⟩

private theorem writeLate_refines (spec : ProtocolSpec) {s : System} (owned : s.Owned)
    (parsed : ParsedPacketView) (packet : InterpretedPacketView) :
    RefinesWith s (s.writeLate spec parsed packet) (s.windows.writeLate spec parsed packet) 0 := by
  simp only [writeLate, Windows.writeLate]
  rw [show s.windows.previous = s.previousCtxIndex.map s.ctxPool.contexts from rfl, holding_map]
  cases late : s.windowOf s.previousCtxIndex parsed.cpi with
  | none =>
      have same : Refines s s s.windows 0 := .refl owned
      exact ⟨same.counted ⟨rfl, rfl, rfl, rfl, rfl, rfl, rfl⟩ rfl rfl, rfl⟩
  | some index =>
      have previous := windowOf_eq_some late
      have own := owned.previous index previous
      simp only [Option.map_some]
      split
      · let progress := s.storeProgress spec index
          (SlotWriter.write spec (s.ctxPool.contexts index) parsed).1 parsed packet
        have still : Still s { progress with metrics := progress.metrics.onLatePacketAccepted } :=
          ⟨rfl, rfl, rfl, rfl, rfl, rfl, rfl⟩
        refine ⟨⟨?_, ?_⟩, rfl⟩
        · exact (still.writes owned (.inr previous) (stored_own spec parsed packet own) rfl
            ⟨_, rfl, by simp [WindowEvent.delivery]⟩).advances owned
        · exact owned.windows_write_previous still previous rfl
      · have still : Still s
            (s.setCtx index (SlotWriter.write spec (s.ctxPool.contexts index) parsed).1).rejectLate :=
          ⟨rfl, rfl, rfl, rfl, rfl, rfl, rfl⟩
        refine ⟨⟨?_, ?_⟩, rfl⟩
        · exact (still.writes owned (.inr previous) (written_own spec parsed own) rfl
            ⟨[], by simp [setCtx, rejectLate], by simp⟩).advances owned
        · exact owned.windows_write_previous still previous rfl

/-! ## Opening -/

/-- With no slot free and no token waiting, the consumer holds all but one. -/
theorem Owned.crowded {s : System} (owned : s.Owned) (inactive : s.activeCtxIndex = none)
    (drained : s.tokens = []) (used : ∀ index, s.ctxPool.inUse index = true) :
    15 ≤ s.unreturned.length := by
  have placed (index : PoolIndex) : s.unreturned.countP (CpiOutput.refersTo index) +
      (if s.previousCtxIndex = some index then 1 else 0) = 1 := by
    have placed := owned.placed index
    simpa [outside, freeCount, used, tokenCount, drained, windowCount, inactive, lentCount] using
      placed
  have lent : ∑ index, s.unreturned.countP (CpiOutput.refersTo index) ≤ s.unreturned.length := by
    refine Counting.sum_countP_le_length CpiOutput.refersTo ?_ s.unreturned
    intro output first second here there
    simp only [CpiOutput.refersTo, beq_iff_eq] at here there
    exact Option.some.inj (here.symm.trans there)
  have window : ∑ index : PoolIndex, (if s.previousCtxIndex = some index then 1 else 0) ≤ 1 := by
    have := Counting.sum_ite_le_one (fun index : PoolIndex =>
      decide (s.previousCtxIndex = some index)) fun first second here there => by
        simp only [decide_eq_true_eq] at here there
        exact Option.some.inj (here.symm.trans there)
    simpa using this
  have total : ∑ index : PoolIndex, (s.unreturned.countP (CpiOutput.refersTo index) +
      (if s.previousCtxIndex = some index then 1 else 0)) = 16 := by
    rw [Finset.sum_congr rfl fun index _ => placed index]
    rfl
  rw [Finset.sum_add_distrib] at total
  omega

theorem unreturned_le (s : System) : s.unreturned.length ≤ s.outputCapacity + 1 := by
  cases attached : s.pipeline with
  | none => simp [unreturned, attached]
  | some pipeline =>
      have bounded := pipeline.outputRing.bounded
      simp only [unreturned, outputCapacity, attached, Option.elim_some,
        OutputPipeline.unreturned, List.length_append]
      cases pipeline.consumer.phase.hand <;> simp <;> omega

theorem Owned.congr {s next : System} (owned : s.Owned) (ctxPool : next.ctxPool = s.ctxPool)
    (pipeline : next.pipeline = s.pipeline) (slotLog : next.slotLog = s.slotLog)
    (log : next.windowLog = s.windowLog) (activeCtxIndex : next.activeCtxIndex = s.activeCtxIndex)
    (previousCtxIndex : next.previousCtxIndex = s.previousCtxIndex)
    (backpressure : next.metrics.outputBackpressureCount = s.metrics.outputBackpressureCount) :
    next.Owned where
  linked := owned.linked.congr ctxPool pipeline slotLog fun event member => log ▸ member
  placed index := by
    have := owned.placed index
    simpa only [outside, freeCount, lentCount, tokenCount, unreturned, tokens, windowCount, ctxPool,
      pipeline, activeCtxIndex, previousCtxIndex] using this
  active index holds := by
    rw [ctxPool]
    exact owned.active index (activeCtxIndex ▸ holds)
  previous index holds := by
    rw [ctxPool]
    exact owned.previous index (previousCtxIndex ▸ holds)
  dropped := by
    rw [backpressure, log]
    exact owned.dropped

theorem opened_own {spec : ProtocolSpec} {w : Windows} {cpiId : UInt16} {index : PoolIndex} :
    (w.openedCtx spec cpiId index).header.poolIndex = some index :=
  CpiContext.poolIndex_of_identity (bindControlSnapshot_identity ..)

theorem Acquires.installed_ctx {s next : System} {cpiId : UInt16} {index : PoolIndex}
    (acquires : Acquires s next cpiId index) (spec : ProtocolSpec) :
    (next.installActive spec cpiId index).ctxPool.contexts index =
      s.windows.openedCtx spec cpiId index := by
  have control : next.currentControl = s.currentControl :=
    congrArg (·.currentControl) acquires.apart
  simp only [installActive, CpiContextPool.set, Function.update_self, acquires.opened, control]
  rfl

theorem Acquires.installed_previous {s next : System} {cpiId : UInt16} {index : PoolIndex}
    (acquires : Acquires s next cpiId index) (owned : s.Owned) (spec : ProtocolSpec)
    {other : PoolIndex} (holds : s.previousCtxIndex = some other) :
    (next.installActive spec cpiId index).ctxPool.contexts other = s.ctxPool.contexts other := by
  have outside := (owned.absent_previous holds).1
  have different : other ≠ index := by
    rintro rfl
    have := acquires.outside other
    simp only [if_true] at this
    omega
  simp only [installActive, CpiContextPool.set, ne_eq, different, not_false_eq_true,
    Function.update_of_ne]
  exact acquires.contexts other outside

theorem Acquires.installed_owned {s next : System} {cpiId : UInt16} {index : PoolIndex}
    (acquires : Acquires s next cpiId index) (owned : s.Owned)
    (inactive : s.activeCtxIndex = none) (spec : ProtocolSpec) :
    (next.installActive spec cpiId index).Owned := by
  have log : next.windowLog = s.windowLog := windowLog_of_apart acquires.apart
  have metrics : next.metrics = s.metrics := congrArg (·.metrics) acquires.apart
  have previousIndex : next.previousCtxIndex = s.previousCtxIndex :=
    congrArg (·.previousCtxIndex) acquires.apart
  have absent : next.outside index = 0 := by
    have := acquires.outside index
    have := owned.linked.exclusive index
    simp only [if_true] at *
    omega
  refine ⟨?_, ?_, ?_, ?_, ?_⟩
  · exact (setCtx_linked acquires.linked absent _).congr rfl rfl rfl
      fun event member => List.mem_append_left _ member
  · intro other
    have placed := owned.placed other
    have outside := acquires.outside other
    have same : (next.installActive spec cpiId index).outside other = next.outside other := rfl
    have count : (next.installActive spec cpiId index).windowCount other =
        (if other = index then 1 else 0) + s.windowCount other := by
      simp only [windowCount, installActive, previousIndex, inactive, Option.some.injEq,
        @eq_comm _ index other, reduceCtorEq, if_false, Nat.zero_add]
    rw [same, count]
    omega
  · intro other holds
    obtain rfl : index = other := Option.some.inj holds
    rw [acquires.installed_ctx spec]
    exact opened_own
  · intro other holds
    rw [acquires.installed_previous owned spec (previousIndex ▸ holds)]
    exact owned.previous other (previousIndex ▸ holds)
  · simp only [installActive, deliveries_append, metrics, log]
    simpa [deliveries, WindowEvent.delivery] using owned.dropped

theorem Acquires.installed_windows {s next : System} {cpiId : UInt16} {index : PoolIndex}
    (acquires : Acquires s next cpiId index) (owned : s.Owned) (spec : ProtocolSpec) :
    (next.installActive spec cpiId index).windows = s.windows.openWindow spec cpiId index := by
  have control : next.currentControl = s.currentControl :=
    congrArg (·.currentControl) acquires.apart
  have openings : next.openings = s.openings := congrArg (·.openings) acquires.apart
  have previousIndex : (next.installActive spec cpiId index).previousCtxIndex =
      s.previousCtxIndex := congrArg (·.previousCtxIndex) acquires.apart
  have opened := acquires.installed_ctx spec
  have previous : (next.installActive spec cpiId index).previousCtx = s.previousCtx := by
    rw [previousCtx, previousIndex]
    exact window_eq fun other holds => acquires.installed_previous owned spec holds
  have active : (next.installActive spec cpiId index).activeCtx =
      some (s.windows.openedCtx spec cpiId index) := congrArg some opened
  have shape (active previous : Option CpiContext) :
      (next.installActive spec cpiId index).windowsWith active previous =
        { next.windowsWith active previous with
          currentControl := selectOpenSnapshot cpiId spec next.currentControl
          openings := next.openings + 1
          log := next.windowLog ++
            [.opened ((next.installActive spec cpiId index).ctxPool.contexts index)] } := by
    simp [windowsWith, windows, installActive, CpiContextPool.set]
  rw [windows_eq_with active previous, shape, opened, control,
    windowLog_of_apart acquires.apart, openings, windowsWith_of_apart acquires.apart]
  rfl

theorem Acquires.installed {s next : System} {cpiId : UInt16} {index : PoolIndex}
    (acquires : Acquires s next cpiId index) (owned : s.Owned)
    (inactive : s.activeCtxIndex = none) (spec : ProtocolSpec) :
    Refines s (next.installActive spec cpiId index) (s.windows.openWindow spec cpiId index) 0 := by
  have log : next.windowLog = s.windowLog := windowLog_of_apart acquires.apart
  have metrics : next.metrics = s.metrics := congrArg (·.metrics) acquires.apart
  have pushed : deliveries .pushed (next.installActive spec cpiId index).windowLog =
      deliveries .pushed s.windowLog := by
    simp only [installActive, deliveries_append, log]
    simp [deliveries, WindowEvent.delivery]
  refine ⟨⟨acquires.installed_owned owned inactive spec, acquires.capacity, ?_, ?_, ?_, ?_⟩,
    acquires.installed_windows owned spec⟩
  · rw [pushed]
    exact Nat.add_le_add_right acquires.unreturned _
  · simp only [installActive, metrics, Nat.add_zero]
  · exact congrArg (·.runError) acquires.apart
  · exact fun impossible => absurd rfl impossible

/-- `openActive` with no active window opens one, or fails for want of a slot. -/
theorem openActive_refines (spec : ProtocolSpec) {s : System} (owned : s.Owned)
    (inactive : s.activeCtxIndex = none) (cpiId : UInt16) :
    (∃ index, (s.openActive spec cpiId).2 = true ∧
      (s.openActive spec cpiId).1.activeCtxIndex = some index ∧
      (s.openActive spec cpiId).1.ctxPool.contexts index = s.windows.openedCtx spec cpiId index ∧
      (s.openActive spec cpiId).1.unreturned.length ≤ s.unreturned.length ∧
      Refines s (s.openActive spec cpiId).1 (s.windows.openWindow spec cpiId index) 0) ∨
    ((s.openActive spec cpiId).2 = false ∧ 15 ≤ s.unreturned.length ∧
      Refines s (s.openActive spec cpiId).1 s.windows 1) := by
  have released : s.releaseActiveCtx = s := by simp only [releaseActiveCtx, inactive]
  simp only [openActive, released]
  have outcome := acquireCtx_outcome cpiId owned.linked
  generalize s.acquireCtx cpiId = result at outcome ⊢
  cases outcome with
  | @exhausted next settles drained used =>
      obtain ⟨advances, windows⟩ := settles.advances owned
      have inactive' : next.activeCtxIndex = none :=
        (congrArg (·.activeCtxIndex) settles.apart).trans inactive
      have full : 15 ≤ s.unreturned.length := by
        have held := advances.owned.crowded inactive' drained used
        have lent := advances.lent
        rw [windowLog_of_apart settles.apart] at lent
        omega
      have crowded : 14 ≤ s.outputCapacity := by
        have bounded := s.unreturned_le
        omega
      refine .inr ⟨rfl, full, ⟨⟨advances.owned.congr rfl rfl rfl rfl rfl rfl rfl,
        advances.capacity, advances.lent, ?_, rfl, fun _ => crowded⟩, windows⟩⟩
      have := advances.exhaustion
      simp only [failExhausted, MetricsCollector.onPoolExhaustion, MetricsCollector.onError]
      omega
  | @acquired index next acquires =>
      exact .inl ⟨index, rfl, rfl, acquires.installed_ctx spec, acquires.unreturned,
        acquires.installed owned inactive spec⟩

/-! ## Admission -/

private theorem finalizePrevious_previousCtxIndex (s : System) (trigger : Nat) :
    (s.finalizePrevious trigger).previousCtxIndex = none := by
  cases previous : s.previousCtxIndex with
  | none => simp only [finalizePrevious, previous]
  | some index => simp only [finalizePrevious, previous]

private theorem shiftActive_refines {s : System} (owned : s.Owned)
    (vacant : s.previousCtxIndex = none) :
    Refines s s.shiftActive s.windows.shift 0 := by
  refine ⟨⟨⟨owned.linked.congr rfl rfl rfl fun _ member => member, ?_, ?_, owned.active,
    owned.dropped⟩, rfl, Nat.le_refl _, rfl, rfl, fun impossible => absurd rfl impossible⟩, rfl⟩
  · intro index
    have placed := owned.placed index
    simp only [windowCount, vacant, reduceCtorEq, if_false, Nat.add_zero] at placed
    simp only [windowCount, shiftActive, reduceCtorEq, if_false, Nat.zero_add]
    exact placed
  · intro index holds
    cases holds

/-- The answers that an operation got, if it failed `failures` times. -/
structure Answered (s : System) (choices : Choices) (failures : Nat) : Prop where
  acquired : failures = 0 → choices.acquired.isSome = true ∧ choices.switchAcquired.isSome = true
  opens : s.unreturned.length < 15 → choices.acquired.isSome = true
  room : s.previousCtxIndex = none → s.unreturned.length < s.outputCapacity →
    choices.activeClosing.delivery = .pushed

private theorem openAndWrite_refines (spec : ProtocolSpec) {s : System} (owned : s.Owned)
    (inactive : s.activeCtxIndex = none) (parsed : ParsedPacketView)
    (packet : InterpretedPacketView) :
    ∃ acquired closing failures,
      RefinesWith s
        (whenOpened (s.openActive spec packet.cpi) fun s index =>
          s.writeActive spec index parsed packet)
        (s.windows.openAndWrite spec parsed packet acquired closing) failures ∧
      (failures = 0 → acquired.isSome = true) ∧
      (s.unreturned.length < s.outputCapacity → closing.delivery = .pushed) := by
  rcases openActive_refines spec owned inactive packet.cpi with
    ⟨index, opened, active, context, fewer, refines⟩ | ⟨failed, -, refines⟩
  · obtain ⟨closing, written, room⟩ :=
      writeActive_refines spec refines.owned active parsed packet
    rw [refines.windows, context] at written
    refine ⟨some index, closing, 0, ?_, fun _ => rfl, fun free => room ?_⟩
    · simp only [whenOpened, opened, active, Windows.openAndWrite]
      exact ⟨refines.trans written.toRefines, written.verdict⟩
    · rw [refines.capacity]
      omega
  · refine ⟨none, ⟨0, .pushed⟩, 1, ?_, by simp, fun _ => rfl⟩
    simp only [whenOpened, failed, Windows.openAndWrite]
    exact ⟨refines, rfl⟩

private theorem admitPacket_refines (spec : ProtocolSpec) {s : System} (owned : s.Owned)
    {index : PoolIndex} (active : s.activeCtxIndex = some index) (parsed : ParsedPacketView)
    (packet : InterpretedPacketView) :
    ∃ acquired previousClosing activeClosing failures,
      (∀ opening, RefinesWith s (s.admitPacket spec index parsed packet)
        (s.windows.admitPacket spec (s.ctxPool.contexts index) parsed packet
          ⟨opening, acquired, previousClosing, activeClosing⟩) failures) ∧
      (failures = 0 → acquired.isSome = true) ∧
      (s.previousCtxIndex = none → s.unreturned.length < s.outputCapacity →
        activeClosing.delivery = .pushed) := by
  simp only [admitPacket, Windows.admitPacket,
    show s.windows.closedRing = s.closedRing from rfl]
  cases CpiAdmission.judge parsed (s.ctxPool.contexts index).header.cpiId s.closedRing with
  | writeActive =>
      obtain ⟨closing, written, room⟩ := writeActive_refines spec owned active parsed packet
      exact ⟨some index, ⟨0, .pushed⟩, closing, 0, fun _ => written, fun _ => rfl, fun _ => room⟩
  | triggerCpiSwitch =>
      obtain ⟨previousClosing, closed, -⟩ := finalizePrevious_refines triggerCpiSwitch owned
      have shifted := shiftActive_refines closed.owned
        (finalizePrevious_previousCtxIndex s triggerCpiSwitch)
      rw [closed.windows] at shifted
      have ready := closed.trans shifted
      obtain ⟨acquired, closing, failures, opened, acquires, room⟩ :=
        openAndWrite_refines spec ready.owned rfl parsed packet
      rw [ready.windows] at opened
      refine ⟨acquired, previousClosing, closing, failures, fun _ => ?_, acquires, ?_⟩
      · have both := ready.trans opened.toRefines
        rw [Nat.zero_add] at both
        exact ⟨both, opened.verdict⟩
      · intro vacant free
        have same : s.finalizePrevious triggerCpiSwitch = s := by
          simp only [finalizePrevious, vacant]
        exact room (by rw [same]; exact free)
  | lateToClosed | drop =>
      exact ⟨some index, ⟨0, .pushed⟩, ⟨0, .pushed⟩, 0,
        fun _ => writeLate_refines spec owned parsed packet, fun _ => rfl, fun _ _ => rfl⟩

theorem processDataPacket_refines (spec : ProtocolSpec) {s : System} (owned : s.Owned)
    (parsed : ParsedPacketView) (packet : InterpretedPacketView) :
    ∃ choices failures, RefinesWith s (s.processDataPacket spec parsed packet)
      (s.windows.processData spec parsed packet choices) failures ∧ Answered s choices failures := by
  cases active : s.activeCtxIndex with
  | some index =>
      have window : s.windows.active = some (s.ctxPool.contexts index) := by
        simp [windows, activeCtx, active]
      obtain ⟨acquired, previousClosing, activeClosing, failures, admitted, acquires, room⟩ :=
        admitPacket_refines spec owned active parsed packet
      refine ⟨⟨some index, acquired, previousClosing, activeClosing⟩, failures, ?_,
        fun none => ⟨rfl, acquires none⟩, fun _ => rfl, room⟩
      simp only [processDataPacket, active, Windows.processData, window]
      exact admitted (some index)
  | none =>
      have window : s.windows.active = none := by simp [windows, activeCtx, active]
      simp only [processDataPacket, active, Windows.processData, window,
        show s.windows.closedRing = s.closedRing from rfl]
      split
      · have same : Refines s s s.windows 0 := .refl owned
        exact ⟨⟨some 0, some 0, ⟨0, .pushed⟩, ⟨0, .pushed⟩⟩, 0,
          ⟨same.counted ⟨rfl, rfl, rfl, rfl, rfl, rfl, rfl⟩ rfl rfl, rfl⟩, fun _ => ⟨rfl, rfl⟩,
          fun _ => rfl, fun _ _ => rfl⟩
      rcases openActive_refines spec owned active packet.cpi with
        ⟨index, opened, now, context, fewer, refines⟩ | ⟨failed, full, refines⟩
      · obtain ⟨acquired, previousClosing, activeClosing, failures, admitted, acquires, room⟩ :=
          admitPacket_refines spec refines.owned now parsed packet
        rw [refines.windows, context] at admitted
        refine ⟨⟨some index, acquired, previousClosing, activeClosing⟩, failures, ?_,
          fun none => ⟨rfl, acquires none⟩, fun _ => rfl, fun vacant free => room ?_ ?_⟩
        · simp only [whenOpened, opened, now]
          have both := refines.trans (admitted (some index)).toRefines
          rw [Nat.zero_add] at both
          exact ⟨both, (admitted (some index)).verdict⟩
        · have same : System.previousCtx _ = s.previousCtx :=
            congrArg Windows.previous refines.windows
          simpa [previousCtx, vacant] using same
        · rw [refines.capacity]
          omega
      · refine ⟨⟨none, none, ⟨0, .pushed⟩, ⟨0, .pushed⟩⟩, 1, ?_, by simp,
          fun few => absurd full (Nat.not_le_of_lt few), fun _ _ => rfl⟩
        simp only [whenOpened, failed]
        exact ⟨refines, rfl⟩

/-! ## Steps and runs -/

theorem finalizeActiveForShutdown_refines {s : System} (owned : s.Owned) :
    ∃ previousClosing activeClosing, ∀ acquired switchAcquired,
      Refines s s.finalizeActiveForShutdown
        (s.windows.shutdown ⟨acquired, switchAcquired, previousClosing, activeClosing⟩) 0 := by
  obtain ⟨previousClosing, first, -⟩ := finalizePrevious_refines triggerStop owned
  refine ⟨previousClosing, ?_⟩
  simp only [finalizeActiveForShutdown, Windows.shutdown, ← first.windows]
  cases active : (s.finalizePrevious triggerStop).activeCtxIndex with
  | none =>
      have none : (s.finalizePrevious triggerStop).windows.active = none := by
        simp [windows, activeCtx, active]
      simp only [none]
      exact ⟨⟨0, .pushed⟩, fun _ _ => ⟨first.toAdvances, rfl⟩⟩
  | some index =>
      have some : (s.finalizePrevious triggerStop).windows.active =
          some ((s.finalizePrevious triggerStop).ctxPool.contexts index) := by
        simp [windows, activeCtx, active]
      simp only [some]
      obtain ⟨closing, expired⟩ := expireActive_refines triggerStop first.owned active
      exact ⟨closing, fun _ _ => first.trans expired⟩

theorem RefinesWith.recorded {s : System} {next : System × Bool} {w : Windows × Bool}
    {failures : Nat} (refines : RefinesWith s next w failures) :
    Refines s { next.1 with verdicts := next.1.verdicts ++ [next.2] }
      { w.1 with verdicts := w.1.verdicts ++ [w.2] } failures where
  toAdvances := refines.toAdvances.keeps
    (Touches.advances (Still.touches ⟨rfl, rfl, rfl, rfl, rfl, rfl, rfl⟩ refines.owned rfl rfl)
      refines.owned)
  windows := by
    rw [← refines.windows, ← refines.verdict]
    rfl

theorem step_data_refines (spec : ProtocolSpec) {s : System} (owned : s.Owned)
    (parsed : ParsedPacketView) (packet : InterpretedPacketView) :
    ∃ choices failures, Refines s (s.step spec (.data parsed packet))
      (s.windows.step spec (.data parsed packet) choices) failures ∧ Answered s choices failures := by
  obtain ⟨choices, failures, refines, answered⟩ :=
    processDataPacket_refines spec owned parsed packet
  exact ⟨choices, failures, refines.recorded, answered⟩

theorem step_refines (spec : ProtocolSpec) (op : Op) {s : System} (owned : s.Owned) :
    ∃ choices failures, Refines s (s.step spec op) (s.windows.step spec op choices) failures ∧
      (failures = 0 → choices.acquired.isSome = true ∧ choices.switchAcquired.isSome = true) := by
  cases op with
  | data parsed packet =>
      obtain ⟨choices, failures, refines, answered⟩ := step_data_refines spec owned parsed packet
      exact ⟨choices, failures, refines, answered.acquired⟩
  | control parsed =>
      exact ⟨⟨some 0, some 0, ⟨0, .pushed⟩, ⟨0, .pushed⟩⟩, 0,
        processControlPacket_refines spec owned parsed, by simp⟩
  | timeout nowNs =>
      obtain ⟨previousClosing, activeClosing, refines⟩ := checkTimeout_refines nowNs owned
      exact ⟨⟨some 0, some 0, previousClosing, activeClosing⟩, 0, refines, by simp⟩
  | drainRecycle =>
      obtain ⟨advances, windows⟩ := (drainRecycle_settles owned.linked).advances owned
      exact ⟨⟨some 0, some 0, ⟨0, .pushed⟩, ⟨0, .pushed⟩⟩, 0, ⟨advances, windows⟩, by simp⟩
  | consumer =>
      obtain ⟨advances, windows⟩ := (consumerStep_settles owned.linked).advances owned
      exact ⟨⟨some 0, some 0, ⟨0, .pushed⟩, ⟨0, .pushed⟩⟩, 0, ⟨advances, windows⟩, by simp⟩
  | shutdown =>
      obtain ⟨previousClosing, activeClosing, refines⟩ := finalizeActiveForShutdown_refines owned
      exact ⟨⟨some 0, some 0, previousClosing, activeClosing⟩, 0, refines _ _, by simp⟩

theorem fresh_owned {pipeline : Option OutputPipeline} (consumerSchedule clock : List Nat)
    (fresh : ∀ attached, pipeline = some attached → attached.Running ∧ attached.unreturned = [] ∧
      attached.recycleRing.items = []) :
    (System.fresh pipeline consumerSchedule clock).Owned := by
  have unreturned : (System.fresh pipeline consumerSchedule clock).unreturned = [] := by
    cases pipeline with
    | none => rfl
    | some attached => exact (fresh attached rfl).2.1
  have tokens : (System.fresh pipeline consumerSchedule clock).tokens = [] := by
    cases pipeline with
    | none => rfl
    | some attached => exact (fresh attached rfl).2.2
  have outside (index : PoolIndex) :
      (System.fresh pipeline consumerSchedule clock).outside index = 1 := by
    simp only [System.outside, lentCount, unreturned, tokenCount, tokens]
    rfl
  refine ⟨⟨fun attached is => (fresh attached is).1, fun index => Nat.le_of_eq (outside index), ?_,
    by simp [unreturned], by simp [tokens]⟩, ?_, by simp [System.fresh], by simp [System.fresh], rfl⟩
  · intro index
    rfl
  · intro index
    rw [outside]
    rfl

theorem pipeline_fresh_running (outputMinCapacity recycleMinCapacity : Nat) :
    (OutputPipeline.fresh outputMinCapacity recycleMinCapacity).Running ∧
      (OutputPipeline.fresh outputMinCapacity recycleMinCapacity).unreturned = [] ∧
      (OutputPipeline.fresh outputMinCapacity recycleMinCapacity).recycleRing.items = [] :=
  ⟨⟨rfl, rfl⟩, rfl, rfl⟩

theorem attached_owned (outputMinCapacity recycleMinCapacity : Nat)
    (consumerSchedule clock : List Nat) :
    (System.attached outputMinCapacity recycleMinCapacity consumerSchedule clock).Owned :=
  fresh_owned consumerSchedule clock fun attached is => by
    cases is
    exact pipeline_fresh_running outputMinCapacity recycleMinCapacity

theorem ofConfig_owned (config : RxConfig) (consumerSchedule clock : List Nat) :
    (System.ofConfig config consumerSchedule clock).Owned := by
  have fresh : (System.fresh (some (OutputPipeline.ofConfig config)) consumerSchedule
      clock).Owned :=
    attached_owned _ _ consumerSchedule clock
  exact fresh.congr rfl rfl rfl rfl rfl rfl rfl

theorem windows_simulates (spec : ProtocolSpec) :
    Machine.Simulates (System.step spec) (Windows.step spec) System.windows System.Owned where
  coupled_step s op owned := by
    obtain ⟨_, _, refines, _⟩ := step_refines spec op owned
    exact refines.owned
  commutes s op owned := by
    obtain ⟨choices, _, refines, _⟩ := step_refines spec op owned
    exact ⟨choices, refines.windows⟩

theorem run_owned (spec : ProtocolSpec) (ops : List Op) {s : System} (owned : s.Owned) :
    (Machine.run (System.step spec) ops s).Owned :=
  (windows_simulates spec).run_coupled ops owned

end System

end RxTech
