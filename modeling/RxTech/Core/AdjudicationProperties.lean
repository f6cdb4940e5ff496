import RxTech.Core.WindowInvariant

/-!
# One window and one adjudication for each CPI

The two windows hold different CPIs, and a CPI that is remembered as closed is
not finalized again, as long as no packet opens a window that it should not.
-/

set_option autoImplicit false

namespace RxTech

/-! ## The closed CPIs -/

/-- The CPI of an output, whatever became of it. -/
def WindowEvent.closedId : WindowEvent → Option UInt16
  | .produced output _ _ => some output.cpiId
  | .opened _ | .stored _ _ | .rebound _ | .discarded _ => none

/-- The CPIs of the outputs, in order; each was pushed to the closed ring. -/
def closedIds (log : List WindowEvent) : List UInt16 := log.filterMap WindowEvent.closedId

private theorem closedIds_append (first second : List WindowEvent) :
    closedIds (first ++ second) = closedIds first ++ closedIds second :=
  List.filterMap_append

theorem RecentClosedRing.contains_pushClosed {ring : RecentClosedRing} {cpiId closed : UInt16}
    {sealTsc : Nat} {decision : CpiDecision}
    (known : (ring.pushClosed closed sealTsc decision).contains cpiId = true) :
    ring.contains cpiId = true ∨ closed = cpiId := by
  obtain ⟨slot, occupied, is⟩ := RecentClosedRing.contains_iff.mp known
  simp only [pushClosed, RecentRing.push_slots] at occupied is
  by_cases here : slot = RecentRing.next ring
  · rw [here, Function.update_self] at is
    exact .inr is
  · rw [Function.update_of_ne here] at occupied is
    exact .inl (RecentClosedRing.contains_iff.mpr ⟨slot, occupied, is⟩)

namespace Windows

variable {spec : ProtocolSpec}

private theorem record_closedRing (w : Windows) (output : CpiOutput) (ctx : CpiContext)
    (delivery : Delivery) : (w.record output ctx delivery).closedRing = w.closedRing := by
  cases delivery <;> rfl

private theorem closePrevious_contains {w : Windows} {trigger : Nat} {closing : Closing}
    {cpiId : UInt16}
    (known : (w.closePrevious trigger closing).closedRing.contains cpiId = true) :
    w.closedRing.contains cpiId = true ∨
      ∃ previous, w.previous = some previous ∧ previous.header.cpiId = cpiId := by
  cases previous : w.previous with
  | none =>
      simp only [closePrevious, previous] at known
      exact .inl known
  | some ctx =>
      simp only [closePrevious, previous, close] at known
      cases finalized : CpiFinalizer.tryFinalize ctx trigger closing.sealTsc with
      | none =>
          simp only [finalized] at known
          exact .inl known
      | some result =>
          obtain ⟨sealedCtx, output⟩ := result
          simp only [finalized] at known
          rw [record_closedRing] at known
          have named : output.cpiId = ctx.header.cpiId := by
            simp only [CpiFinalizer.tryFinalize] at finalized
            split at finalized
            · obtain ⟨decision, -, is⟩ := Option.map_eq_some_iff.mp finalized
              simp only [Prod.mk.injEq] at is
              rw [← is.2]
              rfl
            · cases finalized
          rcases RecentClosedRing.contains_pushClosed known with old | new
          · exact .inl old
          · exact .inr ⟨ctx, rfl, named.symm.trans new⟩

/-! ## The conditions -/

/-- A packet of the previous window's CPI arrives while another window is active
that it is not next to. -/
def KeepsApart (w : Windows) (op : Op) : Prop :=
  ∀ parsed packet previous, op = .data parsed packet → w.previous = some previous →
    parsed.cpi = previous.header.cpiId →
    ∃ active, w.active = some active ∧ parsed.cpi ≠ active.header.cpiId + 1

/-- No packet switches to a CPI that is remembered as closed. -/
def SwitchesToUnknown (w : Windows) (op : Op) : Prop :=
  ∀ parsed packet active, op = .data parsed packet → w.active = some active →
    parsed.cpi = active.header.cpiId + 1 → w.closedRing.contains parsed.cpi = false

instance (w : Windows) (op : Op) : Decidable (w.KeepsApart op) :=
  match op with
  | .data parsed packet => decidable_of_iff (∀ previous ∈ w.previous,
      parsed.cpi = previous.header.cpiId →
        ∃ active ∈ w.active, parsed.cpi ≠ active.header.cpiId + 1)
      ⟨fun apart _ _ previous same => by cases same; exact apart previous,
        fun apart previous => apart parsed packet previous rfl⟩
  | .control _ | .timeout _ | .drainRecycle | .consumer | .shutdown =>
      isTrue fun _ _ _ impossible => (nomatch impossible)

instance (w : Windows) (op : Op) : Decidable (w.SwitchesToUnknown op) :=
  match op with
  | .data parsed packet => decidable_of_iff (∀ active ∈ w.active,
      parsed.cpi = active.header.cpiId + 1 → w.closedRing.contains parsed.cpi = false)
      ⟨fun unknown _ _ active same => by cases same; exact unknown active,
        fun unknown active => unknown parsed packet active rfl⟩
  | .control _ | .timeout _ | .drainRecycle | .consumer | .shutdown =>
      isTrue fun _ _ _ impossible => (nomatch impossible)

/-! ## The windows hold different CPIs -/

def Distinct (w : Windows) : Prop :=
  ∀ active previous, w.active = some active → w.previous = some previous →
    active.header.cpiId ≠ previous.header.cpiId

theorem Opens.other_previous {op : Op} {start w : Windows} {parsed : ParsedPacketView}
    {packet : InterpretedPacketView} (opens : Opens start parsed.cpi w)
    (data : op = .data parsed packet) (apart : start.KeepsApart op) {previous : CpiContext}
    (isPrevious : w.previous = some previous) : parsed.cpi ≠ previous.header.cpiId := by
  cases opens with
  | idle inactive unknown =>
      intro same
      obtain ⟨active, isActive, -⟩ := apart parsed packet previous data isPrevious same
      rw [inactive] at isActive
      cases isActive
  | switched ctx closing active next =>
      obtain ⟨kept, -⟩ := closePrevious_eq (w := start) triggerCpiSwitch closing
      have is : previous = ctx := Option.some.inj (isPrevious.symm.trans (kept.trans active))
      rw [next, is]
      exact succ_ne_self ctx.header.cpiId

/-- A window that is empty now or holds the CPI it held before. -/
def SameName (window next : Option CpiContext) : Prop :=
  ∀ ctx, next = some ctx → ∃ old, window = some old ∧ old.header.cpiId = ctx.header.cpiId

private theorem SameName.refl (window : Option CpiContext) : SameName window window :=
  fun ctx is => ⟨ctx, is, rfl⟩

private theorem SameName.empty (window : Option CpiContext) : SameName window none :=
  fun _ impossible => (nomatch impossible)

private theorem SameName.write {window : Option CpiContext} {ctx next : CpiContext}
    (is : window = some ctx) (same : next.header.cpiId = ctx.header.cpiId) :
    SameName window (some next) := by
  intro other written
  obtain rfl := Option.some.inj written
  exact ⟨ctx, is, same.symm⟩

private theorem Distinct.of_names {w next : Windows} (distinct : w.Distinct)
    (active : SameName w.active next.active) (previous : SameName w.previous next.previous) :
    next.Distinct := by
  intro first second isActive isPrevious
  obtain ⟨oldActive, wasActive, sameActive⟩ := active first isActive
  obtain ⟨oldPrevious, wasPrevious, samePrevious⟩ := previous second isPrevious
  rw [← sameActive, ← samePrevious]
  exact distinct oldActive oldPrevious wasActive wasPrevious

theorem Distinct.move (formed : spec.WellFormed) {op : Op} {start before after : Windows}
    (apart : start.KeepsApart op) (sound : before.Sound spec)
    (move : Move spec op start before after) (distinct : before.Distinct) : after.Distinct := by
  have keepsActive := SameName.refl before.active
  have keepsPrevious := SameName.refl before.previous
  cases move with
  | judged accepted => exact distinct.of_names keepsActive keepsPrevious
  | staged parsed control valid => exact distinct.of_names keepsActive keepsPrevious
  | reboundActive ctx parsed control valid active same =>
      exact distinct.of_names (.write active (mergeControlSnapshot_headerCpiId ..)) keepsPrevious
  | reboundPrevious ctx parsed control valid notActive previous same =>
      exact distinct.of_names keepsActive (.write previous (mergeControlSnapshot_headerCpiId ..))
  | discardedPrevious ctx marks previous => exact distinct.of_names keepsActive (.empty _)
  | discardedActive ctx marks active => exact distinct.of_names (.empty _) keepsPrevious
  | committedPrevious active previous parsed packet closing data isActive next isPrevious =>
      obtain ⟨nextOutputId, output, sealedCtx, produced, closed⟩ := sound.commits isPrevious closing
      rw [closed]
      exact distinct.of_names keepsActive (.empty _)
  | shifted ctx active vacant => exact fun _ _ impossible => (nomatch impossible)
  | opened index parsed packet data inactive opens =>
      intro active previous isActive isPrevious
      obtain rfl := Option.some.inj isActive
      rw [openedCtx_cpiId]
      exact opens.other_previous data apart isPrevious
  | repeatedActive ctx active =>
      exact distinct.of_names (.write active rfl) keepsPrevious
  | repeatedPrevious ctx previous =>
      exact distinct.of_names keepsActive (.write previous rfl)
  | storedActive ctx parsed packet bytes data active same takes stays =>
      exact distinct.of_names (.write active CpiContext.receive_cpiId) keepsPrevious
  | filledActive ctx parsed packet bytes closing data active same takes closes =>
      obtain ⟨nextOutputId, output, sealedCtx, decision, is, produced, closed⟩ :=
        sound.fills formed active same takes closes closing
      rw [closed]
      exact distinct.of_names (.empty _) keepsPrevious
  | storedPrevious active previous parsed packet bytes data isActive isPrevious other notNext same
      takes =>
      exact distinct.of_names keepsActive (.write isPrevious CpiContext.receive_cpiId)

/-! ## Late packets -/

/-- Only the contents of the previous window changed. -/
structure OnlyLate (w next : Windows) (previous : CpiContext) : Prop where
  active : next.active = w.active
  closedRing : next.closedRing = w.closedRing
  openings : next.openings = w.openings
  previous : ∃ ctx, next.previous = some ctx ∧ ctx.identity = previous.identity ∧
    (next.log = w.log ∨ ∃ packet, next.log = w.log ++ [.stored packet ctx])

private theorem writeLate_onlyLate {w : Windows} {previous : CpiContext}
    (isPrevious : w.previous = some previous)
    {parsed : ParsedPacketView} (packet : InterpretedPacketView)
    (same : parsed.cpi = previous.header.cpiId) :
    OnlyLate w (w.writeLate spec parsed packet).1 previous := by
  have holds : holding w.previous parsed.cpi = some previous := by
    simp [holding, isPrevious, Option.filter, same]
  have identity := SlotWriter.write_identity spec previous parsed
  simp only [writeLate, holds]
  split
  · refine ⟨rfl, rfl, rfl, _, rfl, ?_, .inr ⟨parsed, rfl⟩⟩
    exact (ProgressTracker.advance_identity ..).trans identity
  · exact ⟨rfl, rfl, rfl, _, rfl, identity, .inl rfl⟩

private theorem processData_onlyLate (spec : ProtocolSpec) {w : Windows} (distinct : w.Distinct)
    {previous : CpiContext}
    (isPrevious : w.previous = some previous) {parsed : ParsedPacketView}
    {packet : InterpretedPacketView} (valid : ValidData parsed packet)
    (apart : w.KeepsApart (.data parsed packet)) (same : parsed.cpi = previous.header.cpiId)
    (choices : Choices) : OnlyLate w (w.processData spec parsed packet choices).1 previous := by
  obtain ⟨active, isActive, notNext⟩ := apart parsed packet previous rfl isPrevious same
  have other : parsed.cpi ≠ active.header.cpiId := fun is =>
    distinct active previous isActive isPrevious (is.symm.trans same)
  have late : w.processData spec parsed packet choices = w.writeLate spec parsed packet := by
    simp only [processData, isActive]
    exact admitPacket_late valid other notNext choices
  rw [late]
  exact writeLate_onlyLate isPrevious packet same

/-! ## A closed CPI stays closed -/

structure OnceAdjudicated (w : Windows) : Prop where
  distinct : w.Distinct
  ring : RecentClosedRing.Holds w.closedRing (closedIds w.log)
  spaced : (closedIds w.log).Spaced 8
  unknown : ∀ ctx, w.Holds ctx → ctx.header.cpiId ∉ (closedIds w.log).recent 8

/-- A window holds a CPI that a window held before. -/
def KeepsNames (w next : Windows) : Prop :=
  ∀ ctx, next.Holds ctx → ∃ old, w.Holds old ∧ old.header.cpiId = ctx.header.cpiId

private theorem KeepsNames.of_names {w next : Windows} (active : SameName w.active next.active)
    (previous : SameName w.previous next.previous) : KeepsNames w next := by
  rintro ctx (isActive | isPrevious)
  · obtain ⟨old, was, same⟩ := active ctx isActive
    exact ⟨old, .inl was, same⟩
  · obtain ⟨old, was, same⟩ := previous ctx isPrevious
    exact ⟨old, .inr was, same⟩

private theorem OnceAdjudicated.quiet {w next : Windows} (once : w.OnceAdjudicated)
    {events : List WindowEvent} (ring : next.closedRing = w.closedRing)
    (log : next.log = w.log ++ events) (silent : closedIds events = []) (distinct : next.Distinct)
    (names : KeepsNames w next) : next.OnceAdjudicated := by
  have ids : closedIds next.log = closedIds w.log := by
    rw [log, closedIds_append, silent, List.append_nil]
  refine ⟨distinct, by rw [ring, ids]; exact once.ring, by rw [ids]; exact once.spaced, ?_⟩
  intro ctx holds
  obtain ⟨old, held, same⟩ := names ctx holds
  rw [ids, ← same]
  exact once.unknown old held

private theorem OnceAdjudicated.closes {w next : Windows} (once : w.OnceAdjudicated)
    {ctx : CpiContext} {events : List WindowEvent} {sealTsc : Nat} {decision : CpiDecision}
    (held : w.Holds ctx)
    (ring : next.closedRing = w.closedRing.pushClosed ctx.header.cpiId sealTsc decision)
    (log : next.log = w.log ++ events) (closed : closedIds events = [ctx.header.cpiId])
    (distinct : next.Distinct) (names : KeepsNames w next)
    (others : ∀ other, next.Holds other → other.header.cpiId ≠ ctx.header.cpiId) :
    next.OnceAdjudicated := by
  have ids : closedIds next.log = closedIds w.log ++ [ctx.header.cpiId] := by
    rw [log, closedIds_append, closed]
  refine ⟨distinct, by rw [ring, ids]; exact once.ring.push .., ?_, ?_⟩
  · rw [ids]
    exact once.spaced.concat (once.unknown ctx held)
  · intro other holds member
    rw [ids] at member
    obtain ⟨old, was, same⟩ := names other holds
    rcases List.mem_recent_concat member with known | is
    · exact once.unknown old was (same ▸ known)
    · exact others other holds is

theorem Opens.unknown {op : Op} {start w : Windows} {parsed : ParsedPacketView}
    {packet : InterpretedPacketView} (opens : Opens start parsed.cpi w)
    (data : op = .data parsed packet) (apart : start.KeepsApart op)
    (switches : start.SwitchesToUnknown op) : w.closedRing.contains parsed.cpi = false := by
  cases opens with
  | idle inactive unknown => exact unknown
  | switched ctx closing active next =>
      by_contra known
      rcases closePrevious_contains (Bool.not_eq_false _ ▸ known) with old | ⟨previous, is, same⟩
      · rw [switches parsed packet ctx data active next] at old
        cases old
      · obtain ⟨other, isActive, notNext⟩ := apart parsed packet previous data is same.symm
        obtain rfl := Option.some.inj (isActive.symm.trans active)
        exact notNext next

theorem OnceAdjudicated.move (formed : spec.WellFormed) {op : Op} {start before after : Windows}
    (apart : start.KeepsApart op) (switches : start.SwitchesToUnknown op)
    (sound : before.Sound spec) (move : Move spec op start before after)
    (once : before.OnceAdjudicated) : after.OnceAdjudicated := by
  have distinct := once.distinct.move formed apart sound move
  have keepsActive := SameName.refl before.active
  have keepsPrevious := SameName.refl before.previous
  cases move with
  | judged accepted =>
      exact once.quiet rfl (List.append_nil _).symm rfl distinct
        (.of_names keepsActive keepsPrevious)
  | staged parsed control valid =>
      exact once.quiet rfl (List.append_nil _).symm rfl distinct
        (.of_names keepsActive keepsPrevious)
  | reboundActive ctx parsed control valid active same =>
      exact once.quiet rfl rfl rfl distinct (.of_names (.write active (mergeControlSnapshot_headerCpiId ..))
        keepsPrevious)
  | reboundPrevious ctx parsed control valid notActive previous same =>
      exact once.quiet rfl rfl rfl distinct (.of_names keepsActive (.write previous
        (mergeControlSnapshot_headerCpiId ..)))
  | discardedPrevious ctx marks previous =>
      exact once.quiet rfl rfl rfl distinct (.of_names keepsActive (.empty _))
  | discardedActive ctx marks active =>
      exact once.quiet rfl rfl rfl distinct (.of_names (.empty _) keepsPrevious)
  | committedPrevious active previous parsed packet closing data isActive next isPrevious =>
      obtain ⟨nextOutputId, output, sealedCtx, produced, closed⟩ := sound.commits isPrevious closing
      rw [closed] at distinct ⊢
      refine once.closes (.inr isPrevious) rfl rfl (congrArg (fun id => [id]) produced.cpiId) distinct
        (.of_names keepsActive (.empty _)) ?_
      rintro other (held | impossible)
      · exact once.distinct other previous held isPrevious
      · cases impossible
  | shifted ctx active vacant =>
      refine once.quiet rfl (List.append_nil _).symm rfl distinct ?_
      rintro other (impossible | held)
      · cases impossible
      · exact ⟨other, .inl held, rfl⟩
  | opened index parsed packet data inactive opens =>
      have silent : closedIds [.opened (before.openedCtx spec parsed.cpi index)] = [] := rfl
      have ids : closedIds (before.openWindow spec parsed.cpi index).log = closedIds before.log := by
        rw [openWindow, closedIds_append, silent, List.append_nil]
      refine ⟨distinct, by rw [ids]; exact once.ring, by rw [ids]; exact once.spaced, ?_⟩
      rw [ids]
      rintro ctx (isActive | isPrevious)
      · obtain rfl := Option.some.inj isActive
        rw [openedCtx_cpiId, ← once.ring.contains_iff, opens.unknown data apart switches]
        exact Bool.false_ne_true
      · exact once.unknown ctx (.inr isPrevious)
  | repeatedActive ctx active =>
      exact once.quiet rfl (List.append_nil _).symm rfl distinct
        (.of_names (.write active rfl) keepsPrevious)
  | repeatedPrevious ctx previous =>
      exact once.quiet rfl (List.append_nil _).symm rfl distinct
        (.of_names keepsActive (.write previous rfl))
  | storedActive ctx parsed packet bytes data active same takes stays =>
      exact once.quiet rfl rfl rfl distinct
        (.of_names (.write active CpiContext.receive_cpiId) keepsPrevious)
  | filledActive ctx parsed packet bytes closing data active same takes closes =>
      obtain ⟨nextOutputId, output, sealedCtx, decision, is, produced, closed⟩ :=
        sound.fills formed active same takes closes closing
      rw [closed] at distinct ⊢
      have id := produced.cpiId.trans CpiContext.receive_cpiId
      refine once.closes (.inl active) rfl rfl (congrArg (fun id => [id]) id) distinct
        (.of_names (.empty _) keepsPrevious) ?_
      rintro other (impossible | held)
      · cases impossible
      · exact (once.distinct ctx other active held).symm
  | storedPrevious active previous parsed packet bytes data isActive isPrevious other notNext same
      takes =>
      exact once.quiet rfl rfl rfl distinct
        (.of_names keepsActive (.write isPrevious CpiContext.receive_cpiId))

end Windows

section Runs

variable (config : RxConfig) (outputMinCapacity recycleMinCapacity : Nat)
  (consumerSchedule clock : List Nat)

/-- In a run whose packets keep the windows apart, the windows never hold the same
CPI, and a packet of the previous window's CPI changes nothing but that window. -/
theorem windows_stay_disjoint (ops : List Op) (valid : ∀ op ∈ ops, op.Valid)
    (apart : Machine.Along (System.step (protocolSpecFromConfig config))
      (fun s => s.windows.KeepsApart) ops
      (System.attached outputMinCapacity recycleMinCapacity consumerSchedule clock)) :
    let reached := fun ops => (Machine.run (System.step (protocolSpecFromConfig config)) ops
      (System.attached outputMinCapacity recycleMinCapacity consumerSchedule clock)).windows
    (∀ before after, ops = before ++ after → (reached before).Distinct) ∧
      ∀ before parsed packet after previous, ops = before ++ .data parsed packet :: after →
        (reached before).previous = some previous → parsed.cpi = previous.header.cpiId →
        Windows.OnlyLate (reached before) (reached (before ++ [.data parsed packet])) previous := by
  have formed := protocolSpecFromConfig_wellFormed config
  have start : (System.attached outputMinCapacity recycleMinCapacity consumerSchedule
      clock).windows.Distinct := fun _ _ impossible => (nomatch impossible)
  have owned := System.attached_owned outputMinCapacity recycleMinCapacity consumerSchedule clock
  intro reached
  have distinct : ∀ before after, ops = before ++ after → (reached before).Distinct := by
    rintro before after rfl
    have run := Windows.run_preserves formed
      (fun op begun before after _ apart sound move distinct =>
        Windows.Distinct.move formed apart sound move distinct)
      owned (Windows.fresh_sound ..) start
      (fun op member => valid op (List.mem_append_left _ member))
      (Machine.along_append.mp apart).1
    exact run.2
  refine ⟨distinct, ?_⟩
  rintro before parsed packet after previous rfl isPrevious same
  have here := (Machine.along_append.mp apart).2.1
  obtain ⟨choices, commutes⟩ := (System.windows_simulates (protocolSpecFromConfig config)).commutes
    _ (.data parsed packet) (System.run_owned (protocolSpecFromConfig config) before owned)
  have late := Windows.processData_onlyLate (protocolSpecFromConfig config)
    (distinct before _ rfl) isPrevious
    (valid (.data parsed packet) (by simp)) here same choices
  have stepped : reached (before ++ [.data parsed packet]) =
      Windows.step (protocolSpecFromConfig config) (.data parsed packet) choices
        (reached before) := by
    simp only [reached, Machine.run_append, Machine.run_cons, Machine.run_nil]
    exact commutes
  rw [stepped]
  exact ⟨late.active, late.closedRing, late.openings, late.previous⟩

/-- In a run whose packets keep the windows apart and switch to unknown CPIs, two
outputs of one CPI have at least eight closed CPIs between them. -/
theorem outputs_of_one_cpi_spaced (ops : List Op) (valid : ∀ op ∈ ops, op.Valid)
    (apart : Machine.Along (System.step (protocolSpecFromConfig config))
      (fun s => s.windows.KeepsApart) ops
      (System.attached outputMinCapacity recycleMinCapacity consumerSchedule clock))
    (switches : Machine.Along (System.step (protocolSpecFromConfig config))
      (fun s => s.windows.SwitchesToUnknown) ops
      (System.attached outputMinCapacity recycleMinCapacity consumerSchedule clock)) :
    let ids := closedIds (Machine.run (System.step (protocolSpecFromConfig config)) ops
      (System.attached outputMinCapacity recycleMinCapacity consumerSchedule clock)).windowLog
    ∀ first second cpiId, first < second → ids[first]? = some cpiId →
      ids[second]? = some cpiId → first + 8 < second := by
  have formed := protocolSpecFromConfig_wellFormed config
  have start : (System.attached outputMinCapacity recycleMinCapacity consumerSchedule
      clock).windows.OnceAdjudicated := by
    refine ⟨fun _ _ impossible => (nomatch impossible), .fresh, List.spaced_nil 8, ?_⟩
    rintro _ (impossible | impossible) <;> cases impossible
  have both := apart.and switches
  have run := Windows.run_preserves formed
    (fun op (begun : Windows) before after _
        (met : begun.KeepsApart op ∧ begun.SwitchesToUnknown op) sound move once =>
      Windows.OnceAdjudicated.move formed met.1 met.2 sound move once)
    (System.attached_owned ..) (Windows.fresh_sound ..) start valid both
  exact run.2.spaced

end Runs

/-- CPI 2 is complete while CPI 1 is still the previous window; then CPI 1 goes on. -/
def reopeningOps : List Op :=
  let spec := protocolSpecFromConfig pairConfig
  [.zeroData spec 1 1 0 1 0, .zeroData spec 2 1 0 1 0, .zeroData spec 2 1 0 2 0,
    .zeroData spec 1 1 0 2 0]

theorem windows_hold_one_cpi :
    (∀ op ∈ reopeningOps, op.Valid) ∧
      ¬ (Machine.run (System.step (protocolSpecFromConfig pairConfig)) reopeningOps
        (System.attached 32 32 [] [])).windows.Distinct := by
  refine ⟨by simp [reopeningOps], fun distinct => ?_⟩
  have found : ∃ active ∈ (Machine.run (System.step (protocolSpecFromConfig pairConfig))
      reopeningOps (System.attached 32 32 [] [])).windows.active,
    ∃ previous ∈ (Machine.run (System.step (protocolSpecFromConfig pairConfig))
      reopeningOps (System.attached 32 32 [] [])).windows.previous,
      active.header.cpiId = previous.header.cpiId := by decide +kernel
  obtain ⟨active, isActive, previous, isPrevious, same⟩ := found
  exact distinct active previous isActive isPrevious same

/-- Both windows of CPI 1 are then finalized. -/
def readjudicatingOps : List Op :=
  let spec := protocolSpecFromConfig pairConfig
  reopeningOps ++ [.zeroData spec 1 1 0 1 0, .zeroData spec 3 1 0 1 0, .zeroData spec 4 1 0 1 0]

theorem cpi_adjudicated_twice :
    let ids := closedIds (Machine.run (System.step (protocolSpecFromConfig pairConfig))
      readjudicatingOps (System.attached 32 32 [] [])).windowLog
    (∀ op ∈ readjudicatingOps, op.Valid) ∧
      ¬ ∀ first second cpiId, first < second → ids[first]? = some cpiId →
        ids[second]? = some cpiId → first + 8 < second := by
  intro ids
  refine ⟨by simp [readjudicatingOps, reopeningOps], fun spaced => ?_⟩
  have closed : ids = [2, 1, 1] := by decide +kernel
  have := spaced 1 2 1 (by decide) (by rw [closed]; rfl) (by rw [closed]; rfl)
  omega

/-- The two packets of CPI 1 around the first of CPI 2. -/
def overlappingOps : List Op :=
  let spec := protocolSpecFromConfig pairConfig
  [.zeroData spec 1 1 0 1 0, .zeroData spec 2 1 0 1 0, .zeroData spec 1 1 0 2 0]

/-- The second packet of CPI 1 stays with the previous window. -/
theorem windows_stay_disjoint_overlapping :
    let reached := fun ops => (Machine.run (System.step (protocolSpecFromConfig pairConfig)) ops
      (System.attached 32 32 [] [])).windows
    (∀ before after, overlappingOps = before ++ after → (reached before).Distinct) ∧
      ∀ before parsed packet after previous,
        overlappingOps = before ++ .data parsed packet :: after →
        (reached before).previous = some previous → parsed.cpi = previous.header.cpiId →
        Windows.OnlyLate (reached before) (reached (before ++ [.data parsed packet])) previous :=
  windows_stay_disjoint pairConfig 32 32 [] [] overlappingOps (by simp [overlappingOps])
    (by decide +kernel)

/-- CPI 1 comes again when ten others have been begun, one of them late in the previous
window. -/
def returningOps : List Op :=
  let spec := protocolSpecFromConfig pairConfig
  let cpi := fun cpiId : UInt16 => [.zeroData spec cpiId 1 0 1 0, .zeroData spec cpiId 1 0 2 0]
  [1, 2, 3, 4, 5, 6, 7, 8, 9].flatMap cpi ++
    [.zeroData spec 10 1 0 1 0, .zeroData spec 11 1 0 1 0, .zeroData spec 10 1 0 2 0,
      .zeroData spec 11 1 0 2 0] ++ cpi 1

theorem outputs_of_one_cpi_spaced_returning :
    let ids := closedIds (Machine.run (System.step (protocolSpecFromConfig pairConfig))
      returningOps (System.attached 32 32 [] [])).windowLog
    ids = [1, 2, 3, 4, 5, 6, 7, 8, 9, 11, 1] ∧
      ∀ first second cpiId, first < second → ids[first]? = some cpiId →
        ids[second]? = some cpiId → first + 8 < second :=
  ⟨by decide +kernel, outputs_of_one_cpi_spaced pairConfig 32 32 [] [] returningOps
    (by simp [returningOps]) (by decide +kernel) (by decide +kernel)⟩

end RxTech
