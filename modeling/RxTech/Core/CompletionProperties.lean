import RxTech.Core.WindowInvariant

/-!
# No full window is lost

A window that becomes full is finalized as complete at once, as long as neither
a late packet nor a control packet is what makes it full.
-/

set_option autoImplicit false

namespace RxTech

/-- The decisions on the context of an opening, in order. -/
def decisionsOf (log : List WindowEvent) (birth : Nat) : List CpiDecision :=
  log.filterMap fun
    | .produced output ctx _ => if ctx.birth = birth then some output.decision else none
    | .opened _ | .stored _ _ | .rebound _ | .discarded _ => none

private theorem decisionsOf_append (first second : List WindowEvent) (birth : Nat) :
    decisionsOf (first ++ second) birth = decisionsOf first birth ++ decisionsOf second birth :=
  List.filterMap_append

private theorem decisionsOf_eq_nil {log : List WindowEvent} {birth : Nat}
    (other : ∀ event ∈ log, event.ctx.birth ≠ birth) : decisionsOf log birth = [] := by
  refine List.filterMap_eq_nil_iff.mpr fun event member => ?_
  cases event with
  | produced output ctx delivery => exact if_neg (other _ member)
  | opened | stored | rebound | discarded => rfl

/-! ## What makes a window full -/

/-- The packet is the last one that the context is short of. -/
structure CpiContext.LastMissing (spec : ProtocolSpec) (ctx : CpiContext)
    (parsed : ParsedPacketView) : Prop where
  accepts : SlotWriter.Accepts spec ctx.header.expectedNPrt parsed
  absent : ctx.bitmapHas parsed = false
  expected : 0 < ctx.header.expectedSlotCount
  enough : ctx.header.expectedSlotCount ≤ ctx.header.receivedSlotCount + 1

/-- The control packet binds the context to no more slots than it has received. -/
structure CpiContext.FilledBy (spec : ProtocolSpec) (ctx : CpiContext)
    (parsed : ParsedPacketView) : Prop where
  legal : LegalControl spec parsed
  source : ctx.control.bindSource = .fixed ∨
    (ctx.control.bindSource = .provisional ∧ ctx.header.observedNPrt ≤ parsed.prt)
  enough : parsed.prt * (spec.channelsPerPrt * spec.packetsPerChannel) ≤
    ctx.header.receivedSlotCount

instance (spec : ProtocolSpec) (expectedNPrt : Nat) (packet : ParsedPacketView) :
    Decidable (SlotWriter.Accepts spec expectedNPrt packet) :=
  decidable_of_iff (packet.valid = true ∧ packet.kind = .dataPacket ∧
      isValidSlotCoord packet.prt packet.channel packet.packetIndex
        (u16 spec.channelsPerPrt) (u16 spec.packetsPerChannel) = true ∧
      (expectedNPrt = 0 ∨ packet.prt ≤ expectedNPrt) ∧ packet.payloadPtr.isSome = true ∧
      0 < packet.payloadLen ∧ packet.payloadLen ≤ kCpiSlotStride)
    ⟨fun ⟨valid, kind, coord, expected, payload, pos, le⟩ =>
        ⟨valid, kind, coord, expected, payload, pos, le⟩,
      fun ⟨valid, kind, coord, expected, payload, pos, le⟩ =>
        ⟨valid, kind, coord, expected, payload, pos, le⟩⟩

instance (spec : ProtocolSpec) (ctx : CpiContext) (parsed : ParsedPacketView) :
    Decidable (ctx.LastMissing spec parsed) :=
  decidable_of_iff (SlotWriter.Accepts spec ctx.header.expectedNPrt parsed ∧
      ctx.bitmapHas parsed = false ∧ 0 < ctx.header.expectedSlotCount ∧
      ctx.header.expectedSlotCount ≤ ctx.header.receivedSlotCount + 1)
    ⟨fun ⟨accepts, absent, expected, enough⟩ => ⟨accepts, absent, expected, enough⟩,
      fun ⟨accepts, absent, expected, enough⟩ => ⟨accepts, absent, expected, enough⟩⟩

instance (spec : ProtocolSpec) (ctx : CpiContext) (parsed : ParsedPacketView) :
    Decidable (ctx.FilledBy spec parsed) :=
  decidable_of_iff (LegalControl spec parsed ∧
      (ctx.control.bindSource = .fixed ∨
        (ctx.control.bindSource = .provisional ∧ ctx.header.observedNPrt ≤ parsed.prt)) ∧
      parsed.prt * (spec.channelsPerPrt * spec.packetsPerChannel) ≤ ctx.header.receivedSlotCount)
    ⟨fun ⟨legal, source, enough⟩ => ⟨legal, source, enough⟩,
      fun ⟨legal, source, enough⟩ => ⟨legal, source, enough⟩⟩

theorem CpiContext.Takes.lastMissing {spec : ProtocolSpec} {ctx : CpiContext}
    {parsed : ParsedPacketView} {bytes : ByteView} (takes : ctx.Takes spec parsed bytes)
    (full : (ctx.receive spec parsed bytes).isFull = true) : ctx.LastMissing spec parsed := by
  simp only [isFull, receive_expectedSlotCount, receive_received, decide_eq_true_eq] at full
  exact ⟨takes.accepts, takes.absent, full.1, full.2⟩

private theorem filledBy_of_merge {spec : ProtocolSpec} (formed : spec.WellFormed)
    {ctx : CpiContext}
    {parsed : ParsedPacketView} (bound : Bound spec ctx) (short : ctx.isFull = false)
    (full : (mergeControlSnapshot ctx (makeControlSnapshot parsed spec)).isFull = true) :
    ctx.FilledBy spec parsed := by
  have made := makeControlSnapshot_madeFrom formed parsed
  have merged := mergeControlSnapshot_merged ctx (makeControlSnapshot parsed spec)
  have rebinding : (bindControlSnapshot ctx (makeControlSnapshot parsed spec)).isFull = true →
      (makeControlSnapshot parsed spec).nPrt * (spec.channelsPerPrt * spec.packetsPerChannel) ≤
        ctx.header.receivedSlotCount := by
    intro full
    simp only [CpiContext.isFull, decide_eq_true_eq, bindControlSnapshot_received,
      (bindControlSnapshot_bound made ctx).expectedSlotCount, bindControlSnapshot_control] at full
    exact full.2
  generalize mergeControlSnapshot ctx (makeControlSnapshot parsed spec) = next at merged full
  cases merged with
  | kept | conflicted =>
      rw [← Bool.not_eq_true] at short
      exact absurd full short
  | converged provisional control enough =>
      have legal := makeControlSnapshot_control control
      have slots := rebinding full
      rw [makeControlSnapshot_legal legal] at slots enough
      exact ⟨legal, .inr ⟨provisional, enough⟩, slots⟩
  | replaced fixed control =>
      have legal := makeControlSnapshot_control control
      have slots := rebinding full
      rw [makeControlSnapshot_legal legal] at slots
      exact ⟨legal, .inl fixed, slots⟩
  | rebound fixed other =>
      rw [← Bool.not_eq_true] at short
      refine absurd ?_ short
      simp only [CpiContext.isFull, (bindControlSnapshot_bound made ctx).expectedSlotCount,
        bindControlSnapshot_received, bindControlSnapshot_control,
        bound.rebound_nPrt formed fixed other] at full
      simpa only [CpiContext.isFull, bound.expectedSlotCount] using full

namespace Windows

variable {spec : ProtocolSpec}

/-- The operation fills no window outside a write to the active one: no late
packet is the last that the previous window is short of, and no control packet
binds the window it is merged into to no more slots than that has received. -/
structure FillsActively (spec : ProtocolSpec) (w : Windows) (op : Op) : Prop where
  late : ∀ parsed packet active previous, op = .data parsed packet → w.active = some active →
    w.previous = some previous → parsed.cpi = previous.header.cpiId →
    parsed.cpi ≠ active.header.cpiId → parsed.cpi ≠ active.header.cpiId + 1 →
    ¬ previous.LastMissing spec parsed
  control : ∀ parsed ctx, op = .control parsed → ValidControl parsed →
    (holding w.active parsed.cpi).or (holding w.previous parsed.cpi) = some ctx →
    ¬ ctx.FilledBy spec parsed

private theorem fillsActively_data_iff {w : Windows} {parsed : ParsedPacketView}
    {packet : InterpretedPacketView} : w.FillsActively spec (.data parsed packet) ↔
      ∀ active ∈ w.active, ∀ previous ∈ w.previous, parsed.cpi = previous.header.cpiId →
        parsed.cpi ≠ active.header.cpiId → parsed.cpi ≠ active.header.cpiId + 1 →
        ¬ previous.LastMissing spec parsed := by
  constructor
  · intro fills active isActive previous isPrevious
    exact fills.late parsed packet active previous rfl isActive isPrevious
  · intro late
    constructor
    · intro _ _ active previous same isActive isPrevious
      cases same
      exact late active isActive previous isPrevious
    · intro _ _ impossible
      cases impossible

private theorem fillsActively_control_iff {w : Windows} {parsed : ParsedPacketView} :
    w.FillsActively spec (.control parsed) ↔ (ValidControl parsed →
      ∀ ctx ∈ (holding w.active parsed.cpi).or (holding w.previous parsed.cpi),
        ¬ ctx.FilledBy spec parsed) := by
  constructor
  · intro fills valid ctx merged
    exact fills.control parsed ctx rfl valid merged
  · intro control
    constructor
    · intro _ _ _ _ impossible
      cases impossible
    · intro _ ctx same valid merged
      cases same
      exact control valid ctx merged

private theorem fillsActively_of_other {w : Windows} {op : Op}
    (data : ∀ parsed packet, op ≠ .data parsed packet) (control : ∀ parsed, op ≠ .control parsed) :
    w.FillsActively spec op :=
  ⟨fun _ _ _ _ is => absurd is (data _ _), fun _ _ is => absurd is (control _)⟩

instance (w : Windows) (op : Op) : Decidable (w.FillsActively spec op) :=
  match op with
  | .data _ _ => decidable_of_iff' _ fillsActively_data_iff
  | .control _ => decidable_of_iff' _ fillsActively_control_iff
  | .timeout _ | .drainRecycle | .consumer | .shutdown =>
      isTrue (fillsActively_of_other (fun _ _ is => nomatch is) fun _ is => nomatch is)

/-- No open window is full or has an output yet, and every full context has its
one output. -/
structure FullCompleted (w : Windows) : Prop where
  short : ∀ ctx, w.Holds ctx → ctx.isFull = false
  undecided : ∀ ctx, w.Holds ctx → decisionsOf w.log ctx.birth = []
  completed : ∀ event ∈ w.log, event.ctx.isFull = true →
    decisionsOf w.log event.ctx.birth = [.completeOk]

theorem OfBirth.undecided {birth other : Nat} {events : List WindowEvent}
    (own : OfBirth birth events) (different : other ≠ birth) : decisionsOf events other = [] :=
  decisionsOf_eq_nil fun event member same => different (same.symm.trans (own.own event member))

/-- The log grows by events of one context that had no output yet. The context
stays short, or it is complete and no longer a window. -/
private theorem FullCompleted.emit {w next : Windows} (done : w.FullCompleted) {birth : Nat}
    {events : List WindowEvent} (undecided : decisionsOf w.log birth = [])
    (log : next.log = w.log ++ events) (own : OfBirth birth events)
    (windows : ∀ ctx, next.Holds ctx → (w.Holds ctx ∧ ctx.birth ≠ birth) ∨
      (ctx.birth = birth ∧ ctx.isFull = false ∧ decisionsOf events birth = []))
    (settled : (∀ event ∈ events, event.ctx.isFull = false) ∨
      decisionsOf events birth = [.completeOk]) : next.FullCompleted where
  short ctx holds := by
    rcases windows ctx holds with ⟨held, -⟩ | ⟨-, short, -⟩
    · exact done.short ctx held
    · exact short
  undecided ctx holds := by
    rw [log, decisionsOf_append]
    rcases windows ctx holds with ⟨held, other⟩ | ⟨same, -, silent⟩
    · rw [done.undecided ctx held, own.undecided other, List.append_nil]
    · rw [same, undecided, silent, List.append_nil]
  completed event member full := by
    rw [log] at member
    rw [log, decisionsOf_append]
    rcases List.mem_append.mp member with old | new
    · have decided := done.completed event old full
      have different : event.ctx.birth ≠ birth := by
        intro same
        rw [same, undecided] at decided
        cases decided
      rw [decided, own.undecided different, List.append_nil]
    · rw [own.own event new, undecided, List.nil_append]
      rcases settled with short | complete
      · rw [short event new] at full
        cases full
      · exact complete

private theorem Sound.other_of_active {w : Windows} (sound : w.Sound spec) {ctx other : CpiContext}
    (active : w.active = some ctx) (previous : w.previous = some other) :
    w.Holds other ∧ other.birth ≠ ctx.birth :=
  ⟨.inr previous, (sound.apart ctx other active previous).symm⟩

private theorem Sound.other_of_previous {w : Windows} (sound : w.Sound spec)
    {ctx other : CpiContext} (previous : w.previous = some ctx) (active : w.active = some other) :
    w.Holds other ∧ other.birth ≠ ctx.birth :=
  ⟨.inl active, sound.apart other ctx active previous⟩

private theorem openedCtx_short {w : Windows} (cpiId : UInt16) (index : PoolIndex) :
    (w.openedCtx spec cpiId index).isFull = false := by
  have received : (w.openedCtx spec cpiId index).header.receivedSlotCount = 0 :=
    bindControlSnapshot_received ..
  simp only [CpiContext.isFull, received, decide_eq_false_iff_not]
  omega

private theorem markTrigger_isFull (ctx : CpiContext) (marks : Nat) :
    (System.markTrigger ctx marks).isFull = ctx.isFull := rfl

private theorem FullCompleted.writeActive {w after : Windows} (done : w.FullCompleted)
    (sound : w.Sound spec) {ctx next : CpiContext} {events : List WindowEvent}
    (active : w.active = some ctx) (written : after.active = some next)
    (kept : after.previous = w.previous) (log : after.log = w.log ++ events)
    (birth : next.birth = ctx.birth) (short : next.isFull = false)
    (own : OfBirth ctx.birth events) (silent : decisionsOf events ctx.birth = [])
    (calm : ∀ event ∈ events, event.ctx.isFull = false) : after.FullCompleted := by
  refine done.emit (done.undecided ctx (.inl active)) log own ?_ (.inl calm)
  rintro other (isActive | isPrevious)
  · obtain rfl := Option.some.inj (written.symm.trans isActive)
    exact .inr ⟨birth, short, silent⟩
  · exact .inl (sound.other_of_active active (kept.symm.trans isPrevious))

private theorem FullCompleted.writePrevious {w after : Windows} (done : w.FullCompleted)
    (sound : w.Sound spec) {ctx next : CpiContext} {events : List WindowEvent}
    (previous : w.previous = some ctx) (written : after.previous = some next)
    (kept : after.active = w.active) (log : after.log = w.log ++ events)
    (birth : next.birth = ctx.birth) (short : next.isFull = false)
    (own : OfBirth ctx.birth events) (silent : decisionsOf events ctx.birth = [])
    (calm : ∀ event ∈ events, event.ctx.isFull = false) : after.FullCompleted := by
  refine done.emit (done.undecided ctx (.inr previous)) log own ?_ (.inl calm)
  rintro other (isActive | isPrevious)
  · exact .inl (sound.other_of_previous previous (kept.symm.trans isActive))
  · obtain rfl := Option.some.inj (written.symm.trans isPrevious)
    exact .inr ⟨birth, short, silent⟩

private theorem FullCompleted.emptyActive {w after : Windows} (done : w.FullCompleted)
    (sound : w.Sound spec) {ctx : CpiContext} {events : List WindowEvent}
    (active : w.active = some ctx) (vacant : after.active = none)
    (kept : after.previous = w.previous) (log : after.log = w.log ++ events)
    (own : OfBirth ctx.birth events)
    (settled : (∀ event ∈ events, event.ctx.isFull = false) ∨
      decisionsOf events ctx.birth = [.completeOk]) : after.FullCompleted := by
  refine done.emit (done.undecided ctx (.inl active)) log own ?_ settled
  rintro other (isActive | isPrevious)
  · cases vacant.symm.trans isActive
  · exact .inl (sound.other_of_active active (kept.symm.trans isPrevious))

private theorem FullCompleted.emptyPrevious {w after : Windows} (done : w.FullCompleted)
    (sound : w.Sound spec) {ctx : CpiContext} {events : List WindowEvent}
    (previous : w.previous = some ctx) (vacant : after.previous = none)
    (kept : after.active = w.active) (log : after.log = w.log ++ events)
    (own : OfBirth ctx.birth events) (calm : ∀ event ∈ events, event.ctx.isFull = false) :
    after.FullCompleted := by
  refine done.emit (done.undecided ctx (.inr previous)) log own ?_ (.inl calm)
  rintro other (isActive | isPrevious)
  · exact .inl (sound.other_of_previous previous (kept.symm.trans isActive))
  · cases vacant.symm.trans isPrevious

private theorem FillsActively.rebind_short (formed : spec.WellFormed) {w : Windows}
    {parsed : ParsedPacketView} (fills : w.FillsActively spec (.control parsed))
    (valid : ValidControl parsed) {ctx : CpiContext}
    (merged : (holding w.active parsed.cpi).or (holding w.previous parsed.cpi) = some ctx)
    (bound : Bound spec ctx) (short : ctx.isFull = false) :
    (mergeControlSnapshot ctx (makeControlSnapshot parsed spec)).isFull = false := by
  by_contra full
  exact fills.control parsed ctx rfl valid merged
    (filledBy_of_merge formed bound short (by simpa using full))

theorem FullCompleted.move (formed : spec.WellFormed) {op : Op} {start before after : Windows}
    (fills : start.FillsActively spec op) (sound : before.Sound spec)
    (move : Move spec op start before after) (done : before.FullCompleted) :
    after.FullCompleted := by
  cases move with
  | judged accepted => exact ⟨done.short, done.undecided, done.completed⟩
  | staged parsed control valid => exact ⟨done.short, done.undecided, done.completed⟩
  | reboundActive ctx parsed control valid active same =>
      subst control
      have merged : (holding start.active parsed.cpi).or (holding start.previous parsed.cpi) =
          some ctx := by
        rw [holding_of_eq active same, Option.some_or]
      have short := fills.rebind_short formed valid merged (sound.active ctx active).bound
        (done.short ctx (.inl active))
      have birth := mergeControlSnapshot_birth ctx (makeControlSnapshot parsed spec)
      exact done.writeActive sound active rfl rfl rfl birth short (.cons birth (.nil _)) rfl
        (by simpa [WindowEvent.ctx] using short)
  | reboundPrevious ctx parsed control valid notActive previous same =>
      subst control
      have merged : (holding start.active parsed.cpi).or (holding start.previous parsed.cpi) =
          some ctx := by
        rw [notActive, holding_of_eq previous same, Option.none_or]
      have short := fills.rebind_short formed valid merged
        (sound.previous ctx previous).bound (done.short ctx (.inr previous))
      have birth := mergeControlSnapshot_birth ctx (makeControlSnapshot parsed spec)
      exact done.writePrevious sound previous rfl rfl rfl birth short (.cons birth (.nil _)) rfl
        (by simpa [WindowEvent.ctx] using short)
  | discardedPrevious ctx marks previous =>
      exact done.emptyPrevious sound previous rfl rfl rfl (.cons rfl (.nil _))
        (by simpa [WindowEvent.ctx, markTrigger_isFull] using done.short ctx (.inr previous))
  | discardedActive ctx marks active =>
      exact done.emptyActive sound active rfl rfl rfl (.cons rfl (.nil _))
        (.inl (by simpa [WindowEvent.ctx, markTrigger_isFull] using done.short ctx (.inl active)))
  | committedPrevious active previous parsed packet closing data isActive next isPrevious =>
      obtain ⟨nextOutputId, output, sealedCtx, produced, closed⟩ := sound.commits isPrevious closing
      rw [closed]
      exact done.emptyPrevious sound isPrevious rfl rfl rfl (.cons produced.birth (.nil _))
        (by simpa [WindowEvent.ctx, produced.isFull] using done.short previous (.inr isPrevious))
  | shifted ctx active vacant =>
      have only : ∀ other, before.shift.Holds other → before.Holds other := by
        rintro other (impossible | isPrevious)
        · cases impossible
        · exact .inl isPrevious
      exact ⟨fun other holds => done.short other (only other holds),
        fun other holds => done.undecided other (only other holds), done.completed⟩
  | opened index parsed packet data inactive opens =>
      have birth := before.openedCtx_birth spec parsed.cpi index
      have fresh : decisionsOf before.log before.openings = [] :=
        decisionsOf_eq_nil fun event member => Nat.ne_of_lt (sound.logged event member)
      refine done.emit fresh rfl (.cons birth (.nil _)) ?_
        (.inl (by simpa [WindowEvent.ctx] using openedCtx_short parsed.cpi index))
      rintro other (isActive | isPrevious)
      · obtain rfl := Option.some.inj isActive
        exact .inr ⟨birth, openedCtx_short parsed.cpi index, rfl⟩
      · exact .inl ⟨.inr isPrevious, Nat.ne_of_lt (sound.previous other isPrevious).born⟩
  | repeatedActive ctx active =>
      exact done.writeActive sound active rfl rfl (List.append_nil _).symm rfl
        (done.short ctx (.inl active)) (.nil _) rfl (by simp)
  | repeatedPrevious ctx previous =>
      exact done.writePrevious sound previous rfl rfl (List.append_nil _).symm rfl
        (done.short ctx (.inr previous)) (.nil _) rfl (by simp)
  | storedActive ctx parsed packet bytes data active same takes stays =>
      have short : (ctx.receive spec parsed bytes).isFull = false := by
        have raised := CpiContext.receive_fullReady formed takes
        rw [untriggered_fullReady stays] at raised
        simp only [Bool.false_eq, Bool.or_eq_false_iff] at raised
        exact raised.2
      exact done.writeActive sound active rfl rfl rfl CpiContext.receive_birth short
        (.cons CpiContext.receive_birth (.nil _)) rfl (by simpa [WindowEvent.ctx] using short)
  | filledActive ctx parsed packet bytes closing data active same takes closes =>
      obtain ⟨nextOutputId, output, sealedCtx, decision, is, produced, closed⟩ :=
        sound.fills formed active same takes closes closing
      have birth : sealedCtx.birth = ctx.birth := produced.birth.trans CpiContext.receive_birth
      rw [closed]
      refine done.emptyActive sound active rfl rfl rfl
        (.cons CpiContext.receive_birth (.cons birth (.nil _))) ?_
      cases full : (ctx.receive spec parsed bytes).isFull with
      | true =>
          rw [full, if_pos rfl] at is
          exact .inr (by simp [decisionsOf, birth, produced.decision, is])
      | false => exact .inl (by simp [WindowEvent.ctx, produced.isFull, full])
  | storedPrevious active previous parsed packet bytes data isActive isPrevious other notNext same
      takes =>
      have short : (previous.receive spec parsed bytes).isFull = false := by
        by_contra full
        exact fills.late parsed packet active previous data isActive isPrevious same other notNext
          (takes.lastMissing (by simpa using full))
      exact done.writePrevious sound isPrevious rfl rfl rfl CpiContext.receive_birth short
        (.cons CpiContext.receive_birth (.nil _)) rfl (by simpa [WindowEvent.ctx] using short)

end Windows

/-- In a run where nothing but a write to the active window fills a window, every
context that was full at some point has exactly one output, and it is complete. -/
theorem full_windows_complete (config : RxConfig) (outputMinCapacity recycleMinCapacity : Nat)
    (consumerSchedule clock : List Nat) (ops : List Op) (valid : ∀ op ∈ ops, op.Valid)
    (fills : Machine.Along (System.step (protocolSpecFromConfig config))
      (fun s => s.windows.FillsActively (protocolSpecFromConfig config)) ops
      (System.attached outputMinCapacity recycleMinCapacity consumerSchedule clock)) :
    let log := (Machine.run (System.step (protocolSpecFromConfig config)) (ops ++ [.shutdown])
      (System.attached outputMinCapacity recycleMinCapacity consumerSchedule clock)).windowLog
    ∀ event ∈ log, event.ctx.isFull = true → decisionsOf log event.ctx.birth = [.completeOk] := by
  have formed := protocolSpecFromConfig_wellFormed config
  have start : (System.attached outputMinCapacity recycleMinCapacity consumerSchedule
      clock).windows.FullCompleted := by
    refine ⟨?_, ?_, by simp [System.attached, System.fresh, System.windows]⟩ <;>
      rintro _ (impossible | impossible) <;> cases impossible
  have stops : Machine.Along (System.step (protocolSpecFromConfig config))
      (fun s => s.windows.FillsActively (protocolSpecFromConfig config)) (ops ++ [.shutdown])
      (System.attached outputMinCapacity recycleMinCapacity consumerSchedule clock) := by
    refine Machine.along_append.mpr ⟨fills, ?_, trivial⟩
    exact Windows.fillsActively_of_other (fun _ _ is => nomatch is) (fun _ is => nomatch is)
  have allValid : ∀ op ∈ ops ++ [.shutdown], op.Valid := by
    intro op member
    rcases List.mem_append.mp member with run | last
    · exact valid op run
    · rw [List.mem_singleton.mp last]
      exact Op.shutdown_valid
  have done := Windows.run_preserves formed
    (fun op begun before after _ fills sound move done =>
      Windows.FullCompleted.move formed fills sound move done)
    (System.attached_owned ..) (Windows.fresh_sound ..) start allValid stops
  exact done.2.completed

/-- The second packet of CPI 1 arrives when CPI 2 has begun. -/
def lateLastOps : List Op :=
  let spec := protocolSpecFromConfig pairConfig
  [.zeroData spec 1 1 0 1 0, .zeroData spec 2 1 0 1 0, .zeroData spec 1 1 0 2 0]

theorem full_window_discarded :
    let log := (Machine.run (System.step (protocolSpecFromConfig pairConfig))
      (lateLastOps ++ [.shutdown]) (System.attached 32 32 [] [])).windowLog
    (∀ op ∈ lateLastOps, op.Valid) ∧
      ∃ event ∈ log, event.ctx.isFull = true ∧ decisionsOf log event.ctx.birth = [] := by
  intro log
  refine ⟨by simp [lateLastOps], ?_⟩
  have found : log.any (fun event => event.ctx.isFull && decisionsOf log event.ctx.birth == []) =
      true := by decide +kernel
  obtain ⟨event, member, holds⟩ := List.any_eq_true.mp found
  simp only [Bool.and_eq_true, beq_iff_eq] at holds
  exact ⟨event, member, holds.1, holds.2⟩

/-- Three packets make a CPI, and a control packet says how many PRTs there are. -/
def announcedTripleConfig : RxConfig :=
  { announcedConfig with protocolPacketsPerChannel := 3 }

/-- The second packet of CPI 1 comes late, but the third never comes; CPI 2 is bound again by a
control packet and becomes full in the active window. -/
def lateSecondOps : List Op :=
  let spec := protocolSpecFromConfig announcedTripleConfig
  [.announce 1 1, .zeroData spec 1 1 0 1 0, .announce 2 1, .zeroData spec 2 1 0 1 0,
    .zeroData spec 1 1 0 2 0, .announce 2 1, .zeroData spec 2 1 0 2 0, .announce 1 1,
    .zeroData spec 2 1 0 3 0]

theorem full_windows_complete_late_second :
    let log := (Machine.run (System.step (protocolSpecFromConfig announcedTripleConfig))
      (lateSecondOps ++ [.shutdown]) (System.attached 32 32 [] [])).windowLog
    log.any (fun event => event.ctx.isFull) = true ∧
      ∀ event ∈ log, event.ctx.isFull = true → decisionsOf log event.ctx.birth = [.completeOk] :=
  ⟨by decide +kernel, full_windows_complete announcedTripleConfig 32 32 [] [] lateSecondOps
    (by simp [lateSecondOps]) (by decide +kernel)⟩

end RxTech
