import RxTech.Core.WindowInvariant

/-!
# The history of an opening

A move is about one opening. An opening whose context left its window is never
heard of again, so the context it was archived with keeps its record.
-/

set_option autoImplicit false

namespace RxTech

namespace Windows

variable {spec : ProtocolSpec}

/-- The opening is over: no window holds its context any more. -/
structure Gone (w : Windows) (birth : Nat) : Prop where
  born : birth < w.openings
  left : ∀ ctx, w.Holds ctx → ctx.birth ≠ birth

/-- What a move does: its events are about one opening, of a window or new, and
every window it leaves was a window before or is of that opening. -/
structure Concerns (before after : Windows) (birth : Nat) (events : List WindowEvent) : Prop where
  log : after.log = before.log ++ events
  events : OfBirth birth events
  held : (∃ ctx, before.Holds ctx ∧ ctx.birth = birth) ∨ birth = before.openings
  windows : ∀ ctx, after.Holds ctx → ctx.birth = birth ∨
    ∃ old, before.Holds old ∧ old.birth = ctx.birth
  openings : before.openings ≤ after.openings

theorem Concerns.other {before after : Windows} {birth other : Nat} {events : List WindowEvent}
    (concerns : Concerns before after birth events) (gone : before.Gone other) : other ≠ birth := by
  rintro rfl
  rcases concerns.held with ⟨ctx, holds, same⟩ | fresh
  · exact gone.left ctx holds same
  · exact Nat.ne_of_lt gone.born fresh

theorem Concerns.gone {before after : Windows} {birth other : Nat} {events : List WindowEvent}
    (concerns : Concerns before after birth events) (gone : before.Gone other) :
    after.Gone other where
  born := Nat.lt_of_lt_of_le gone.born concerns.openings
  left ctx holds same := by
    rcases concerns.windows ctx holds with here | ⟨old, held, born⟩
    · exact concerns.other gone (same.symm.trans here)
    · exact gone.left old held (born.trans same)

theorem Concerns.received {before after : Windows} {birth other : Nat} {events : List WindowEvent}
    (concerns : Concerns before after birth events) (gone : before.Gone other) :
    receivedBy after.log other = receivedBy before.log other := by
  rw [concerns.log, receivedBy_append, concerns.events.quiet other (concerns.other gone),
    List.append_nil]

theorem Concerns.of_quiet {before after : Windows} (log : after.log = before.log)
    (openings : after.openings = before.openings)
    (windows : ∀ ctx, after.Holds ctx → ∃ old, before.Holds old ∧ old.birth = ctx.birth) :
    Concerns before after before.openings [] where
  log := by rw [log, List.append_nil]
  events := .nil _
  held := .inr rfl
  windows ctx holds := .inr (windows ctx holds)
  openings := Nat.le_of_eq openings.symm

theorem Concerns.of_window {before after : Windows} {ctx : CpiContext} {events : List WindowEvent}
    (holds : before.Holds ctx) (log : after.log = before.log ++ events)
    (own : OfBirth ctx.birth events) (openings : after.openings = before.openings)
    (windows : ∀ other, after.Holds other → other.birth = ctx.birth ∨ before.Holds other) :
    Concerns before after ctx.birth events where
  log := log
  events := own
  held := .inl ⟨ctx, holds, rfl⟩
  windows other holds := by
    rcases windows other holds with here | old
    · exact .inl here
    · exact .inr ⟨other, old, rfl⟩
  openings := Nat.le_of_eq openings.symm

/-- The active window changes, or is emptied. -/
theorem Concerns.of_active {before after : Windows} {ctx : CpiContext} {events : List WindowEvent}
    (active : before.active = some ctx) (log : after.log = before.log ++ events)
    (own : OfBirth ctx.birth events) (openings : after.openings = before.openings)
    (previous : after.previous = before.previous)
    (kept : ∀ other, after.active = some other → other.birth = ctx.birth) :
    Concerns before after ctx.birth events := by
  refine .of_window (.inl active) log own openings fun other holds => ?_
  rcases holds with isActive | isPrevious
  · exact .inl (kept other isActive)
  · exact .inr (.inr (previous ▸ isPrevious))

/-- The previous window changes, or is emptied. -/
theorem Concerns.of_previous {before after : Windows} {ctx : CpiContext}
    {events : List WindowEvent} (previous : before.previous = some ctx)
    (log : after.log = before.log ++ events) (own : OfBirth ctx.birth events)
    (openings : after.openings = before.openings) (active : after.active = before.active)
    (kept : ∀ other, after.previous = some other → other.birth = ctx.birth) :
    Concerns before after ctx.birth events := by
  refine .of_window (.inr previous) log own openings fun other holds => ?_
  rcases holds with isActive | isPrevious
  · exact .inr (.inl (active ▸ isActive))
  · exact .inl (kept other isPrevious)

/-- Each move is about one opening. -/
theorem Move.concerns (formed : spec.WellFormed) {op : Op} {start before after : Windows}
    (sound : before.Sound spec) (move : Move spec op start before after) :
    ∃ birth events, Concerns before after birth events := by
  cases move with
  | judged accepted => exact ⟨_, _, .of_quiet rfl rfl fun ctx holds => ⟨ctx, holds, rfl⟩⟩
  | staged parsed control valid =>
      exact ⟨_, _, .of_quiet rfl rfl fun ctx holds => ⟨ctx, holds, rfl⟩⟩
  | reboundActive ctx parsed control valid active same =>
      have birth := mergeControlSnapshot_birth ctx (makeControlSnapshot parsed spec)
      exact ⟨_, _, .of_active active rfl (.cons birth (.nil _)) rfl rfl
        fun other is => Option.some.inj is ▸ birth⟩
  | reboundPrevious ctx parsed control valid notActive previous same =>
      have birth := mergeControlSnapshot_birth ctx (makeControlSnapshot parsed spec)
      exact ⟨_, _, .of_previous previous rfl (.cons birth (.nil _)) rfl rfl
        fun other is => Option.some.inj is ▸ birth⟩
  | discardedPrevious ctx marks previous =>
      exact ⟨_, _, .of_previous previous rfl (.cons rfl (.nil _)) rfl rfl
        fun other is => by cases is⟩
  | discardedActive ctx marks active =>
      exact ⟨_, _, .of_active active rfl (.cons rfl (.nil _)) rfl rfl fun other is => by cases is⟩
  | committedPrevious active previous parsed packet closing data isActive next isPrevious =>
      obtain ⟨nextOutputId, output, sealedCtx, produced, closed⟩ := sound.commits isPrevious closing
      rw [closed]
      exact ⟨_, _, .of_previous isPrevious rfl (.cons produced.birth (.nil _)) rfl rfl
        fun other is => by cases is⟩
  | shifted ctx active vacant =>
      refine ⟨_, _, .of_quiet rfl rfl fun other holds => ?_⟩
      rcases holds with is | is
      · cases is
      · exact ⟨other, .inl is, rfl⟩
  | opened index parsed packet data inactive opens =>
      have birth := before.openedCtx_birth spec parsed.cpi index
      refine ⟨_, _, rfl, .cons birth (.nil _), .inr rfl, fun other holds => ?_, Nat.le_succ _⟩
      rcases holds with is | is
      · exact .inl (Option.some.inj is ▸ birth)
      · exact .inr ⟨other, .inr is, rfl⟩
  | repeatedActive ctx active =>
      refine ⟨_, _, .of_quiet rfl rfl fun other holds => ?_⟩
      rcases holds with is | is
      · exact ⟨ctx, .inl active, by rw [← Option.some.inj is]; rfl⟩
      · exact ⟨other, .inr is, rfl⟩
  | repeatedPrevious ctx previous =>
      refine ⟨_, _, .of_quiet rfl rfl fun other holds => ?_⟩
      rcases holds with is | is
      · exact ⟨other, .inl is, rfl⟩
      · exact ⟨ctx, .inr previous, by rw [← Option.some.inj is]; rfl⟩
  | storedActive ctx parsed packet bytes data active same takes stays =>
      exact ⟨_, _, .of_active active rfl (.cons CpiContext.receive_birth (.nil _)) rfl rfl
        fun other is => Option.some.inj is ▸ CpiContext.receive_birth⟩
  | filledActive ctx parsed packet bytes closing data active same takes closes =>
      obtain ⟨nextOutputId, output, sealedCtx, decision, -, produced, closed⟩ :=
        sound.fills formed active same takes closes closing
      rw [closed]
      have birth : sealedCtx.birth = ctx.birth := produced.birth.trans CpiContext.receive_birth
      exact ⟨_, _, .of_active active rfl (.cons CpiContext.receive_birth (.cons birth (.nil _)))
        rfl rfl fun other is => by cases is⟩
  | storedPrevious active previous parsed packet bytes data isActive isPrevious other notNext same
      takes =>
      exact ⟨_, _, .of_previous isPrevious rfl (.cons CpiContext.receive_birth (.nil _)) rfl rfl
        fun other is => Option.some.inj is ▸ CpiContext.receive_birth⟩

/-! ## Outputs -/

/-- A move makes no output, or it empties one window and makes the output of the
context it held. The previous window is emptied like this only at the start of an
operation. -/
inductive Emits (spec : ProtocolSpec) (start before : Windows) : Windows → Prop where
  | nothing {after : Windows} (events : List WindowEvent)
      (log : after.log = before.log ++ events) (quiet : ∀ event ∈ events, event.delivery = none) :
      Emits spec start before after
  | previous {ctx sealedCtx : CpiContext} {decision : CpiDecision} {output : CpiOutput}
      (delivery : Delivery) (closedRing : RecentClosedRing) (nextOutputId : Nat)
      (first : before = start) (isPrevious : before.previous = some ctx)
      (produced : Produced ctx decision output sealedCtx) :
      Emits spec start before { before with
        previous := none
        closedRing
        nextOutputId
        log := before.log ++ [.produced output sealedCtx delivery] }
  | active {ctx sealedCtx : CpiContext} {decision : CpiDecision} {output : CpiOutput}
      {parsed : ParsedPacketView} {bytes : ByteView} (delivery : Delivery)
      (closedRing : RecentClosedRing) (nextOutputId : Nat) (isActive : before.active = some ctx)
      (same : parsed.cpi = ctx.header.cpiId) (takes : ctx.Takes spec parsed bytes)
      (produced : Produced (ctx.receive spec parsed bytes) decision output sealedCtx) :
      Emits spec start before { before with
        active := none
        closedRing
        nextOutputId
        log := before.log ++ [.stored parsed (ctx.receive spec parsed bytes),
          .produced output sealedCtx delivery] }

theorem Move.emits (formed : spec.WellFormed) {op : Op} {start before after : Windows}
    (sound : before.Sound spec) (move : Move spec op start before after) :
    Emits spec start before after := by
  cases move with
  | judged | staged | shifted | repeatedActive | repeatedPrevious =>
      exact .nothing [] (by simp [shift]) (by simp)
  | reboundActive | reboundPrevious | discardedPrevious | discardedActive | opened | storedActive
  | storedPrevious => exact .nothing [_] rfl (by simp [WindowEvent.delivery])
  | committedPrevious active previous parsed packet closing data isActive next isPrevious =>
      obtain ⟨nextOutputId, output, sealedCtx, produced, closed⟩ := sound.commits isPrevious closing
      rw [closed]
      exact .previous _ _ nextOutputId rfl isPrevious produced
  | filledActive ctx parsed packet bytes closing data active same takes closes =>
      obtain ⟨nextOutputId, output, sealedCtx, decision, -, produced, closed⟩ :=
        sound.fills formed active same takes closes closing
      rw [closed]
      exact .active _ _ nextOutputId active same takes produced

end Windows

/-! ## Archived contexts -/

/-- The context agrees with the packets that the history says its opening
received, all of them of its CPI. -/
structure Filed (spec : ProtocolSpec) (log : List WindowEvent) (ctx : CpiContext) : Prop where
  reception : Reception spec (receivedBy log ctx.birth) ctx
  own : ∀ packet ∈ receivedBy log ctx.birth, packet.cpi = ctx.header.cpiId

theorem Held.filed {spec : ProtocolSpec} {log : List WindowEvent} {openings : Nat}
    {ctx : CpiContext} (held : Held spec log openings ctx) : Filed spec log ctx :=
  ⟨held.reception, held.own⟩

theorem Filed.keep {spec : ProtocolSpec} {log next : List WindowEvent} {ctx : CpiContext}
    (filed : Filed spec log ctx) (received : receivedBy next ctx.birth = receivedBy log ctx.birth) :
    Filed spec next ctx where
  reception := by
    rw [received]
    exact filed.reception
  own := by
    rw [received]
    exact filed.own

namespace Windows

variable {spec : ProtocolSpec}

theorem Produced.filed {log : List WindowEvent} {ctx sealedCtx : CpiContext}
    {decision : CpiDecision} {output : CpiOutput} (produced : Produced ctx decision output sealedCtx)
    (filed : Filed spec log ctx) : Filed spec log sealedCtx where
  reception := by
    rw [produced.birth]
    exact filed.reception.congr produced.record produced.summary produced.readyPrt
  own := by
    rw [produced.birth, produced.sealedCpiId]
    exact filed.own

/-- A context that an output was made from is filed, and its opening is over. -/
def Archives (spec : ProtocolSpec) (w : Windows) : Prop :=
  ∀ output ctx delivery, .produced output ctx delivery ∈ w.log →
    Filed spec w.log ctx ∧ w.Gone ctx.birth

theorem Archives.move (formed : spec.WellFormed) {op : Op} {start before after : Windows}
    (sound : before.Sound spec) (move : Move spec op start before after)
    (archives : before.Archives spec) : after.Archives spec := by
  obtain ⟨birth, events, concerns⟩ := move.concerns formed sound
  have kept : ∀ output ctx delivery, .produced output ctx delivery ∈ before.log →
      Filed spec after.log ctx ∧ after.Gone ctx.birth := by
    intro output ctx delivery old
    obtain ⟨filed, gone⟩ := archives output ctx delivery old
    exact ⟨filed.keep (concerns.received gone), concerns.gone gone⟩
  cases move.emits formed sound with
  | nothing events log quiet =>
      intro output ctx delivery member
      rw [log] at member
      rcases List.mem_append.mp member with old | new
      · exact kept output ctx delivery old
      · cases quiet _ new
  | @previous previous sealedCtx decision made delivery closedRing nextOutputId first isPrevious
      produced =>
      have held := sound.previous previous isPrevious
      intro output ctx delivery' member
      rcases List.mem_append.mp member with old | new
      · exact kept output ctx delivery' old
      · simp only [List.mem_singleton, WindowEvent.produced.injEq] at new
        obtain ⟨-, rfl, -⟩ := new
        refine ⟨produced.filed (held.keep rfl).filed, ?_, fun other holds same => ?_⟩
        · rw [produced.birth]
          exact held.born
        · rcases holds with is | is
          · exact sound.apart other previous is isPrevious (same.trans produced.birth)
          · cases is
  | @active active sealedCtx decision made parsed bytes delivery closedRing nextOutputId isActive
      same takes produced =>
      have held := (sound.active active isActive).receive formed same takes
      intro output ctx delivery' member
      rcases List.mem_append.mp member with old | new
      · exact kept output ctx delivery' old
      · simp only [List.mem_cons, reduceCtorEq, List.not_mem_nil, or_false, false_or,
          WindowEvent.produced.injEq] at new
        obtain ⟨-, rfl, -⟩ := new
        have birth := produced.birth.trans CpiContext.receive_birth
        refine ⟨?_, ?_, fun other holds same => ?_⟩
        · have filed := produced.filed held.filed
          apply filed.keep
          rw [List.append_cons, receivedBy_append]
          exact List.append_nil _
        · rw [birth]
          exact (sound.active active isActive).born
        · rcases holds with is | is
          · cases is
          · exact sound.apart active other isActive is (same.trans birth).symm

/-- Every context that is a window or that an output was made from is filed. -/
theorem run_archives (formed : spec.WellFormed) {ops : List Op} {s : System} (owned : s.Owned)
    (sound : s.windows.Sound spec) (archives : s.windows.Archives spec)
    (valid : ∀ op ∈ ops, op.Valid) :
    (Machine.run (System.step spec) ops s).windows.Sound spec ∧
      (Machine.run (System.step spec) ops s).windows.Archives spec :=
  run_preserves formed
    (fun _ _ _ _ _ (_ : True) sound move archives => Archives.move formed sound move archives)
    owned sound archives valid (Machine.along_of_forall (fun _ _ => trivial) ops s)

end Windows

/-! ## Slots in use -/

namespace System

/-- A slot that is not free is a window, or holds what an output was made from. -/
theorem Owned.inUse_cases {s : System} (owned : s.Owned) {index : PoolIndex}
    (used : s.ctxPool.inUse index = true) :
    s.windows.Holds (s.ctxPool.contexts index) ∨ s.Archived index := by
  have placed := owned.placed index
  simp only [outside, freeCount, used, if_true] at placed
  by_cases lent : s.lentCount index = 0
  · by_cases waiting : s.tokenCount index = 0
    · refine .inl ?_
      simp only [windowCount] at placed
      by_cases active : s.activeCtxIndex = some index
      · exact .inl (by simp [windows, activeCtx, active])
      · have previous : s.previousCtxIndex = some index := by
          by_contra neither
          simp only [active, neither, if_false] at placed
          omega
        exact .inr (by simp [windows, previousCtx, previous])
    · obtain ⟨token, member, refers⟩ := List.countP_pos_iff.mp (Nat.pos_of_ne_zero waiting)
      obtain ⟨other, named, archived⟩ := owned.linked.tokens token member
      have same : other = index := by
        simpa [ReleaseToken.refersTo, named] using refers
      exact .inr (same ▸ archived)
  · obtain ⟨output, member, refers⟩ := List.countP_pos_iff.mp (Nat.pos_of_ne_zero lent)
    obtain ⟨other, named, made⟩ := owned.linked.frozen output member
    have same : other = index := by
      simpa [CpiOutput.refersTo, named] using refers
    exact .inr ⟨output, same ▸ made⟩

theorem Owned.filed {spec : ProtocolSpec} {s : System} (owned : s.Owned)
    (sound : s.windows.Sound spec) (archives : s.windows.Archives spec) {index : PoolIndex}
    (used : s.ctxPool.inUse index = true) :
    Filed spec s.windowLog (s.ctxPool.contexts index) := by
  rcases owned.inUse_cases used with window | ⟨output, made⟩
  · rcases window with active | previous
    · exact (sound.active _ active).filed
    · exact (sound.previous _ previous).filed
  · exact (archives output _ _ made).1

end System

end RxTech
