import RxTech.Core.BurstIndependence
import RxTech.Core.StoredRows
import Mathlib.Algebra.Ring.Nat

/-!
# Where accepted packets end up

Every packet that the coordinator accepts is stored once, and a stored packet is counted
by exactly one of these: an output, a context that was discarded, or a window.
-/

set_option autoImplicit false

namespace RxTech

/-- The event stored a packet. -/
def WindowEvent.isStored : WindowEvent → Bool
  | .stored _ _ => true
  | .opened _ | .rebound _ | .produced _ _ _ | .discarded _ => false

/-- The packets of an output with this delivery. -/
def WindowEvent.producedPackets (delivery : Delivery) : WindowEvent → Nat
  | .produced output _ other => if other = delivery then output.receivedSlotCount else 0
  | .opened _ | .stored _ _ | .rebound _ | .discarded _ => 0

/-- The packets of a context that was discarded. -/
def WindowEvent.discardedPackets : WindowEvent → Nat
  | .discarded ctx => ctx.header.receivedSlotCount
  | .opened _ | .stored _ _ | .rebound _ | .produced _ _ _ => 0

/-- The packets that left the windows with this event. -/
def WindowEvent.departedPackets (event : WindowEvent) : Nat :=
  event.producedPackets .pushed + event.producedPackets .dropped +
    event.producedPackets .detached + event.discardedPackets

def storedCount (log : List WindowEvent) : Nat := log.countP WindowEvent.isStored

/-- The packets in the outputs with this delivery. -/
def producedPackets (delivery : Delivery) (log : List WindowEvent) : Nat :=
  (log.map (WindowEvent.producedPackets delivery)).sum

/-- The packets that were lost with a timeout or a stop. -/
def discardedPackets (log : List WindowEvent) : Nat := (log.map WindowEvent.discardedPackets).sum

/-- The packets that left the windows. -/
def departedPackets (log : List WindowEvent) : Nat := (log.map WindowEvent.departedPackets).sum

private theorem storedCount_append (first second : List WindowEvent) :
    storedCount (first ++ second) = storedCount first + storedCount second :=
  List.countP_append

private theorem departedPackets_append (first second : List WindowEvent) :
    departedPackets (first ++ second) = departedPackets first + departedPackets second := by
  rw [departedPackets, List.map_append, List.sum_append]
  rfl

private theorem departedPackets_eq (log : List WindowEvent) :
    departedPackets log = producedPackets .pushed log + producedPackets .dropped log +
      producedPackets .detached log + discardedPackets log := by
  induction log with
  | nil => rfl
  | cons event log ih =>
      simp only [departedPackets, producedPackets, discardedPackets, List.map_cons, List.sum_cons,
        WindowEvent.departedPackets] at ih ⊢
      omega

/-! ## Windows -/

namespace Windows

variable {spec : ProtocolSpec}

/-- The packets in the windows. -/
def heldPackets (w : Windows) : Nat :=
  (w.active.elim 0 fun ctx => ctx.header.receivedSlotCount) +
    w.previous.elim 0 fun ctx => ctx.header.receivedSlotCount

private theorem heldPackets_eq_zero {w : Windows} (inactive : w.active = none)
    (vacant : w.previous = none) : w.heldPackets = 0 := by
  rw [heldPackets, inactive, vacant]
  rfl

/-- A part of an operation that stores `count` packets and loses track of none. -/
def Conserves (w next : Windows) (count : Nat) : Prop :=
  ∃ events, next.log = w.log ++ events ∧ next.verdicts = w.verdicts ∧
    storedCount events = count ∧
    count + w.heldPackets = departedPackets events + next.heldPackets

private theorem conserves_of_log {w next : Windows} (log : next.log = w.log)
    (verdicts : next.verdicts = w.verdicts) (held : next.heldPackets = w.heldPackets) :
    Conserves w next 0 :=
  ⟨[], log.trans (List.append_nil _).symm, verdicts, rfl, congrArg (0 + ·) held.symm⟩

theorem Conserves.refl (w : Windows) : Conserves w w 0 := conserves_of_log rfl rfl rfl

theorem Conserves.trans {first second third : Windows} {earlier later : Nat}
    (left : Conserves first second earlier) (right : Conserves second third later) :
    Conserves first third (earlier + later) := by
  obtain ⟨events, log, verdicts, stored, balance⟩ := left
  obtain ⟨others, grown, kept, more, balanced⟩ := right
  refine ⟨events ++ others, ?_, kept.trans verdicts, ?_, ?_⟩
  · rw [grown, log, List.append_assoc]
  · rw [storedCount_append, stored, more]
  · rw [departedPackets_append]
    omega

/-- Nothing is stored before `next` is reached. -/
theorem Conserves.after {first second third : Windows} {count : Nat}
    (left : Conserves first second 0) (right : Conserves second third count) :
    Conserves first third count := by
  have both := left.trans right
  rwa [Nat.zero_add] at both

/-- The output counts the packets of the context it is made from. -/
theorem tryFinalize_received {ctx sealedCtx : CpiContext} {trigger now : Nat} {output : CpiOutput}
    (made : CpiFinalizer.tryFinalize ctx trigger now = some (sealedCtx, output)) :
    output.receivedSlotCount = ctx.header.receivedSlotCount := by
  simp only [CpiFinalizer.tryFinalize] at made
  split at made
  · obtain ⟨decision, -, is⟩ := Option.map_eq_some_iff.mp made
    cases is
    rfl
  · cases made

/-- Finalizing a context takes its packets along. -/
theorem close_departs (w : Windows) (ctx : CpiContext) (trigger : Nat) (closing : Closing) :
    ∃ event, (w.close ctx trigger closing).log = w.log ++ [event] ∧
      (w.close ctx trigger closing).verdicts = w.verdicts ∧ event.isStored = false ∧
      event.departedPackets = ctx.header.receivedSlotCount := by
  simp only [close]
  cases made : CpiFinalizer.tryFinalize ctx trigger closing.sealTsc with
  | none => exact ⟨.discarded ctx, rfl, rfl, rfl, Nat.zero_add _⟩
  | some result =>
      obtain ⟨sealedCtx, output⟩ := result
      have counted := tryFinalize_received made
      simp only
      generalize closing.delivery = delivery
      cases delivery with
      | pushed | dropped | detached =>
          refine ⟨.produced _ _ _, rfl, rfl, rfl, ?_⟩
          simp [WindowEvent.departedPackets, WindowEvent.producedPackets,
            WindowEvent.discardedPackets, counted]

private theorem conserves_of_departure {w next : Windows} {event : WindowEvent}
    (log : next.log = w.log ++ [event]) (verdicts : next.verdicts = w.verdicts)
    (quiet : event.isStored = false)
    (held : w.heldPackets = event.departedPackets + next.heldPackets) : Conserves w next 0 := by
  refine ⟨[event], log, verdicts, ?_, ?_⟩
  · simp [storedCount, quiet]
  · rw [Nat.zero_add, held]
    simp [departedPackets]

private theorem conserves_of_storing {w next : Windows} {parsed : ParsedPacketView}
    {ctx : CpiContext}
    (log : next.log = w.log ++ [.stored parsed ctx]) (verdicts : next.verdicts = w.verdicts)
    (held : next.heldPackets = w.heldPackets + 1) : Conserves w next 1 := by
  refine ⟨[.stored parsed ctx], log, verdicts, rfl, ?_⟩
  rw [held, Nat.add_comm]
  exact (Nat.zero_add _).symm

private theorem closeActive_conserves (w : Windows) (trigger : Nat) (closing : Closing) :
    Conserves w (w.closeActive trigger closing) 0 := by
  cases active : w.active with
  | none =>
      simp only [closeActive, active]
      exact .refl w
  | some ctx =>
      obtain ⟨event, log, verdicts, quiet, departed⟩ := w.close_departs ctx trigger closing
      have previous := w.close_previous ctx trigger closing
      simp only [closeActive, active]
      refine conserves_of_departure log verdicts quiet ?_
      simp only [heldPackets, active, departed, previous, Option.elim]
      omega

private theorem closePrevious_conserves (w : Windows) (trigger : Nat) (closing : Closing) :
    Conserves w (w.closePrevious trigger closing) 0 := by
  cases previous : w.previous with
  | none =>
      simp only [closePrevious, previous]
      exact .refl w
  | some ctx =>
      obtain ⟨event, log, verdicts, quiet, departed⟩ := w.close_departs ctx trigger closing
      have active := w.close_active ctx trigger closing
      simp only [closePrevious, previous]
      refine conserves_of_departure log verdicts quiet ?_
      simp only [heldPackets, previous, departed, active, Option.elim]
      omega

/-- The active window changes in a way that keeps its count. -/
theorem conserves_active {w next : Windows} {ctx other : CpiContext} (active : w.active = some ctx)
    (changed : next.active = some other) (previous : next.previous = w.previous)
    (log : next.log = w.log) (verdicts : next.verdicts = w.verdicts)
    (same : other.header.receivedSlotCount = ctx.header.receivedSlotCount) :
    Conserves w next 0 := by
  refine conserves_of_log log verdicts ?_
  simp only [heldPackets, active, changed, previous, Option.elim, same]

/-- The previous window changes in a way that keeps its count. -/
theorem conserves_previous {w next : Windows} {ctx other : CpiContext}
    (previous : w.previous = some ctx) (changed : next.previous = some other)
    (active : next.active = w.active) (log : next.log = w.log)
    (verdicts : next.verdicts = w.verdicts)
    (same : other.header.receivedSlotCount = ctx.header.receivedSlotCount) :
    Conserves w next 0 := by
  refine conserves_of_log log verdicts ?_
  simp only [heldPackets, previous, changed, active, Option.elim, same]

/-- A first write counts one packet more. -/
theorem stored_received (spec : ProtocolSpec) (ctx : CpiContext) (parsed : ParsedPacketView)
    (packet : InterpretedPacketView) (bytes : ByteView) (index : Nat) :
    (stored spec (ctx.storePacket parsed bytes index) parsed packet).header.receivedSlotCount =
      ctx.header.receivedSlotCount + 1 :=
  (ProgressTracker.advance_sameRecord ..).received

private theorem writeActive_conserves {w : Windows} {ctx : CpiContext}
    (active : w.active = some ctx)
    (parsed : ParsedPacketView) (packet : InterpretedPacketView) (closing : Closing) :
    Conserves w (w.writeActive spec ctx parsed packet closing).1
      (w.writeActive spec ctx parsed packet closing).2.toNat := by
  have outcome := SlotWriter.write_outcome spec ctx parsed
  simp only [writeActive]
  generalize SlotWriter.write spec ctx parsed = result at outcome ⊢
  cases outcome with
  | rejected reason declines => exact .refl w
  | duplicate accepts present => exact conserves_active active rfl rfl rfl rfl rfl
  | stored bytes payload accepts absent =>
      have counted := stored_received spec ctx parsed packet bytes (SlotWriter.index spec parsed)
      generalize stored spec (ctx.storePacket parsed bytes (SlotWriter.index spec parsed)) parsed
        packet = next at counted
      have written : Conserves w
          { w with active := some next, log := w.log ++ [.stored parsed next] } 1 := by
        refine conserves_of_storing rfl rfl ?_
        simp only [heldPackets, active, Option.elim_some, counted]
        omega
      simp only [Bool.false_eq_true, if_false, Bool.true_eq_false]
      split
      · exact written.trans (closeActive_conserves _ _ closing)
      · exact written

private theorem writeLate_conserves (w : Windows) (parsed : ParsedPacketView)
    (packet : InterpretedPacketView) :
    Conserves w (w.writeLate spec parsed packet).1 (w.writeLate spec parsed packet).2.toNat := by
  simp only [writeLate]
  cases late : holding w.previous parsed.cpi with
  | none => exact .refl w
  | some ctx =>
      obtain ⟨previous, -⟩ := holding_eq_some late
      have outcome := SlotWriter.write_outcome spec ctx parsed
      simp only
      generalize SlotWriter.write spec ctx parsed = result at outcome ⊢
      cases outcome with
      | rejected reason declines => exact conserves_previous previous rfl rfl rfl rfl rfl
      | duplicate accepts present => exact conserves_previous previous rfl rfl rfl rfl rfl
      | stored bytes payload accepts absent =>
          have counted := stored_received spec ctx parsed packet bytes
            (SlotWriter.index spec parsed)
          generalize stored spec (ctx.storePacket parsed bytes (SlotWriter.index spec parsed))
            parsed packet = next at counted
          simp only [and_self, if_true]
          refine conserves_of_storing rfl rfl ?_
          simp only [heldPackets, previous, Option.elim_some, counted]
          rfl

private theorem openWindow_conserves {w : Windows} (inactive : w.active = none) (cpiId : UInt16)
    (index : PoolIndex) : Conserves w (w.openWindow spec cpiId index) 0 := by
  have empty : (w.openedCtx spec cpiId index).header.receivedSlotCount = 0 :=
    bindControlSnapshot_received ..
  refine ⟨[.opened _], rfl, rfl, rfl, ?_⟩
  simp only [openWindow, heldPackets, inactive, Option.elim, empty]
  rfl

private theorem openAndWrite_conserves {w : Windows} (inactive : w.active = none)
    (parsed : ParsedPacketView) (packet : InterpretedPacketView) (acquired : Option PoolIndex)
    (closing : Closing) :
    Conserves w (w.openAndWrite spec parsed packet acquired closing).1
      (w.openAndWrite spec parsed packet acquired closing).2.toNat := by
  cases acquired with
  | none => exact .refl w
  | some index =>
      exact (openWindow_conserves inactive packet.cpi index).after
        (writeActive_conserves rfl parsed packet closing)

private theorem admitPacket_conserves {w : Windows} {ctx : CpiContext}
    (active : w.active = some ctx)
    (parsed : ParsedPacketView) (packet : InterpretedPacketView) (choices : Choices) :
    Conserves w (w.admitPacket spec ctx parsed packet choices).1
      (w.admitPacket spec ctx parsed packet choices).2.toNat := by
  simp only [admitPacket]
  cases CpiAdmission.judge parsed ctx.header.cpiId w.closedRing with
  | writeActive => exact writeActive_conserves active parsed packet choices.activeClosing
  | lateToClosed | drop => exact w.writeLate_conserves parsed packet
  | triggerCpiSwitch =>
      have closed := w.closePrevious_conserves triggerCpiSwitch choices.previousClosing
      obtain ⟨-, vacant⟩ := @closePrevious_eq w triggerCpiSwitch choices.previousClosing
      generalize w.closePrevious triggerCpiSwitch choices.previousClosing = next at closed vacant
      have shifted : Conserves next next.shift 0 := by
        refine conserves_of_log rfl rfl ?_
        simp only [shift, heldPackets, vacant, Option.elim]
        exact Nat.add_comm ..
      exact closed.after (shifted.after (openAndWrite_conserves rfl parsed packet _ _))

private theorem processData_conserves (w : Windows) (parsed : ParsedPacketView)
    (packet : InterpretedPacketView) (choices : Choices) :
    Conserves w (w.processData spec parsed packet choices).1
      (w.processData spec parsed packet choices).2.toNat := by
  unfold processData
  cases active : w.active with
  | some ctx => exact admitPacket_conserves active parsed packet choices
  | none =>
      simp only
      split
      · exact .refl w
      · cases choices.acquired with
        | none => exact .refl w
        | some index =>
            exact (openWindow_conserves active packet.cpi index).after
              (admitPacket_conserves rfl parsed packet choices)

private theorem processControl_conserves (w : Windows) (parsed : ParsedPacketView) :
    Conserves w (w.processControl spec parsed) 0 := by
  have merged (ctx : CpiContext) (candidate : ControlSnapshot) :
      (mergeControlSnapshot ctx candidate).header.receivedSlotCount =
        ctx.header.receivedSlotCount := by
    have merging := mergeControlSnapshot_merged ctx candidate
    generalize mergeControlSnapshot ctx candidate = next at merging ⊢
    cases merging with
    | kept | conflicted => rfl
    | converged | replaced | rebound => exact bindControlSnapshot_received ..
  unfold processControl
  split
  · exact .refl w
  simp only
  cases isActive : holding w.active (makeControlSnapshot parsed spec).cpiId with
  | some ctx =>
      obtain ⟨active, -⟩ := holding_eq_some isActive
      refine conserves_of_departure rfl rfl rfl ?_
      simp only [rebindActive, heldPackets, active, Option.elim_some, merged]
      exact (Nat.zero_add _).symm
  | none =>
      cases isPrevious : holding w.previous (makeControlSnapshot parsed spec).cpiId with
      | none => exact conserves_of_log rfl rfl rfl
      | some ctx =>
          obtain ⟨previous, -⟩ := holding_eq_some isPrevious
          refine conserves_of_departure rfl rfl rfl ?_
          simp only [rebindPrevious, heldPackets, previous, Option.elim_some, merged]
          exact (Nat.zero_add _).symm

/-- A context that is marked and then finalized. -/
theorem markActive_conserves {w : Windows} {ctx : CpiContext} (active : w.active = some ctx)
    (marks trigger : Nat) (closing : Closing) :
    Conserves w
      ({ w with active := some (System.markTrigger ctx marks) }.closeActive trigger closing) 0 := by
  have marked : Conserves w { w with active := some (System.markTrigger ctx marks) } 0 :=
    conserves_active active rfl rfl rfl rfl rfl
  exact marked.after (closeActive_conserves _ trigger closing)

private theorem checkPreviousTimeout_conserves (w : Windows) (nowNs : Nat) (closing : Closing) :
    Conserves w (w.checkPreviousTimeout nowNs closing) 0 := by
  unfold checkPreviousTimeout
  cases previous : w.previous with
  | none => exact .refl w
  | some ctx =>
      simp only
      split
      · have marked : Conserves w
            { w with previous := some (System.markTrigger ctx triggerTimeout) } 0 :=
          conserves_previous previous rfl rfl rfl rfl rfl
        exact marked.after (closePrevious_conserves _ triggerTimeout closing)
      · exact .refl w

private theorem checkActiveTimeout_conserves (w : Windows) (nowNs : Nat) (closing : Closing) :
    Conserves w (w.checkActiveTimeout nowNs closing) 0 := by
  unfold checkActiveTimeout
  cases active : w.active with
  | none => exact .refl w
  | some ctx =>
      simp only
      split
      · exact markActive_conserves active _ _ closing
      · exact .refl w

private theorem shutdown_conserves (w : Windows) (choices : Choices) :
    Conserves w (w.shutdown choices) 0 := by
  have closed := w.closePrevious_conserves triggerStop choices.previousClosing
  unfold shutdown
  generalize w.closePrevious triggerStop choices.previousClosing = next at closed
  cases active : next.active with
  | none =>
      simp only [active]
      exact closed
  | some ctx =>
      simp only [active]
      exact closed.after (markActive_conserves active _ _ _)

/-- No window is left after a shutdown. -/
theorem shutdown_heldPackets (w : Windows) (choices : Choices) :
    (w.shutdown choices).heldPackets = 0 := by
  obtain ⟨-, vacant⟩ := @closePrevious_eq w triggerStop choices.previousClosing
  unfold shutdown
  generalize w.closePrevious triggerStop choices.previousClosing = next at vacant
  cases active : next.active with
  | none =>
      simp only [active]
      exact heldPackets_eq_zero active vacant
  | some ctx =>
      obtain ⟨inactive, previous⟩ := @closeActive_eq
        { next with active := some (System.markTrigger ctx triggerStop) } triggerStop
        choices.activeClosing
      simp only [active]
      exact heldPackets_eq_zero inactive (previous.trans vacant)

/-! ## Runs -/

/-- Every accepted packet was stored, and every stored packet is in a window or left. -/
structure Conserved (w : Windows) : Prop where
  judged : w.verdicts.count true = storedCount w.log
  balanced : storedCount w.log = departedPackets w.log + w.heldPackets

theorem Conserves.conserved {w next : Windows} {count : Nat} (conserves : Conserves w next count)
    (conserved : w.Conserved) :
    next.verdicts.count true + count = storedCount next.log ∧
      storedCount next.log = departedPackets next.log + next.heldPackets := by
  obtain ⟨events, log, verdicts, stored, balance⟩ := conserves
  obtain ⟨judged, balanced⟩ := conserved
  rw [log, verdicts, storedCount_append, departedPackets_append, stored, judged]
  exact ⟨rfl, by omega⟩

theorem Conserved.quiet {w next : Windows} (conserved : w.Conserved)
    (conserves : Conserves w next 0) : next.Conserved := by
  obtain ⟨judged, balanced⟩ := conserves.conserved conserved
  exact ⟨judged, balanced⟩

/-- The verdict of a packet is that it was stored. -/
theorem Conserved.judge {w : Windows} {result : Windows × Bool} (conserved : w.Conserved)
    (conserves : Conserves w result.1 result.2.toNat) :
    Conserved { result.1 with verdicts := result.1.verdicts ++ [result.2] } := by
  obtain ⟨judged, balanced⟩ := conserves.conserved conserved
  refine ⟨?_, balanced⟩
  rw [List.count_append, ← judged]
  cases result.2 <;> rfl

/-- Only a data packet is stored. -/
theorem step_conserves {op : Op} (other : ∀ parsed packet, op ≠ .data parsed packet) (w : Windows)
    (choices : Choices) : Conserves w (w.step spec op choices) 0 := by
  cases op with
  | data parsed packet => exact absurd rfl (other parsed packet)
  | control parsed => exact w.processControl_conserves parsed
  | timeout nowNs =>
      have previous := w.checkPreviousTimeout_conserves nowNs choices.previousClosing
      exact previous.after (checkActiveTimeout_conserves _ nowNs _)
  | drainRecycle | consumer => exact .refl w
  | shutdown => exact w.shutdown_conserves choices

theorem Conserved.step {w : Windows} (conserved : w.Conserved) (op : Op) (choices : Choices) :
    (w.step spec op choices).Conserved := by
  cases op with
  | data parsed packet => exact conserved.judge (w.processData_conserves parsed packet choices)
  | control | timeout | drainRecycle | consumer | shutdown =>
      exact conserved.quiet (step_conserves (by simp) w choices)

end Windows

namespace System

/-- Every slot is in one place, and every accepted packet too. -/
structure Accounted (s : System) : Prop where
  owned : s.Owned
  conserved : s.windows.Conserved

theorem Accounted.step {s : System} (accounted : s.Accounted) (spec : ProtocolSpec) (op : Op) :
    (s.step spec op).Accounted := by
  obtain ⟨choices, failures, refines, -⟩ := step_refines spec op accounted.owned
  refine ⟨refines.owned, ?_⟩
  rw [refines.windows]
  exact accounted.conserved.step op choices

theorem Accounted.run {s : System} (accounted : s.Accounted) (spec : ProtocolSpec)
    (ops : List Op) : (Machine.run (System.step spec) ops s).Accounted :=
  Machine.run_invariant_of_step (fun _ op accounted => accounted.step spec op) ops accounted

end System

/-- In every run the packets that were accepted are those in the outputs, pushed, dropped or
without rings, those of the contexts that a timeout or a stop discarded, and those in the two
windows; each is counted once. -/
theorem accepted_packets_conserved (spec : ProtocolSpec) (rings : Option (Nat × Nat))
    (consumerSchedule clock : List Nat) (ops : List Op) :
    let s := Machine.run (System.step spec) ops (System.withRings rings consumerSchedule clock)
    s.verdicts.count true =
      producedPackets .pushed s.windowLog + producedPackets .dropped s.windowLog +
        producedPackets .detached s.windowLog + discardedPackets s.windowLog +
        s.windows.heldPackets := by
  intro s
  have start : (System.withRings rings consumerSchedule clock).Accounted :=
    ⟨System.withRings_owned rings consumerSchedule clock, rfl, rfl⟩
  have run : s.Accounted := start.run spec ops
  obtain ⟨judged, balanced⟩ := run.conserved
  have log : s.windows.log = s.windowLog := rfl
  rw [log] at judged balanced
  rw [← departedPackets_eq, ← balanced]
  exact judged

/-! ## The index stream -/

/-- The rows of data packets. -/
def CaptureArtifacts.dataRows (artifacts : CaptureArtifacts) : Nat :=
  artifacts.indexStream.countP fun row => row.packetKind = .dataPacket

theorem CaptureArtifacts.capture_dataRows (artifacts : CaptureArtifacts)
    (processed : ProcessedPacket) :
    (artifacts.capture processed).dataRows =
      artifacts.dataRows + if processed.interpreted.kind = .dataPacket then 1 else 0 := by
  simp [dataRows, capture, ProcessedPacket.indexRow, List.countP_append, List.countP_singleton]

namespace OwnerLoop

variable {spec : ProtocolSpec} {loop : OwnerLoop}

/-- The index stream has one row for each stored packet. -/
structure Accounts (loop : OwnerLoop) : Prop where
  accounted : loop.system.Accounted
  rows : loop.artifacts.dataRows = storedCount loop.system.windowLog

theorem Accounts.step (accounts : loop.Accounts) (spec : ProtocolSpec) (op : Op)
    (other : ∀ parsed packet, op ≠ .data parsed packet) :
    Accounts { loop with system := loop.system.step spec op } := by
  refine ⟨accounts.accounted.step spec op, ?_⟩
  obtain ⟨choices, failures, refines, -⟩ := System.step_refines spec op accounts.accounted.owned
  obtain ⟨events, log, -, stored, -⟩ := @Windows.step_conserves spec op other
    loop.system.windows choices
  have same : (loop.system.step spec op).windowLog = loop.system.windowLog ++ events :=
    (congrArg Windows.log refines.windows).trans log
  rw [same, storedCount_append, stored]
  exact accounts.rows

theorem Accounts.onDataPacket (accounts : loop.Accounts) (spec : ProtocolSpec)
    {processed : ProcessedPacket} (kind : processed.interpreted.kind = .dataPacket) :
    (loop.onPacket spec processed).Accounts := by
  have accounted := accounts.accounted.step spec (.data processed.parsed processed.interpreted)
  obtain ⟨choices, failures, refines, -⟩ := System.processDataPacket_refines spec
    accounts.accounted.owned processed.parsed processed.interpreted
  obtain ⟨events, log, -, stored, -⟩ := @Windows.processData_conserves spec loop.system.windows
    processed.parsed processed.interpreted choices
  have grown : (loop.onDataPacket spec processed).1.system.windowLog =
      loop.system.windowLog ++ events := (congrArg Windows.log refines.windows).trans log
  have verdict : (loop.onDataPacket spec processed).2 =
      (loop.system.windows.processData spec processed.parsed processed.interpreted choices).2 :=
    refines.verdict
  have counted : storedCount (loop.onDataPacket spec processed).1.system.windowLog =
      loop.artifacts.dataRows + (loop.onDataPacket spec processed).2.toNat := by
    rw [grown, storedCount_append, stored, verdict, accounts.rows]
  have artifacts : (loop.onDataPacket spec processed).1.artifacts = loop.artifacts := rfl
  simp only [onPacket, kind]
  cases accepted : (loop.onDataPacket spec processed).2 with
  | false =>
      rw [accepted] at counted
      exact ⟨accounted, counted.symm⟩
  | true =>
      rw [accepted] at counted
      refine ⟨accounted, ?_⟩
      apply Eq.trans _ counted.symm
      apply (CaptureArtifacts.capture_dataRows _ processed).trans
      rw [artifacts, if_pos kind]
      rfl

theorem Accounts.capture (accounts : loop.Accounts) (processed : ProcessedPacket)
    (kind : processed.interpreted.kind ≠ .dataPacket) : (loop.capture processed).Accounts := by
  refine ⟨accounts.accounted, ?_⟩
  apply (CaptureArtifacts.capture_dataRows _ processed).trans
  rw [if_neg kind]
  exact accounts.rows

private theorem accounts_maintained (pipeline : UdpDatagramPipeline) :
    Maintained pipeline Accounts where
  packet loop processed passed accounts := by
    cases kind : processed.interpreted.kind with
    | dataPacket => exact accounts.onDataPacket pipeline.spec kind
    | unknown =>
        simp only [onPacket, kind]
        exact accounts.capture processed (by simp [kind])
    | controlTable =>
        have stepped := accounts.step pipeline.spec (.control processed.parsed) (by simp)
        have captured := stepped.capture processed (by simp [kind])
        simp only [onPacket, kind]
        exact captured
  drained _ accounts := accounts.step pipeline.spec .drainRecycle (by simp)
  checked _ nowNs accounts := accounts.step pipeline.spec (.timeout nowNs) (by simp)
  status _ _ _ _ _ backpressure accounts :=
    ⟨⟨accounts.accounted.owned.congr rfl rfl rfl rfl rfl rfl backpressure,
      accounts.accounted.conserved⟩, accounts.rows⟩

private theorem start_accounts (config : RxConfig) (consumerSchedule clock : List Nat) :
    (start config consumerSchedule clock).Accounts :=
  ⟨⟨System.ofConfig_owned config consumerSchedule clock, rfl, rfl⟩, rfl⟩

/-- What leaves the windows and the artifacts as they are. -/
theorem Accounts.congr (accounts : loop.Accounts) {next : System} (owned : next.Owned)
    (windows : next.windows = loop.system.windows) : Accounts { loop with system := next } where
  accounted := ⟨owned, windows ▸ accounts.accounted.conserved⟩
  rows := accounts.rows.trans (congrArg (fun w : Windows => storedCount w.log) windows.symm)

/-- After the shutdown no window is left. -/
theorem Accounts.shutdown (accounts : loop.Accounts) (pipeline : UdpDatagramPipeline) :
    loop.shutdown.Accounts ∧ loop.shutdown.system.windows.heldPackets = 0 := by
  obtain ⟨previousClosing, activeClosing, refines⟩ :=
    System.finalizeActiveForShutdown_refines accounts.accounted.owned
  have finalized := accounts.step pipeline.spec .shutdown (by simp)
  have degraded := (accounts_maintained pipeline).degradeRunStatus finalized
  have vacant : loop.system.finalizeActiveForShutdown.windows.heldPackets = 0 := by
    rw [(refines none none).windows]
    exact Windows.shutdown_heldPackets ..
  have same : loop.system.finalizeActiveForShutdown.degradeRunStatus.windows =
      loop.system.finalizeActiveForShutdown.windows := by
    simp only [System.degradeRunStatus, System.applyOutputDegradation]
    split_ifs <;> rfl
  have owned : loop.system.finalizeActiveForShutdown.degradeRunStatus.Owned :=
    degraded.accounted.owned
  obtain ⟨joined, interfered⟩ := (System.interfere_settles owned.linked).advances owned
  obtain ⟨drained, last⟩ := (System.drainRecycle_settles joined.owned.linked).advances joined.owned
  have windows : loop.shutdown.system.windows = loop.system.finalizeActiveForShutdown.windows :=
    last.trans (interfered.trans same)
  exact ⟨finalized.congr drained.owned windows, windows ▸ vacant⟩

end OwnerLoop

private theorem producedPackets_pushed (log : List WindowEvent) :
    producedPackets .pushed log = ((pushedOutputs log).map CpiOutput.receivedSlotCount).sum := by
  induction log with
  | nil => rfl
  | cons event log ih =>
      have first : WindowEvent.producedPackets .pushed event =
          (event.pushedOutput.toList.map CpiOutput.receivedSlotCount).sum := by
        cases event with
        | produced output ctx delivery => cases delivery <;> rfl
        | opened | stored | rebound | discarded => rfl
      have split : pushedOutputs (event :: log) =
          event.pushedOutput.toList ++ pushedOutputs log := by
        rw [pushedOutputs, List.filterMap_cons]
        cases event.pushedOutput <;> rfl
      rw [split, List.map_append, List.sum_append, ← first, ← ih]
      rfl

private theorem producedPackets_none {delivery : Delivery} {log : List WindowEvent}
    (none : deliveries delivery log = 0) : producedPackets delivery log = 0 := by
  refine List.sum_eq_zero fun packets member => ?_
  obtain ⟨event, logged, rfl⟩ := List.mem_map.mp member
  have other := List.countP_eq_zero.mp none event logged
  cases event with
  | opened | stored | rebound | discarded => rfl
  | produced output ctx delivered =>
      refine if_neg fun same => other ?_
      simp [WindowEvent.delivery, same]

/-- At the end of every run of the owner loop, with any errors on the way, each data packet of
the capture is counted by exactly one output that was pushed, one that was dropped for
backpressure, or one context that a timeout or the shutdown discarded; no window holds one. -/
theorem captured_data_packets_conserved (config : RxConfig)
    (allowedSourceIpv4Be receiverIpv4Be : Nat) (consumerSchedule clock : List Nat)
    (received : List Received) :
    let loop := OwnerLoop.run config allowedSourceIpv4Be receiverIpv4Be consumerSchedule clock
      received
    loop.artifacts.dataRows =
      ((pushedOutputs loop.system.windowLog).map CpiOutput.receivedSlotCount).sum +
        producedPackets .dropped loop.system.windowLog +
        discardedPackets loop.system.windowLog ∧
      loop.system.windows.heldPackets = 0 := by
  intro loop
  let pipeline := UdpDatagramPipeline.ofConfig config allowedSourceIpv4Be receiverIpv4Be
  have main := (OwnerLoop.accounts_maintained pipeline).mainLoop received
    (OwnerLoop.start_accounts config consumerSchedule clock)
  obtain ⟨accounts, vacant⟩ : loop.Accounts ∧ loop.system.windows.heldPackets = 0 :=
    main.shutdown pipeline
  obtain ⟨inOrder, -⟩ := OwnerLoop.run_determines config allowedSourceIpv4Be receiverIpv4Be
    consumerSchedule clock received
  have balanced : storedCount loop.system.windowLog = departedPackets loop.system.windowLog + _ :=
    accounts.accounted.conserved.balanced
  rw [vacant, Nat.add_zero, departedPackets_eq, producedPackets_pushed,
    producedPackets_none inOrder.conveying.undetached, Nat.add_zero] at balanced
  exact ⟨accounts.rows.trans balanced, vacant⟩

end RxTech
