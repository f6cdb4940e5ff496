import RxTech.Core.WindowMoves
import RxTech.Core.StepRefinement
import RxTech.Cpi.Relabel

/-!
# What the consumer cannot change

The windows with everything erased that depends on the consumer: which slot a
context has, when it was sealed, and what became of the outputs. As long as the
pool is not exhausted, the rest is a function of the packets.
-/

set_option autoImplicit false

namespace RxTech

def CpiContext.anonymous (ctx : CpiContext) : CpiContext :=
  { ctx with header.poolIndex := none, header.sealTsc := 0 }

def CpiOutput.anonymous (output : CpiOutput) : CpiOutput :=
  { output with poolIndex := none, sealTsc := 0, outputId := 0 }

def RecentClosedEntry.anonymous (entry : RecentClosedEntry) : RecentClosedEntry :=
  { entry with sealTsc := 0 }

def WindowEvent.anonymous : WindowEvent → WindowEvent
  | .opened ctx => .opened ctx.anonymous
  | .stored packet ctx => .stored packet ctx.anonymous
  | .rebound ctx => .rebound ctx.anonymous
  | .produced output ctx _ => .produced output.anonymous ctx.anonymous .pushed
  | .discarded ctx => .discarded ctx.anonymous

@[simp] theorem CpiContext.anonymous_comp :
    CpiContext.anonymous ∘ CpiContext.anonymous = CpiContext.anonymous := rfl

@[simp] theorem RecentClosedEntry.anonymous_comp :
    RecentClosedEntry.anonymous ∘ RecentClosedEntry.anonymous = RecentClosedEntry.anonymous := rfl

@[simp] theorem WindowEvent.anonymous_comp :
    WindowEvent.anonymous ∘ WindowEvent.anonymous = WindowEvent.anonymous := by
  funext event
  cases event <;> rfl

namespace CpiContext

private theorem write_anonymous (spec : ProtocolSpec) (ctx : CpiContext)
    (packet : ParsedPacketView) :
    SlotWriter.write spec ctx.anonymous packet =
      ((SlotWriter.write spec ctx packet).1.anonymous, (SlotWriter.write spec ctx packet).2) :=
  write_relabel (fun _ => none) spec ctx packet

private theorem stored_anonymous (spec : ProtocolSpec) (written : CpiContext)
    (parsed : ParsedPacketView)
    (packet : InterpretedPacketView) :
    Windows.stored spec written.anonymous parsed packet =
      (Windows.stored spec written parsed packet).anonymous :=
  advance_relabel (fun _ => none) ..

private theorem bindControlSnapshot_anonymous (ctx : CpiContext) (control : ControlSnapshot) :
    bindControlSnapshot ctx.anonymous control = (bindControlSnapshot ctx control).anonymous :=
  bindControlSnapshot_relabel (fun _ => none) ctx control

private theorem mergeControlSnapshot_anonymous (ctx : CpiContext) (candidate : ControlSnapshot) :
    mergeControlSnapshot ctx.anonymous candidate =
      (mergeControlSnapshot ctx candidate).anonymous :=
  mergeControlSnapshot_relabel (fun _ => none) ctx candidate

end CpiContext

/-- An answer for every question. -/
def Choices.canonical : Choices := ⟨some 0, some 0, ⟨0, .pushed⟩, ⟨0, .pushed⟩⟩

namespace Windows

def anonymous (w : Windows) : Windows where
  active := w.active.map CpiContext.anonymous
  previous := w.previous.map CpiContext.anonymous
  closedRing := w.closedRing.map RecentClosedEntry.anonymous
  currentControl := w.currentControl
  openings := w.openings
  verdicts := w.verdicts
  log := w.log.map WindowEvent.anonymous

private theorem pushClosed_anonymous (ring : RecentClosedRing) (cpiId : UInt16)
    (sealTsc other : Nat)
    (decision : CpiDecision) :
    (ring.pushClosed cpiId sealTsc decision).map RecentClosedEntry.anonymous =
      (RecentClosedRing.pushClosed (ring.map RecentClosedEntry.anonymous) cpiId other
        decision).map RecentClosedEntry.anonymous := by
  simp only [RecentClosedRing.pushClosed, RecentRing.push_map]
  rfl

private theorem holding_anonymous (window : Option CpiContext) (cpiId : UInt16) :
    holding (window.map CpiContext.anonymous) cpiId =
      (holding window cpiId).map CpiContext.anonymous := by
  simp only [holding, Option.filter_map]
  rfl

theorem anonymous_anonymous (w : Windows) : w.anonymous.anonymous = w.anonymous := by
  simp [anonymous, RecentRing.map_map]

private theorem anonymous_extend (w : Windows) (closedRing : RecentClosedRing) (nextOutputId : Nat)
    (events : List WindowEvent) :
    { w with closedRing, nextOutputId, log := w.log ++ events }.anonymous =
      { w.anonymous with
        closedRing := closedRing.map RecentClosedEntry.anonymous
        log := w.anonymous.log ++ events.map WindowEvent.anonymous } := by
  simp [anonymous]

private theorem produce_anonymous (w : Windows) (ctx : CpiContext) (trigger : Nat)
    (decision : CpiDecision) (closing other : Closing) :
    ({ w with
        closedRing := w.closedRing.pushClosed ctx.header.cpiId closing.sealTsc decision }.record
        (ctx.seal trigger closing.sealTsc decision).makeOutput
        (ctx.seal trigger closing.sealTsc decision) closing.delivery).anonymous =
      ({ w.anonymous with
        closedRing :=
          w.anonymous.closedRing.pushClosed ctx.header.cpiId other.sealTsc decision }.record
        (ctx.anonymous.seal trigger other.sealTsc decision).makeOutput
        (ctx.anonymous.seal trigger other.sealTsc decision) other.delivery).anonymous := by
  have erased (w : Windows) (closedRing : RecentClosedRing) (output : CpiOutput)
      (ctx : CpiContext) (delivery : Delivery) :
      ({ w with closedRing }.record output ctx delivery).anonymous =
        { w.anonymous with
          closedRing := closedRing.map RecentClosedEntry.anonymous
          log := w.anonymous.log ++
            [WindowEvent.produced output.anonymous ctx.anonymous .pushed] } := by
    cases delivery <;> exact anonymous_extend ..
  rw [erased, erased, anonymous_anonymous, pushClosed_anonymous _ _ _ other.sealTsc]
  rfl

private theorem close_anonymous (w : Windows) (ctx : CpiContext) (trigger : Nat)
    (closing other : Closing) :
    (w.close ctx trigger closing).anonymous =
      (w.anonymous.close ctx.anonymous trigger other).anonymous := by
  simp only [close, CpiFinalizer.tryFinalize,
    show ctx.anonymous.header.state = ctx.header.state from rfl,
    show ctx.anonymous.header.readyPrtCount = ctx.header.readyPrtCount from rfl]
  have discard : { w with log := w.log ++ [WindowEvent.discarded ctx] }.anonymous =
      { w.anonymous with
        log := w.anonymous.log ++ [WindowEvent.discarded ctx.anonymous] }.anonymous := by
    rw [anonymous_extend, anonymous_extend, anonymous_anonymous]
    rfl
  by_cases running : ctx.header.state = .active ∨ ctx.header.state = .deciding
  · simp only [running, if_true]
    cases CpiFinalizer.decide? ctx.header.readyPrtCount trigger with
    | none => exact discard
    | some decision => exact w.produce_anonymous ctx trigger decision closing other
  · simp only [running, if_false]
    exact discard

private theorem closeActive_anonymous (w : Windows) (trigger : Nat) (closing other : Closing) :
    (w.closeActive trigger closing).anonymous =
      (w.anonymous.closeActive trigger other).anonymous := by
  cases active : w.active with
  | none =>
      simp only [closeActive, active, show w.anonymous.active = none by simp [anonymous, active]]
      exact w.anonymous_anonymous.symm
  | some ctx =>
      simp only [closeActive, active,
        show w.anonymous.active = some ctx.anonymous by simp [anonymous, active]]
      exact congrArg (fun closed => { closed with active := none })
        (w.close_anonymous ctx trigger closing other)

private theorem closePrevious_anonymous (w : Windows) (trigger : Nat) (closing other : Closing) :
    (w.closePrevious trigger closing).anonymous =
      (w.anonymous.closePrevious trigger other).anonymous := by
  cases previous : w.previous with
  | none =>
      simp only [closePrevious, previous,
        show w.anonymous.previous = none by simp [anonymous, previous]]
      exact w.anonymous_anonymous.symm
  | some ctx =>
      simp only [closePrevious, previous,
        show w.anonymous.previous = some ctx.anonymous by simp [anonymous, previous]]
      exact congrArg (fun closed => { closed with previous := none })
        (w.close_anonymous ctx trigger closing other)

/-- Erasing a result. -/
def anonymousResult (result : Windows × Bool) : Windows × Bool := (result.1.anonymous, result.2)

private theorem store_anonymous (w : Windows) (parsed : ParsedPacketView) (ctx : CpiContext) :
    { w with
        active := some ctx
        log := w.log ++ [WindowEvent.stored parsed ctx] }.anonymous =
      { w.anonymous with
        active := some ctx.anonymous
        log := w.anonymous.log ++ [WindowEvent.stored parsed ctx.anonymous] } := by
  simp [anonymous, WindowEvent.anonymous]

private theorem writeActive_anonymous (spec : ProtocolSpec) (w : Windows) (ctx : CpiContext)
    (parsed : ParsedPacketView) (packet : InterpretedPacketView) (closing other : Closing) :
    anonymousResult (w.writeActive spec ctx parsed packet closing) =
      anonymousResult (w.anonymous.writeActive spec ctx.anonymous parsed packet other) := by
  simp only [writeActive, CpiContext.write_anonymous, CpiContext.stored_anonymous]
  split
  · simp [anonymousResult, anonymous, RecentRing.map_map]
    rfl
  split
  · simp only [anonymousResult, anonymous_anonymous]
  rw [show (stored spec (SlotWriter.write spec ctx parsed).1 parsed packet).anonymous.header.triggerBits
    = (stored spec (SlotWriter.write spec ctx parsed).1 parsed packet).header.triggerBits from rfl]
  rw [← store_anonymous]
  split
  · simp only [anonymousResult]
    rw [closeActive_anonymous _ _ _ other]
  · simp only [anonymousResult, anonymous_anonymous]

private theorem writeLate_anonymous (spec : ProtocolSpec) (w : Windows) (parsed : ParsedPacketView)
    (packet : InterpretedPacketView) :
    anonymousResult (w.writeLate spec parsed packet) =
      anonymousResult (w.anonymous.writeLate spec parsed packet) := by
  simp only [writeLate, show w.anonymous.previous = w.previous.map CpiContext.anonymous from rfl,
    holding_anonymous]
  cases holding w.previous parsed.cpi with
  | none => simp only [Option.map_none, anonymousResult, anonymous_anonymous]
  | some ctx =>
      simp only [Option.map_some, CpiContext.write_anonymous, CpiContext.stored_anonymous]
      split
      · simp [anonymousResult, anonymous, RecentRing.map_map, WindowEvent.anonymous]
        rfl
      · simp [anonymousResult, anonymous, RecentRing.map_map]
        rfl

private theorem shift_anonymous (w : Windows) : w.shift.anonymous = w.anonymous.shift := rfl

private theorem openedCtx_anonymous (spec : ProtocolSpec) (w : Windows) (cpiId : UInt16)
    (index other : PoolIndex) :
    (w.anonymous.openedCtx spec cpiId other).anonymous =
      (w.openedCtx spec cpiId index).anonymous := by
  simp only [openedCtx, ← CpiContext.bindControlSnapshot_anonymous]
  rfl

private theorem openWindow_anonymous (spec : ProtocolSpec) (w : Windows) (cpiId : UInt16)
    (index other : PoolIndex) :
    (w.openWindow spec cpiId index).anonymous =
      (w.anonymous.openWindow spec cpiId other).anonymous := by
  have opened := w.openedCtx_anonymous spec cpiId index other
  simp only [anonymous, openWindow, openedCtx] at opened ⊢
  simp [opened, RecentRing.map_map, WindowEvent.anonymous]

private theorem openAndWrite_anonymous (spec : ProtocolSpec) (w : Windows)
    (parsed : ParsedPacketView)
    (packet : InterpretedPacketView) (index other : PoolIndex) (closing closing' : Closing) :
    anonymousResult (w.openAndWrite spec parsed packet (some index) closing) =
      anonymousResult (w.anonymous.openAndWrite spec parsed packet (some other) closing') := by
  simp only [openAndWrite]
  rw [writeActive_anonymous _ _ _ _ _ _ closing', w.openWindow_anonymous spec _ index other,
    ← w.openedCtx_anonymous spec _ index other, ← writeActive_anonymous]

private theorem admitPacket_anonymous (spec : ProtocolSpec) (w : Windows) (ctx : CpiContext)
    (parsed : ParsedPacketView) (packet : InterpretedPacketView) {choices others : Choices}
    (acquired : choices.switchAcquired.isSome = true)
    (acquires : others.switchAcquired.isSome = true) :
    anonymousResult (w.admitPacket spec ctx parsed packet choices) =
      anonymousResult (w.anonymous.admitPacket spec ctx.anonymous parsed packet others) := by
  simp only [admitPacket, show CpiAdmission.judge parsed ctx.anonymous.header.cpiId
    w.anonymous.closedRing = CpiAdmission.judge parsed ctx.header.cpiId w.closedRing from rfl]
  cases CpiAdmission.judge parsed ctx.header.cpiId w.closedRing with
  | writeActive => exact w.writeActive_anonymous spec ctx parsed packet _ _
  | triggerCpiSwitch =>
      obtain ⟨index, first⟩ := Option.isSome_iff_exists.mp acquired
      obtain ⟨other, second⟩ := Option.isSome_iff_exists.mp acquires
      simp only [first, second]
      rw [openAndWrite_anonymous _ _ _ _ index other _ others.activeClosing, shift_anonymous,
        closePrevious_anonymous _ _ _ others.previousClosing, ← shift_anonymous,
        ← openAndWrite_anonymous]
  | lateToClosed | drop => exact w.writeLate_anonymous spec parsed packet

theorem processData_anonymous (spec : ProtocolSpec) (w : Windows) (parsed : ParsedPacketView)
    (packet : InterpretedPacketView) {choices others : Choices}
    (acquired : choices.acquired.isSome = true ∧ choices.switchAcquired.isSome = true)
    (acquires : others.acquired.isSome = true ∧ others.switchAcquired.isSome = true) :
    anonymousResult (w.processData spec parsed packet choices) =
      anonymousResult (w.anonymous.processData spec parsed packet others) := by
  cases active : w.active with
  | some ctx =>
      simp only [processData, active,
        show w.anonymous.active = some ctx.anonymous by simp [anonymous, active]]
      exact w.admitPacket_anonymous spec ctx parsed packet acquired.2 acquires.2
  | none =>
      obtain ⟨index, first⟩ := Option.isSome_iff_exists.mp acquired.1
      obtain ⟨other, second⟩ := Option.isSome_iff_exists.mp acquires.1
      simp only [processData, active, first, second,
        show w.anonymous.active = none by simp [anonymous, active],
        show w.anonymous.closedRing.contains parsed.cpi = w.closedRing.contains parsed.cpi from rfl]
      split
      · simp only [anonymousResult, anonymous_anonymous]
      · rw [admitPacket_anonymous _ _ _ _ _ acquired.2 acquires.2,
          w.openWindow_anonymous spec _ index other,
          ← w.openedCtx_anonymous spec _ index other,
          ← admitPacket_anonymous _ _ _ _ _ acquires.2 acquires.2]

theorem processControl_anonymous (spec : ProtocolSpec) (w : Windows) (parsed : ParsedPacketView) :
    (w.processControl spec parsed).anonymous =
      (w.anonymous.processControl spec parsed).anonymous := by
  simp only [processControl, show w.anonymous.active = w.active.map CpiContext.anonymous from rfl,
    show w.anonymous.previous = w.previous.map CpiContext.anonymous from rfl, holding_anonymous]
  split
  · exact w.anonymous_anonymous.symm
  cases holding w.active (makeControlSnapshot parsed spec).cpiId with
  | some ctx =>
      simp only [Option.map_some, rebindActive, CpiContext.mergeControlSnapshot_anonymous]
      simp [anonymous, RecentRing.map_map, WindowEvent.anonymous]
      exact ⟨rfl, rfl, rfl⟩
  | none =>
      cases holding w.previous (makeControlSnapshot parsed spec).cpiId with
      | some ctx =>
          simp only [Option.map_some, Option.map_none, rebindPrevious,
            CpiContext.mergeControlSnapshot_anonymous]
          simp [anonymous, RecentRing.map_map, WindowEvent.anonymous]
          rfl
      | none => simp [anonymous, RecentRing.map_map]

private theorem checkPreviousTimeout_anonymous (w : Windows) (nowNs : Nat)
    (closing other : Closing) :
    (w.checkPreviousTimeout nowNs closing).anonymous =
      (w.anonymous.checkPreviousTimeout nowNs other).anonymous := by
  cases previous : w.previous with
  | none =>
      simp only [checkPreviousTimeout, previous,
        show w.anonymous.previous = none by simp [anonymous, previous]]
      exact w.anonymous_anonymous.symm
  | some ctx =>
      simp only [checkPreviousTimeout, previous,
        show w.anonymous.previous = some ctx.anonymous by simp [anonymous, previous],
        show System.timedOut ctx.anonymous nowNs = System.timedOut ctx nowNs from rfl]
      split
      · exact closePrevious_anonymous { w with previous := some _ } _ _ _
      · exact w.anonymous_anonymous.symm

private theorem checkActiveTimeout_anonymous (w : Windows) (nowNs : Nat) (closing other : Closing) :
    (w.checkActiveTimeout nowNs closing).anonymous =
      (w.anonymous.checkActiveTimeout nowNs other).anonymous := by
  cases active : w.active with
  | none =>
      simp only [checkActiveTimeout, active,
        show w.anonymous.active = none by simp [anonymous, active]]
      exact w.anonymous_anonymous.symm
  | some ctx =>
      simp only [checkActiveTimeout, active,
        show w.anonymous.active = some ctx.anonymous by simp [anonymous, active],
        show System.timedOut ctx.anonymous nowNs = System.timedOut ctx nowNs from rfl]
      split
      · exact closeActive_anonymous { w with active := some _ } _ _ _
      · exact w.anonymous_anonymous.symm

theorem shutdown_anonymous (w : Windows) (choices others : Choices) :
    (w.shutdown choices).anonymous = (w.anonymous.shutdown others).anonymous := by
  have closed := w.closePrevious_anonymous triggerStop choices.previousClosing
    others.previousClosing
  simp only [shutdown]
  generalize w.closePrevious triggerStop choices.previousClosing = first at closed ⊢
  generalize w.anonymous.closePrevious triggerStop others.previousClosing = second at closed ⊢
  have window : first.active.map CpiContext.anonymous = second.active.map CpiContext.anonymous :=
    congrArg Windows.active closed
  cases here : first.active with
  | none =>
      cases there : second.active with
      | none => exact closed
      | some ctx => simp [here, there] at window
  | some ctx =>
      cases there : second.active with
      | none => simp [here, there] at window
      | some other =>
          have same : ctx.anonymous = other.anonymous := by simpa [here, there] using window
          have marked : { first with active := some (System.markTrigger ctx triggerStop) }.anonymous
              = { second with active := some (System.markTrigger other triggerStop) }.anonymous :=
            congrArg₂ (fun (w : Windows) ctx =>
              { w with active := some (System.markTrigger ctx triggerStop) }) closed same
          simp only
          rw [closeActive_anonymous _ _ _ others.activeClosing, marked, ← closeActive_anonymous]

/-- A step on which the pool was not exhausted is determined by the operation,
apart from what is erased. -/
theorem step_anonymous (spec : ProtocolSpec) (op : Op) (w : Windows) {choices : Choices}
    (acquired : choices.acquired.isSome = true ∧ choices.switchAcquired.isSome = true) :
    (w.step spec op choices).anonymous =
      (w.anonymous.step spec op .canonical).anonymous := by
  cases op with
  | control parsed => exact w.processControl_anonymous spec parsed
  | data parsed packet =>
      have processed := w.processData_anonymous spec parsed packet acquired
        (show Choices.canonical.acquired.isSome = true ∧ _ from ⟨rfl, rfl⟩)
      obtain ⟨windows, verdict⟩ := Prod.mk.inj processed
      simp only [step]
      rw [verdict]
      generalize (w.anonymous.processData spec parsed packet .canonical).2 = accepted
      exact congrArg (fun w : Windows => { w with verdicts := w.verdicts ++ [accepted] }) windows
  | timeout nowNs =>
      simp only [step]
      rw [checkActiveTimeout_anonymous _ _ _ ⟨0, .pushed⟩,
        checkPreviousTimeout_anonymous _ _ _ ⟨0, .pushed⟩, ← checkActiveTimeout_anonymous]
      rfl
  | drainRecycle | consumer => exact w.anonymous_anonymous.symm
  | shutdown => exact w.shutdown_anonymous choices _

/-- The windows that a sequence of operations determines. -/
def determined (spec : ProtocolSpec) (ops : List Op) (w : Windows) : Windows :=
  Machine.run (fun op w => (w.step spec op .canonical).anonymous) ops w.anonymous

end Windows

/-- What the coordinator receives, as opposed to the traffic on the rings. -/
def Op.isInput : Op → Bool
  | .control _ | .data _ _ | .timeout _ | .shutdown => true
  | .drainRecycle | .consumer => false

theorem Windows.determined_filter (spec : ProtocolSpec) (ops : List Op) (w : Windows) :
    w.determined spec (ops.filter Op.isInput) = w.determined spec ops := by
  have skip (w : Windows) (op : Op) (other : op.isInput = false) :
      (w.anonymous.step spec op .canonical).anonymous = w.anonymous := by
    cases op with
    | drainRecycle | consumer => exact w.anonymous_anonymous
    | control parsed | data parsed packet | timeout nowNs | shutdown => cases other
  induction ops generalizing w with
  | nil => rfl
  | cons op rest ih =>
      have rest (w : Windows) := ih w
      simp only [determined] at rest ⊢
      cases input : op.isInput with
      | true =>
          rw [List.filter_cons_of_pos input, Machine.run_cons, Machine.run_cons,
            ← anonymous_anonymous, rest]
      | false =>
          rw [List.filter_cons_of_neg (by simp [input]), Machine.run_cons, skip w op input, rest]

namespace System

/-- With few places in the output ring no operation runs out of slots, and the
windows are those that the operations determine. -/
theorem run_determined (spec : ProtocolSpec) (ops : List Op) {s : System} (owned : s.Owned)
    (small : s.outputCapacity < 14) :
    Advances s (Machine.run (System.step spec) ops s) 0 ∧
      (Machine.run (System.step spec) ops s).windows.anonymous = s.windows.determined spec ops := by
  induction ops generalizing s with
  | nil => exact ⟨.refl owned, rfl⟩
  | cons op rest ih =>
      obtain ⟨choices, failures, refines, acquired⟩ := step_refines spec op owned
      have none : failures = 0 := by
        by_contra failed
        have := refines.crowded failed
        omega
      subst none
      obtain ⟨advances, windows⟩ := ih refines.owned (by rw [refines.capacity]; exact small)
      refine ⟨refines.toAdvances.trans advances, ?_⟩
      rw [Machine.run_cons, windows, Windows.determined, refines.windows,
        Windows.step_anonymous spec op s.windows (acquired rfl)]
      rfl

end System

end RxTech
