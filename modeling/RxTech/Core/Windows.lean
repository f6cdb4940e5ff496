import RxTech.Core.Coordinator
import RxTech.Library.Machine

/-!
# Windows without a pool

What the coordinator is for, with the pool, the rings and the consumer taken
away: two windows that hold their contexts, the closed ring and the staged
control snapshot. Whether a context could be acquired, where its slot is, what
the clock said and whether an output fitted into the ring are choices here.
-/

set_option autoImplicit false

namespace RxTech

/-- What the surroundings answer when a window is finalized. -/
structure Closing where
  sealTsc : Nat
  delivery : Delivery

/-- The answers one operation can ask for. An acquired index is `none` when the
pool is exhausted. -/
structure Choices where
  acquired : Option PoolIndex
  switchAcquired : Option PoolIndex
  previousClosing : Closing
  activeClosing : Closing

structure Windows where
  active : Option CpiContext := none
  previous : Option CpiContext := none
  closedRing : RecentClosedRing := .fresh
  currentControl : ControlSnapshot := {}
  nextOutputId : Nat := 1
  openings : Nat := 0
  verdicts : List Bool := []
  log : List WindowEvent := []

namespace Windows

/-- Record an output and its delivery; an output that goes to the ring gets the
next id. -/
def record (w : Windows) (output : CpiOutput) (ctx : CpiContext) (delivery : Delivery) : Windows :=
  match delivery with
  | .detached => { w with log := w.log ++ [.produced output ctx .detached] }
  | .pushed | .dropped =>
      { w with
        nextOutputId := w.nextOutputId + 1
        log := w.log ++ [.produced { output with outputId := w.nextOutputId } ctx delivery] }

/-- Finalize a context and record what becomes of it. -/
def close (w : Windows) (ctx : CpiContext) (trigger : Nat) (closing : Closing) : Windows :=
  match CpiFinalizer.tryFinalize ctx trigger closing.sealTsc with
  | some (sealedCtx, output) =>
      { w with
        closedRing := w.closedRing.pushClosed output.cpiId output.sealTsc
          output.decision }.record output sealedCtx closing.delivery
  | none => { w with log := w.log ++ [.discarded ctx] }

theorem close_with (w : Windows) (active previous : Option CpiContext) (ctx : CpiContext)
    (trigger : Nat) (closing : Closing) :
    close { w with active, previous } ctx trigger closing =
      { w.close ctx trigger closing with active, previous } := by
  unfold close
  cases CpiFinalizer.tryFinalize ctx trigger closing.sealTsc with
  | none => rfl
  | some result =>
      obtain ⟨_, delivery⟩ := closing
      cases delivery <;> rfl

theorem close_active (w : Windows) (ctx : CpiContext) (trigger : Nat) (closing : Closing) :
    (w.close ctx trigger closing).active = w.active := by
  have kept : w.close ctx trigger closing = _ :=
    w.close_with w.active w.previous ctx trigger closing
  rw [kept]

theorem close_previous (w : Windows) (ctx : CpiContext) (trigger : Nat) (closing : Closing) :
    (w.close ctx trigger closing).previous = w.previous := by
  have kept : w.close ctx trigger closing = _ :=
    w.close_with w.active w.previous ctx trigger closing
  rw [kept]

def closeActive (w : Windows) (trigger : Nat) (closing : Closing) : Windows :=
  match w.active with
  | none => w
  | some ctx => { w.close ctx trigger closing with active := none }

def closePrevious (w : Windows) (trigger : Nat) (closing : Closing) : Windows :=
  match w.previous with
  | none => w
  | some ctx => { w.close ctx trigger closing with previous := none }

theorem closeActive_eq {w : Windows} (trigger : Nat) (closing : Closing) :
    (w.closeActive trigger closing).active = none ∧
      (w.closeActive trigger closing).previous = w.previous := by
  cases active : w.active with
  | none => simp [closeActive, active]
  | some ctx => simp [closeActive, active, close_previous]

theorem closePrevious_eq {w : Windows} (trigger : Nat) (closing : Closing) :
    (w.closePrevious trigger closing).active = w.active ∧
      (w.closePrevious trigger closing).previous = none := by
  cases previous : w.previous with
  | none => simp [closePrevious, previous]
  | some ctx => simp [closePrevious, previous, close_active]

/-- The context a window is opened with. -/
def openedCtx (spec : ProtocolSpec) (w : Windows) (cpiId : UInt16) (index : PoolIndex) :
    CpiContext :=
  bindControlSnapshot (CpiContext.reset cpiId (some index) w.openings)
    (selectOpenSnapshot cpiId spec w.currentControl)

theorem openedCtx_identity (spec : ProtocolSpec) (w : Windows) (cpiId : UInt16)
    (index : PoolIndex) :
    (w.openedCtx spec cpiId index).identity = (cpiId, some index, w.openings, .active) :=
  bindControlSnapshot_identity ..

theorem openedCtx_cpiId (spec : ProtocolSpec) (w : Windows) (cpiId : UInt16) (index : PoolIndex) :
    (w.openedCtx spec cpiId index).header.cpiId = cpiId :=
  congrArg Prod.fst (w.openedCtx_identity spec cpiId index)

theorem openedCtx_birth (spec : ProtocolSpec) (w : Windows) (cpiId : UInt16) (index : PoolIndex) :
    (w.openedCtx spec cpiId index).birth = w.openings :=
  congrArg (fun identity => identity.2.2.1) (w.openedCtx_identity spec cpiId index)

def openWindow (spec : ProtocolSpec) (w : Windows) (cpiId : UInt16) (index : PoolIndex) : Windows :=
  { w with
    active := some (w.openedCtx spec cpiId index)
    currentControl := selectOpenSnapshot cpiId spec w.currentControl
    openings := w.openings + 1
    log := w.log ++ [.opened (w.openedCtx spec cpiId index)] }

def rebindActive (w : Windows) (ctx : CpiContext) (candidate : ControlSnapshot) : Windows :=
  let ctx := mergeControlSnapshot ctx candidate
  { w with active := some ctx, currentControl := ctx.control, log := w.log ++ [.rebound ctx] }

def rebindPrevious (w : Windows) (ctx : CpiContext) (candidate : ControlSnapshot) : Windows :=
  let ctx := mergeControlSnapshot ctx candidate
  { w with previous := some ctx, log := w.log ++ [.rebound ctx] }

/-- A window that holds `cpiId`. -/
def holding (window : Option CpiContext) (cpiId : UInt16) : Option CpiContext :=
  window.filter fun ctx => ctx.header.cpiId == cpiId

def processControl (spec : ProtocolSpec) (w : Windows) (parsed : ParsedPacketView) : Windows :=
  if parsed.valid = false ∨ parsed.kind ≠ .controlTable then w
  else
    let candidate := makeControlSnapshot parsed spec
    match holding w.active candidate.cpiId, holding w.previous candidate.cpiId with
    | some ctx, _ => w.rebindActive ctx candidate
    | none, some ctx => w.rebindPrevious ctx candidate
    | none, none => { w with currentControl := candidate }

def checkPreviousTimeout (w : Windows) (nowNs : Nat) (closing : Closing) : Windows :=
  match w.previous with
  | some ctx =>
      if System.timedOut ctx nowNs then
        { w with previous := some (System.markTrigger ctx triggerTimeout) }.closePrevious
          triggerTimeout closing
      else w
  | none => w

def checkActiveTimeout (w : Windows) (nowNs : Nat) (closing : Closing) : Windows :=
  match w.active with
  | some ctx =>
      if System.timedOut ctx nowNs then
        { w with active := some (System.markTrigger ctx triggerTimeout) }.closeActive
          triggerTimeout closing
      else w
  | none => w

/-- The context after a first write and its progress. -/
def stored (spec : ProtocolSpec) (written : CpiContext) (parsed : ParsedPacketView)
    (packet : InterpretedPacketView) : CpiContext :=
  ProgressTracker.advance spec written packet.prt packet.channel (parsed.tail == spec.magicTail)

/-- Write a packet into the active window `ctx`. -/
def writeActive (spec : ProtocolSpec) (w : Windows) (ctx : CpiContext) (parsed : ParsedPacketView)
    (packet : InterpretedPacketView) (closing : Closing) : Windows × Bool :=
  let (written, result) := SlotWriter.write spec ctx parsed
  if result.duplicate then ({ w with active := some written }, false)
  else if result.firstWrite = false then (w, false)
  else
    let ctx := stored spec written parsed packet
    let w := { w with active := some ctx, log := w.log ++ [.stored parsed ctx] }
    let bits := ctx.header.triggerBits
    if Bits.hasAny bits System.finalizeMask then
      (w.closeActive (bits &&& System.finalizeMask) closing, true)
    else (w, true)

def writeLate (spec : ProtocolSpec) (w : Windows) (parsed : ParsedPacketView)
    (packet : InterpretedPacketView) : Windows × Bool :=
  match holding w.previous parsed.cpi with
  | none => (w, false)
  | some ctx =>
      let (written, result) := SlotWriter.write spec ctx parsed
      if result.firstWrite = true ∧ result.duplicate = false then
        let ctx := stored spec written parsed packet
        ({ w with previous := some ctx, log := w.log ++ [.stored parsed ctx] }, true)
      else ({ w with previous := some written }, false)

def shift (w : Windows) : Windows := { w with previous := w.active, active := none }

/-- Open a window, if there is a context for it, and write the packet that
opened it. -/
def openAndWrite (spec : ProtocolSpec) (w : Windows) (parsed : ParsedPacketView)
    (packet : InterpretedPacketView) (acquired : Option PoolIndex) (closing : Closing) :
    Windows × Bool :=
  match acquired with
  | none => (w, false)
  | some index =>
      (w.openWindow spec packet.cpi index).writeActive spec
        (w.openedCtx spec packet.cpi index) parsed packet closing

/-- What a data packet does next to the active window `ctx`. -/
def admitPacket (spec : ProtocolSpec) (w : Windows) (ctx : CpiContext) (parsed : ParsedPacketView)
    (packet : InterpretedPacketView) (choices : Choices) : Windows × Bool :=
  match CpiAdmission.judge parsed ctx.header.cpiId w.closedRing with
  | .writeActive => w.writeActive spec ctx parsed packet choices.activeClosing
  | .triggerCpiSwitch =>
      (w.closePrevious triggerCpiSwitch choices.previousClosing).shift.openAndWrite spec parsed
        packet choices.switchAcquired choices.activeClosing
  | .lateToClosed | .drop => w.writeLate spec parsed packet

def processData (spec : ProtocolSpec) (w : Windows) (parsed : ParsedPacketView)
    (packet : InterpretedPacketView) (choices : Choices) : Windows × Bool :=
  match w.active with
  | none =>
      if w.closedRing.contains parsed.cpi then (w, false)
      else
        match choices.acquired with
        | none => (w, false)
        | some index =>
            (w.openWindow spec packet.cpi index).admitPacket spec (w.openedCtx spec packet.cpi index)
              parsed packet choices
  | some ctx => w.admitPacket spec ctx parsed packet choices

def shutdown (w : Windows) (choices : Choices) : Windows :=
  let w := w.closePrevious triggerStop choices.previousClosing
  match w.active with
  | none => w
  | some ctx =>
      { w with active := some (System.markTrigger ctx triggerStop) }.closeActive triggerStop
        choices.activeClosing

def step (spec : ProtocolSpec) (op : Op) (choices : Choices) (w : Windows) : Windows :=
  match op with
  | .control parsed => w.processControl spec parsed
  | .data parsed packet =>
      let (w, accepted) := w.processData spec parsed packet choices
      { w with verdicts := w.verdicts ++ [accepted] }
  | .timeout nowNs =>
      (w.checkPreviousTimeout nowNs choices.previousClosing).checkActiveTimeout nowNs
        choices.activeClosing
  | .drainRecycle | .consumer => w
  | .shutdown => w.shutdown choices

end Windows

/-- The windows of a coordinator. -/
def System.windows (s : System) : Windows where
  active := s.activeCtx
  previous := s.previousCtx
  closedRing := s.closedRing
  currentControl := s.currentControl
  nextOutputId := s.nextOutputId
  openings := s.openings
  verdicts := s.verdicts
  log := s.windowLog

end RxTech
