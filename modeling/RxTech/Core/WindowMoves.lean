import RxTech.Core.Windows
import RxTech.Cpi.Receive
import Mathlib.Logic.Relation

/-!
# What an operation does to the windows

Every operation on valid packets is a sequence of moves, and each move changes
one window.
-/

set_option autoImplicit false

namespace RxTech

/-- The next CPI is another one, also where the ids wrap around. -/
theorem succ_ne_self (cpiId : UInt16) : cpiId + 1 ≠ cpiId := by
  intro same
  have values := congrArg UInt16.toNat same
  have bounded := cpiId.toNat_lt
  simp only [UInt16.toNat_add, UInt16.reduceToNat] at values
  omega

namespace Windows

/-- The output as it is recorded. -/
def numbered (w : Windows) (output : CpiOutput) : Delivery → CpiOutput
  | .detached => output
  | .pushed | .dropped => { output with outputId := w.nextOutputId }

private theorem record_eq (w : Windows) (output : CpiOutput) (ctx : CpiContext)
    (delivery : Delivery) :
    ∃ nextOutputId, w.record output ctx delivery =
      { w with
        nextOutputId
        log := w.log ++ [.produced (w.numbered output delivery) ctx delivery] } := by
  cases delivery with
  | detached => exact ⟨w.nextOutputId, rfl⟩
  | pushed | dropped => exact ⟨w.nextOutputId + 1, rfl⟩

/-- Finalizing an active context with a trigger that decides produces an output. -/
theorem close_produces (w : Windows) {ctx : CpiContext} {trigger : Nat} {decision : CpiDecision}
    (active : ctx.header.state = .active)
    (decides : CpiFinalizer.decide? ctx.header.readyPrtCount trigger = some decision)
    (closing : Closing) :
    ∃ nextOutputId, w.close ctx trigger closing =
      { w with
        closedRing := w.closedRing.pushClosed ctx.header.cpiId closing.sealTsc decision
        nextOutputId
        log := w.log ++
          [.produced (w.numbered (ctx.seal trigger closing.sealTsc decision).makeOutput
            closing.delivery) (ctx.seal trigger closing.sealTsc decision) closing.delivery] } := by
  simp only [close, CpiFinalizer.tryFinalize, active, true_or, if_true, decides, Option.map_some]
  exact record_eq _ _ _ _

theorem closeActive_produces {w : Windows} {ctx : CpiContext} {trigger : Nat}
    {decision : CpiDecision} (isActive : w.active = some ctx) (active : ctx.header.state = .active)
    (decides : CpiFinalizer.decide? ctx.header.readyPrtCount trigger = some decision)
    (closing : Closing) :
    ∃ nextOutputId, w.closeActive trigger closing =
      { w with
        active := none
        closedRing := w.closedRing.pushClosed ctx.header.cpiId closing.sealTsc decision
        nextOutputId
        log := w.log ++
          [.produced (w.numbered (ctx.seal trigger closing.sealTsc decision).makeOutput
            closing.delivery) (ctx.seal trigger closing.sealTsc decision) closing.delivery] } := by
  obtain ⟨nextOutputId, closed⟩ := w.close_produces active decides closing
  exact ⟨nextOutputId, by simp only [closeActive, isActive, closed]⟩

theorem closePrevious_produces {w : Windows} {ctx : CpiContext} {trigger : Nat}
    {decision : CpiDecision} (isPrevious : w.previous = some ctx)
    (active : ctx.header.state = .active)
    (decides : CpiFinalizer.decide? ctx.header.readyPrtCount trigger = some decision)
    (closing : Closing) :
    ∃ nextOutputId, w.closePrevious trigger closing =
      { w with
        previous := none
        closedRing := w.closedRing.pushClosed ctx.header.cpiId closing.sealTsc decision
        nextOutputId
        log := w.log ++
          [.produced (w.numbered (ctx.seal trigger closing.sealTsc decision).makeOutput
            closing.delivery) (ctx.seal trigger closing.sealTsc decision) closing.delivery] } := by
  obtain ⟨nextOutputId, closed⟩ := w.close_produces active decides closing
  exact ⟨nextOutputId, by simp only [closePrevious, isPrevious, closed]⟩

theorem decide?_silent (readyPrtCount : Nat) {trigger : Nat}
    (silent : trigger = triggerTimeout ∨ trigger = triggerStop) :
    CpiFinalizer.decide? readyPrtCount trigger = none := by
  rcases silent with rfl | rfl <;> rfl

/-- The trigger of a window that a write closes always decides. -/
theorem decide?_of_mask (readyPrtCount : Nat) {bits : Nat}
    (closes : Bits.hasAny bits System.finalizeMask = true) :
    CpiFinalizer.decide? readyPrtCount (bits &&& System.finalizeMask) =
      some (if Bits.hasAny bits triggerFullReady then .completeOk
        else if readyPrtCount > 0 then .incompleteButCommittable
        else .abnormalCutoffCommit) := by
  have full : Bits.hasAny (bits &&& System.finalizeMask) triggerFullReady =
      Bits.hasAny bits triggerFullReady := Bits.hasAny_and_of_subset (by decide)
  have other : (bits &&& System.finalizeMask) &&& (triggerCpiSwitch ||| triggerWaveEnd) =
      bits &&& triggerWaveEnd := by
    rw [Nat.and_assoc]
    rfl
  simp only [CpiFinalizer.decide?, full]
  cases isFull : Bits.hasAny bits triggerFullReady with
  | true => simp
  | false =>
      have wave : Bits.hasAny (bits &&& System.finalizeMask) (triggerCpiSwitch ||| triggerWaveEnd) =
          true := by
        rw [Bits.hasAny, other]
        change Bits.hasAny bits triggerWaveEnd = true
        simpa [System.finalizeMask, Bits.hasAny_mask_or, isFull] using closes
      simp [wave]

theorem decide?_switch (readyPrtCount : Nat) :
    CpiFinalizer.decide? readyPrtCount triggerCpiSwitch =
      some (if readyPrtCount > 0 then .incompleteButCommittable else .abnormalCutoffCommit) := rfl

/-- A timeout or a stop discards the context. -/
theorem close_silent (w : Windows) (ctx : CpiContext) {trigger : Nat}
    (silent : trigger = triggerTimeout ∨ trigger = triggerStop) (closing : Closing) :
    w.close ctx trigger closing = { w with log := w.log ++ [.discarded ctx] } := by
  simp [close, CpiFinalizer.tryFinalize, decide?_silent ctx.header.readyPrtCount silent]

/-- How a window for `cpiId` comes to be opened in `w`: there was no active
window and the CPI is not remembered as closed, or the packet switches to the
next CPI. -/
inductive Opens (start : Windows) (cpiId : UInt16) : Windows → Prop where
  | idle (inactive : start.active = none) (unknown : start.closedRing.contains cpiId = false) :
      Opens start cpiId start
  | switched (ctx : CpiContext) (closing : Closing) (active : start.active = some ctx)
      (next : cpiId = ctx.header.cpiId + 1) :
      Opens start cpiId (start.closePrevious triggerCpiSwitch closing).shift

/-- The packet opens a window: none is active and its CPI is not remembered as
closed, or it is next to the active one. -/
def OpensFor (w : Windows) (parsed : ParsedPacketView) : Prop :=
  (w.active = none ∧ w.closedRing.contains parsed.cpi = false) ∨
    ∃ active, w.active = some active ∧ parsed.cpi = active.header.cpiId + 1

instance (w : Windows) (parsed : ParsedPacketView) : Decidable (w.OpensFor parsed) :=
  inferInstanceAs (Decidable (_ ∨ ∃ active, w.active = some active ∧ _))

theorem opensFor_of_vacant {w : Windows} {parsed : ParsedPacketView} (vacant : w.active = none) :
    w.OpensFor parsed ↔ w.closedRing.contains parsed.cpi = false := by
  constructor
  · rintro (⟨-, unknown⟩ | ⟨ctx, impossible, -⟩)
    · exact unknown
    · rw [vacant] at impossible
      cases impossible
  · exact fun unknown => .inl ⟨vacant, unknown⟩

theorem opensFor_of_active {w : Windows} {parsed : ParsedPacketView} {ctx : CpiContext}
    (active : w.active = some ctx) : w.OpensFor parsed ↔ parsed.cpi = ctx.header.cpiId + 1 := by
  constructor
  · rintro (⟨impossible, -⟩ | ⟨other, is, next⟩)
    · rw [active] at impossible
      cases impossible
    · obtain rfl := Option.some.inj (active.symm.trans is)
      exact next
  · exact fun next => .inr ⟨ctx, active, next⟩

theorem Opens.opensFor {start w : Windows} {parsed : ParsedPacketView}
    (opens : Opens start parsed.cpi w) : start.OpensFor parsed := by
  cases opens with
  | idle inactive unknown => exact .inl ⟨inactive, unknown⟩
  | switched ctx closing active next => exact .inr ⟨ctx, active, next⟩

/-- One move of the operation `op`, which began in `start`. -/
inductive Move (spec : ProtocolSpec) (op : Op) (start : Windows) : Windows → Windows → Prop where
  | judged {w : Windows} (accepted : Bool) :
      Move spec op start w { w with verdicts := w.verdicts ++ [accepted] }
  | staged (parsed : ParsedPacketView) (control : op = .control parsed)
      (valid : ValidControl parsed)
      (notActive : holding start.active parsed.cpi = none)
      (notPrevious : holding start.previous parsed.cpi = none) :
      Move spec op start start { start with currentControl := makeControlSnapshot parsed spec }
  | reboundActive (ctx : CpiContext) (parsed : ParsedPacketView) (control : op = .control parsed)
      (valid : ValidControl parsed) (active : start.active = some ctx)
      (same : ctx.header.cpiId = parsed.cpi) :
      Move spec op start start (start.rebindActive ctx (makeControlSnapshot parsed spec))
  | reboundPrevious (ctx : CpiContext) (parsed : ParsedPacketView) (control : op = .control parsed)
      (valid : ValidControl parsed) (notActive : holding start.active parsed.cpi = none)
      (previous : start.previous = some ctx)
      (same : ctx.header.cpiId = parsed.cpi) :
      Move spec op start start (start.rebindPrevious ctx (makeControlSnapshot parsed spec))
  | discardedPrevious {w : Windows} (ctx : CpiContext) (marks : Nat)
      (previous : w.previous = some ctx) :
      Move spec op start w
        { w with
          previous := none
          log := w.log ++ [.discarded (System.markTrigger ctx marks)] }
  | discardedActive {w : Windows} (ctx : CpiContext) (marks : Nat) (active : w.active = some ctx) :
      Move spec op start w
        { w with
          active := none
          log := w.log ++ [.discarded (System.markTrigger ctx marks)] }
  | committedPrevious (active previous : CpiContext) (parsed : ParsedPacketView)
      (packet : InterpretedPacketView) (closing : Closing) (data : op = .data parsed packet)
      (isActive : start.active = some active) (next : parsed.cpi = active.header.cpiId + 1)
      (isPrevious : start.previous = some previous) :
      Move spec op start start (start.closePrevious triggerCpiSwitch closing)
  | shifted {w : Windows} (ctx : CpiContext) (active : w.active = some ctx)
      (vacant : w.previous = none) : Move spec op start w w.shift
  | opened {w : Windows} (index : PoolIndex) (parsed : ParsedPacketView)
      (packet : InterpretedPacketView) (data : op = .data parsed packet) (inactive : w.active = none)
      (opens : Opens start parsed.cpi w) : Move spec op start w (w.openWindow spec parsed.cpi index)
  | repeatedActive {w : Windows} (ctx : CpiContext) (active : w.active = some ctx) :
      Move spec op start w { w with active := some ctx.countDuplicate }
  | repeatedPrevious {w : Windows} (ctx : CpiContext) (previous : w.previous = some ctx) :
      Move spec op start w { w with previous := some ctx.countDuplicate }
  | storedActive {w : Windows} (ctx : CpiContext) (parsed : ParsedPacketView)
      (packet : InterpretedPacketView) (bytes : ByteView) (data : op = .data parsed packet)
      (active : w.active = some ctx) (same : parsed.cpi = ctx.header.cpiId)
      (takes : ctx.Takes spec parsed bytes)
      (stays : Bits.hasAny (ctx.receive spec parsed bytes).header.triggerBits System.finalizeMask =
        false) :
      Move spec op start w
        { w with
          active := some (ctx.receive spec parsed bytes)
          log := w.log ++ [.stored parsed (ctx.receive spec parsed bytes)] }
  | filledActive {w : Windows} (ctx : CpiContext) (parsed : ParsedPacketView)
      (packet : InterpretedPacketView) (bytes : ByteView) (closing : Closing)
      (data : op = .data parsed packet) (active : w.active = some ctx)
      (same : parsed.cpi = ctx.header.cpiId) (takes : ctx.Takes spec parsed bytes)
      (closes : Bits.hasAny (ctx.receive spec parsed bytes).header.triggerBits System.finalizeMask =
        true) :
      Move spec op start w
        (Windows.closeActive
          { w with
            active := some (ctx.receive spec parsed bytes)
            log := w.log ++ [.stored parsed (ctx.receive spec parsed bytes)] }
          ((ctx.receive spec parsed bytes).header.triggerBits &&& System.finalizeMask) closing)
  | storedPrevious (active previous : CpiContext) (parsed : ParsedPacketView)
      (packet : InterpretedPacketView) (bytes : ByteView) (data : op = .data parsed packet)
      (isActive : start.active = some active) (isPrevious : start.previous = some previous)
      (other : parsed.cpi ≠ active.header.cpiId) (notNext : parsed.cpi ≠ active.header.cpiId + 1)
      (same : parsed.cpi = previous.header.cpiId) (takes : previous.Takes spec parsed bytes) :
      Move spec op start start
        { start with
          previous := some (previous.receive spec parsed bytes)
          log := start.log ++ [.stored parsed (previous.receive spec parsed bytes)] }

/-- A sequence of moves. -/
abbrev Moves (spec : ProtocolSpec) (op : Op) (start : Windows) : Windows → Windows → Prop :=
  Relation.ReflTransGen (Move spec op start)

variable {spec : ProtocolSpec}

theorem holding_eq_some {window : Option CpiContext} {cpiId : UInt16} {ctx : CpiContext}
    (found : holding window cpiId = some ctx) : window = some ctx ∧ ctx.header.cpiId = cpiId := by
  obtain ⟨here, same⟩ := Option.filter_eq_some_iff.mp found
  exact ⟨here, by simpa using same⟩

theorem holding_of_eq {window : Option CpiContext} {cpiId : UInt16} {ctx : CpiContext}
    (here : window = some ctx) (same : ctx.header.cpiId = cpiId) :
    holding window cpiId = some ctx :=
  Option.filter_eq_some_iff.mpr ⟨here, by simpa using same⟩

/-- A packet that the active window takes is stored, and a trigger that it raises closes the
window. -/
theorem writeActive_takes (w : Windows) {ctx : CpiContext} {parsed : ParsedPacketView}
    {packet : InterpretedPacketView} {bytes : ByteView} (valid : ValidData parsed packet)
    (takes : ctx.Takes spec parsed bytes) (closing : Closing) :
    w.writeActive spec ctx parsed packet closing =
      let next := ctx.receive spec parsed bytes
      let stored :=
        { w with active := some next, log := w.log ++ [WindowEvent.stored parsed next] }
      if Bits.hasAny next.header.triggerBits System.finalizeMask then
        (stored.closeActive (next.header.triggerBits &&& System.finalizeMask) closing, true)
      else (stored, true) := by
  have outcome := SlotWriter.write_outcome spec ctx parsed
  simp only [writeActive]
  generalize SlotWriter.write spec ctx parsed = result at outcome ⊢
  cases outcome with
  | rejected reason declines => exact absurd takes.accepts declines
  | duplicate accepts present =>
      rw [takes.absent] at present
      cases present
  | stored other payload accepts absent =>
      obtain rfl : other = bytes := Option.some.inj (payload.symm.trans takes.payload)
      have received : stored spec (ctx.storePacket parsed other (SlotWriter.index spec parsed))
          parsed packet = ctx.receive spec parsed other := by
        simp only [stored, CpiContext.receive, valid.prt, valid.channel]
      simp only [received, Bool.false_eq_true, if_false, Bool.true_eq_false]

/-- Any other packet changes nothing but the count of duplicates. -/
theorem writeActive_refuses (w : Windows) {ctx : CpiContext} {parsed : ParsedPacketView}
    (packet : InterpretedPacketView) (refused : ¬ ∃ bytes, ctx.Takes spec parsed bytes)
    (closing : Closing) :
    w.writeActive spec ctx parsed packet closing = (w, false) ∨
      w.writeActive spec ctx parsed packet closing =
        ({ w with active := some ctx.countDuplicate }, false) := by
  have outcome := SlotWriter.write_outcome spec ctx parsed
  simp only [writeActive]
  generalize SlotWriter.write spec ctx parsed = result at outcome ⊢
  cases outcome with
  | rejected reason declines => exact .inl rfl
  | duplicate accepts present => exact .inr rfl
  | stored bytes payload accepts absent => exact absurd ⟨bytes, accepts, payload, absent⟩ refused

theorem writeActive_moves {op : Op} {start w : Windows} {ctx : CpiContext}
    {parsed : ParsedPacketView} {packet : InterpretedPacketView} (data : op = .data parsed packet)
    (valid : ValidData parsed packet) (active : w.active = some ctx)
    (same : parsed.cpi = ctx.header.cpiId) (closing : Closing) :
    Moves spec op start w (w.writeActive spec ctx parsed packet closing).1 := by
  by_cases taken : ∃ bytes, ctx.Takes spec parsed bytes
  · obtain ⟨bytes, takes⟩ := taken
    rw [writeActive_takes w valid takes closing]
    simp only
    split
    · rename_i closes
      exact .single (.filledActive ctx parsed packet bytes closing data active same takes closes)
    · rename_i stays
      exact .single (.storedActive ctx parsed packet bytes data active same takes
        (by simpa using stays))
  · cases writeActive_refuses w packet taken closing with
    | inl unchanged => rw [unchanged]
    | inr repeated =>
        rw [repeated]
        exact .single (.repeatedActive ctx active)

private theorem writeLate_moves {op : Op} {start : Windows} {active : CpiContext}
    {parsed : ParsedPacketView} {packet : InterpretedPacketView} (data : op = .data parsed packet)
    (valid : ValidData parsed packet) (isActive : start.active = some active)
    (other : parsed.cpi ≠ active.header.cpiId) (notNext : parsed.cpi ≠ active.header.cpiId + 1) :
    Moves spec op start start (start.writeLate spec parsed packet).1 := by
  simp only [writeLate]
  cases late : holding start.previous parsed.cpi with
  | none => exact .refl
  | some previous =>
      obtain ⟨isPrevious, same⟩ := holding_eq_some late
      have outcome := SlotWriter.write_outcome spec previous parsed
      simp only
      generalize SlotWriter.write spec previous parsed = result at outcome ⊢
      cases outcome with
      | rejected reason declines =>
          simp only [Bool.false_eq_true, false_and, if_false]
          rw [← isPrevious]
      | duplicate accepts present =>
          exact .single (.repeatedPrevious previous isPrevious)
      | stored bytes payload accepts absent =>
          have received : stored spec
              (previous.storePacket parsed bytes (SlotWriter.index spec parsed)) parsed packet =
              previous.receive spec parsed bytes := by
            simp only [stored, CpiContext.receive, valid.prt, valid.channel]
          simp only [received, and_self, if_true]
          exact .single (.storedPrevious active previous parsed packet bytes data isActive isPrevious
            other notNext same.symm ⟨accepts, payload, absent⟩)

private theorem openAndWrite_moves {op : Op} {start w : Windows} {parsed : ParsedPacketView}
    {packet : InterpretedPacketView} (data : op = .data parsed packet)
    (valid : ValidData parsed packet) (inactive : w.active = none) (opens : Opens start parsed.cpi w)
    (acquired : Option PoolIndex) (closing : Closing) :
    Moves spec op start w (w.openAndWrite spec parsed packet acquired closing).1 := by
  cases acquired with
  | none => exact .refl
  | some index =>
      have opened : Moves spec op start w (w.openWindow spec parsed.cpi index) :=
        .single (.opened index parsed packet data inactive opens)
      have named : parsed.cpi = (w.openedCtx spec parsed.cpi index).header.cpiId :=
        (w.openedCtx_cpiId spec parsed.cpi index).symm
      simp only [openAndWrite, valid.cpi]
      exact opened.trans (writeActive_moves data valid rfl named closing)

/-- A packet of the next CPI closes the previous window and shifts the active one. -/
theorem admitPacket_switch {w : Windows} {ctx : CpiContext} {parsed : ParsedPacketView}
    {packet : InterpretedPacketView} (valid : ValidData parsed packet)
    (next : parsed.cpi = ctx.header.cpiId + 1) (choices : Choices) :
    w.admitPacket spec ctx parsed packet choices =
      (w.closePrevious triggerCpiSwitch choices.previousClosing).shift.openAndWrite spec parsed
        packet choices.switchAcquired choices.activeClosing := by
  have other : parsed.cpi ≠ ctx.header.cpiId := fun same =>
    succ_ne_self ctx.header.cpiId (next.symm.trans same)
  simp only [admitPacket, CpiAdmission.judge, valid.valid, Bool.true_eq_false, if_false,
    if_neg other, if_pos next]

/-- A packet of neither the active CPI nor the next one is late. -/
theorem admitPacket_late {w : Windows} {ctx : CpiContext} {parsed : ParsedPacketView}
    {packet : InterpretedPacketView} (valid : ValidData parsed packet)
    (other : parsed.cpi ≠ ctx.header.cpiId) (notNext : parsed.cpi ≠ ctx.header.cpiId + 1)
    (choices : Choices) :
    w.admitPacket spec ctx parsed packet choices = w.writeLate spec parsed packet := by
  simp only [admitPacket, CpiAdmission.judge, valid.valid, Bool.true_eq_false, if_false,
    if_neg other, if_neg notNext]
  cases w.closedRing.contains parsed.cpi <;> rfl

private theorem admitPacket_moves {op : Op} {start : Windows} {ctx : CpiContext}
    {parsed : ParsedPacketView} {packet : InterpretedPacketView} (data : op = .data parsed packet)
    (valid : ValidData parsed packet) (active : start.active = some ctx) (choices : Choices) :
    Moves spec op start start (start.admitPacket spec ctx parsed packet choices).1 := by
  by_cases same : parsed.cpi = ctx.header.cpiId
  · have judged : CpiAdmission.judge parsed ctx.header.cpiId start.closedRing = .writeActive := by
      simp [CpiAdmission.judge, valid.valid, same]
    simp only [admitPacket, judged]
    exact writeActive_moves data valid active same choices.activeClosing
  by_cases next : parsed.cpi = ctx.header.cpiId + 1
  · obtain ⟨stillActive, vacant⟩ := closePrevious_eq (w := start) triggerCpiSwitch
      choices.previousClosing
    have closed : Moves spec op start start
        (start.closePrevious triggerCpiSwitch choices.previousClosing) := by
      cases previous : start.previous with
      | none =>
          simp only [closePrevious, previous]
          exact .refl
      | some late =>
          exact .single (.committedPrevious ctx late parsed packet choices.previousClosing data
            active next previous)
    have shifted := closed.tail (.shifted ctx (stillActive.trans active) vacant)
    rw [admitPacket_switch valid next]
    exact shifted.trans (openAndWrite_moves data valid rfl
      (.switched ctx choices.previousClosing active next) _ _)
  · rw [admitPacket_late valid same next]
    exact writeLate_moves data valid active same next

theorem processData_idle {w : Windows} {parsed : ParsedPacketView} {packet : InterpretedPacketView}
    (valid : ValidData parsed packet) (inactive : w.active = none)
    (unknown : w.closedRing.contains parsed.cpi = false) (choices : Choices) :
    w.processData spec parsed packet choices =
      w.openAndWrite spec parsed packet choices.acquired choices.activeClosing := by
  simp only [processData, inactive, unknown, Bool.false_eq_true, if_false, openAndWrite]
  cases choices.acquired with
  | none => rfl
  | some index =>
      have named : parsed.cpi = (w.openedCtx spec packet.cpi index).header.cpiId := by
        rw [valid.cpi]
        exact (w.openedCtx_cpiId spec parsed.cpi index).symm
      simp only [admitPacket, CpiAdmission.judge, valid.valid, Bool.true_eq_false, if_false, if_pos
        named]

private theorem processData_moves {op : Op} {start : Windows} {parsed : ParsedPacketView}
    {packet : InterpretedPacketView} (data : op = .data parsed packet)
    (valid : ValidData parsed packet) (choices : Choices) :
    Moves spec op start start (start.processData spec parsed packet choices).1 := by
  cases active : start.active with
  | some ctx =>
      simp only [processData, active]
      exact admitPacket_moves data valid active choices
  | none =>
      by_cases known : start.closedRing.contains parsed.cpi = true
      · simp only [processData, active, known, if_true]
        exact .refl
      · have unknown := Bool.eq_false_iff.mpr known
        rw [processData_idle valid active unknown]
        exact openAndWrite_moves data valid active (.idle active unknown) _ _

/-- What a control packet does. -/
inductive Controls (spec : ProtocolSpec) (w : Windows) (parsed : ParsedPacketView) :
    Windows → Prop where
  | ignored (invalid : ¬ ValidControl parsed) : Controls spec w parsed w
  | active (ctx : CpiContext) (valid : ValidControl parsed)
      (found : holding w.active parsed.cpi = some ctx) :
      Controls spec w parsed (w.rebindActive ctx (makeControlSnapshot parsed spec))
  | previous (ctx : CpiContext) (valid : ValidControl parsed)
      (notActive : holding w.active parsed.cpi = none)
      (found : holding w.previous parsed.cpi = some ctx) :
      Controls spec w parsed (w.rebindPrevious ctx (makeControlSnapshot parsed spec))
  | staged (valid : ValidControl parsed) (notActive : holding w.active parsed.cpi = none)
      (notPrevious : holding w.previous parsed.cpi = none) :
      Controls spec w parsed { w with currentControl := makeControlSnapshot parsed spec }

theorem processControl_controls (w : Windows) (parsed : ParsedPacketView) :
    Controls spec w parsed (w.processControl spec parsed) := by
  simp only [processControl]
  split
  · rename_i refused
    refine .ignored fun valid => ?_
    rcases refused with invalid | other
    · exact Bool.noConfusion (valid.valid.symm.trans invalid)
    · exact other valid.kind
  rename_i accepted
  have valid : ValidControl parsed := by
    simp only [not_or, Bool.not_eq_false, ne_eq, Decidable.not_not] at accepted
    exact ⟨accepted.1, accepted.2⟩
  simp only [makeControlSnapshot_cpiId]
  cases active : holding w.active parsed.cpi with
  | some ctx => exact .active ctx valid active
  | none =>
      cases previous : holding w.previous parsed.cpi with
      | some ctx => exact .previous ctx valid active previous
      | none => exact .staged valid active previous

private theorem processControl_moves (start : Windows) (parsed : ParsedPacketView) :
    Moves spec (.control parsed) start start (start.processControl spec parsed) := by
  have controls := @processControl_controls spec start parsed
  generalize start.processControl spec parsed = next at controls
  cases controls with
  | ignored invalid => exact .refl
  | active ctx valid found =>
      obtain ⟨isActive, same⟩ := holding_eq_some found
      exact .single (.reboundActive ctx parsed rfl valid isActive same)
  | previous ctx valid notActive found =>
      obtain ⟨isPrevious, same⟩ := holding_eq_some found
      exact .single (.reboundPrevious ctx parsed rfl valid notActive isPrevious same)
  | staged valid notActive notPrevious =>
      exact .single (.staged parsed rfl valid notActive notPrevious)

private theorem markTrigger_none (ctx : CpiContext) : System.markTrigger ctx triggerNone = ctx := by
  simp [System.markTrigger, triggerNone]

private theorem closePrevious_silent {w : Windows} {ctx : CpiContext} {trigger : Nat}
    (previous : w.previous = some ctx) (silent : trigger = triggerTimeout ∨ trigger = triggerStop)
    (closing : Closing) : w.closePrevious trigger closing =
      { w with previous := none, log := w.log ++ [.discarded ctx] } := by
  simp only [closePrevious, previous, close_silent _ _ silent]

private theorem closeActive_silent {w : Windows} {ctx : CpiContext} {trigger : Nat}
    (active : w.active = some ctx) (silent : trigger = triggerTimeout ∨ trigger = triggerStop)
    (closing : Closing) : w.closeActive trigger closing =
      { w with active := none, log := w.log ++ [.discarded ctx] } := by
  simp only [closeActive, active, close_silent _ _ silent]

private theorem checkPreviousTimeout_moves (op : Op) (start w : Windows) (nowNs : Nat)
    (closing : Closing) : Moves spec op start w (w.checkPreviousTimeout nowNs closing) := by
  simp only [checkPreviousTimeout]
  cases previous : w.previous with
  | none => exact .refl
  | some ctx =>
      simp only
      split
      · rw [closePrevious_silent rfl (.inl rfl)]
        exact .single (.discardedPrevious ctx triggerTimeout previous)
      · exact .refl

private theorem checkActiveTimeout_moves (op : Op) (start w : Windows) (nowNs : Nat)
    (closing : Closing) :
    Moves spec op start w (w.checkActiveTimeout nowNs closing) := by
  simp only [checkActiveTimeout]
  cases active : w.active with
  | none => exact .refl
  | some ctx =>
      simp only
      split
      · rw [closeActive_silent rfl (.inl rfl)]
        exact .single (.discardedActive ctx triggerTimeout active)
      · exact .refl

private theorem shutdown_moves (op : Op) (start w : Windows) (choices : Choices) :
    Moves spec op start w (w.shutdown choices) := by
  have first : Moves spec op start w (w.closePrevious triggerStop choices.previousClosing) := by
    cases previous : w.previous with
    | none =>
        simp only [closePrevious, previous]
        exact .refl
    | some ctx =>
        rw [closePrevious_silent previous (.inr rfl)]
        have discarded : Move spec op start w _ := .discardedPrevious ctx triggerNone previous
        rw [markTrigger_none] at discarded
        exact .single discarded
  apply first.trans
  simp only [shutdown]
  generalize w.closePrevious triggerStop choices.previousClosing = next
  cases active : next.active with
  | none => exact .refl
  | some ctx =>
      simp only
      rw [closeActive_silent rfl (.inr rfl)]
      exact .single (.discardedActive ctx triggerStop active)

theorem step_moves {op : Op} (valid : op.Valid) (choices : Choices) (w : Windows) :
    Moves spec op w w (w.step spec op choices) := by
  cases op with
  | control parsed => exact processControl_moves w parsed
  | data parsed packet =>
      exact (processData_moves rfl valid choices).tail (.judged _)
  | timeout nowNs =>
      exact (checkPreviousTimeout_moves ..).trans (checkActiveTimeout_moves ..)
  | drainRecycle | consumer => exact .refl
  | shutdown => exact shutdown_moves _ _ w choices

/-- What every move preserves, an operation preserves. -/
theorem step_preserves {op : Op} (valid : op.Valid) {w : Windows} {invariant : Windows → Prop}
    (preserved : ∀ before after, Move spec op w before after → invariant before → invariant after)
    (choices : Choices) (holds : invariant w) : invariant (w.step spec op choices) := by
  have moves := @step_moves spec op valid choices w
  generalize w.step spec op choices = next at moves ⊢
  induction moves with
  | refl => exact holds
  | tail _ move ih => exact preserved _ _ move ih

/-! ## Closing leaves the staged control alone -/

private theorem close_currentControl (w : Windows) (ctx : CpiContext) (trigger : Nat)
    (closing : Closing) :
    (w.close ctx trigger closing).currentControl = w.currentControl := by
  unfold close
  cases CpiFinalizer.tryFinalize ctx trigger closing.sealTsc with
  | none => rfl
  | some result => cases closing.delivery <;> rfl

theorem closePrevious_currentControl (w : Windows) (trigger : Nat) (closing : Closing) :
    (w.closePrevious trigger closing).currentControl = w.currentControl := by
  unfold closePrevious
  cases w.previous with
  | none => rfl
  | some ctx => exact w.close_currentControl ctx trigger closing

/-! ## The history grows -/

private theorem close_log (w : Windows) (ctx : CpiContext) (trigger : Nat) (closing : Closing) :
    w.log <+: (w.close ctx trigger closing).log := by
  unfold close
  cases CpiFinalizer.tryFinalize ctx trigger closing.sealTsc with
  | none => exact List.prefix_append _ _
  | some result => cases closing.delivery <;> exact List.prefix_append _ _

private theorem closeActive_log (w : Windows) (trigger : Nat) (closing : Closing) :
    w.log <+: (w.closeActive trigger closing).log := by
  unfold closeActive
  cases w.active with
  | none => exact List.prefix_rfl
  | some ctx => exact w.close_log ctx trigger closing

theorem closePrevious_log (w : Windows) (trigger : Nat) (closing : Closing) :
    w.log <+: (w.closePrevious trigger closing).log := by
  unfold closePrevious
  cases w.previous with
  | none => exact List.prefix_rfl
  | some ctx => exact w.close_log ctx trigger closing

theorem Move.log {op : Op} {start before after : Windows} (move : Move spec op start before after) :
    before.log <+: after.log := by
  cases move with
  | judged | staged | shifted | repeatedActive | repeatedPrevious => exact List.prefix_rfl
  | reboundActive | reboundPrevious | discardedPrevious | discardedActive | opened | storedActive
  | storedPrevious => exact List.prefix_append _ _
  | committedPrevious => exact closePrevious_log _ _ _
  | filledActive ctx parsed packet bytes closing =>
      let stored : Windows := { before with
        active := some (ctx.receive spec parsed bytes)
        log := before.log ++ [.stored parsed (ctx.receive spec parsed bytes)] }
      have grown : before.log <+: stored.log := List.prefix_append _ _
      exact grown.trans (stored.closeActive_log _ closing)

theorem Moves.log {op : Op} {start before after : Windows}
    (moves : Moves spec op start before after) : before.log <+: after.log := by
  induction moves with
  | refl => exact List.prefix_rfl
  | tail _ move ih => exact ih.trans move.log

end Windows

end RxTech
