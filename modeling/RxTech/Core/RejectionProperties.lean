import RxTech.Core.WindowInvariant
import RxTech.Protocol.PacketProperties

/-!
# Rejected packets

A rejected packet leaves the windows as they were, unless it opened a window that
then did not take it.
-/

set_option autoImplicit false

namespace RxTech

def CpiContext.forgetDuplicates (ctx : CpiContext) : CpiContext :=
  { ctx with header.duplicateCount := 0 }

namespace Windows

/-- The same windows up to their duplicate counts, and nothing opened, emitted or
closed. -/
structure Intact (w next : Windows) : Prop where
  active : next.active.map CpiContext.forgetDuplicates = w.active.map CpiContext.forgetDuplicates
  previous : next.previous.map CpiContext.forgetDuplicates =
    w.previous.map CpiContext.forgetDuplicates
  closedRing : next.closedRing = w.closedRing
  openings : next.openings = w.openings
  log : next.log = w.log

theorem Intact.refl (w : Windows) : Intact w w := ⟨rfl, rfl, rfl, rfl, rfl⟩

/-- A window opened for the packet has a slot for it. -/
structure Storable (spec : ProtocolSpec) (w : Windows) (parsed : ParsedPacketView) : Prop where
  prt_pos : 1 ≤ parsed.prt
  prt_le : parsed.prt ≤ kCpiPrtMax
  expected : (selectOpenSnapshot parsed.cpi spec w.currentControl).nPrt = 0 ∨
    parsed.prt ≤ (selectOpenSnapshot parsed.cpi spec w.currentControl).nPrt
  len_pos : 1 ≤ parsed.payloadLen
  len_le : parsed.payloadLen ≤ kCpiSlotStride

variable {spec : ProtocolSpec} {w : Windows} {parsed : ParsedPacketView}
  {packet : InterpretedPacketView}

private theorem writeActive_accepts (spec : ProtocolSpec) (w : Windows) (ctx : CpiContext)
    (parsed : ParsedPacketView) (packet : InterpretedPacketView) (closing : Closing) :
    (w.writeActive spec ctx parsed packet closing).2 = true ↔
      ∃ bytes, ctx.Takes spec parsed bytes := by
  have outcome := SlotWriter.write_outcome spec ctx parsed
  simp only [writeActive]
  generalize SlotWriter.write spec ctx parsed = result at outcome ⊢
  cases outcome with
  | rejected reason declines =>
      simp only [Bool.false_eq_true, if_false, if_true, false_iff]
      rintro ⟨bytes, takes⟩
      exact declines takes.accepts
  | duplicate accepts present =>
      simp only [if_true, Bool.false_eq_true, false_iff]
      rintro ⟨bytes, takes⟩
      rw [takes.absent] at present
      cases present
  | stored bytes payload accepts absent =>
      simp only [Bool.false_eq_true, if_false, Bool.true_eq_false]
      constructor
      · exact fun _ => ⟨bytes, accepts, payload, absent⟩
      · intro _
        split <;> rfl

theorem writeActive_intact {ctx : CpiContext} (active : w.active = some ctx) {closing : Closing}
    (rejected : (w.writeActive spec ctx parsed packet closing).2 = false) :
    Intact w (w.writeActive spec ctx parsed packet closing).1 := by
  have refused : ¬ ∃ bytes, ctx.Takes spec parsed bytes := fun taken =>
    Bool.false_ne_true (rejected.symm.trans
      ((writeActive_accepts spec w ctx parsed packet closing).mpr taken))
  cases writeActive_refuses w packet refused closing with
  | inl unchanged =>
      rw [unchanged]
      exact .refl w
  | inr repeated =>
      rw [repeated]
      exact ⟨by rw [active]; rfl, rfl, rfl, rfl, rfl⟩

theorem writeLate_intact (rejected : (w.writeLate spec parsed packet).2 = false) :
    Intact w (w.writeLate spec parsed packet).1 := by
  revert rejected
  simp only [writeLate]
  cases late : holding w.previous parsed.cpi with
  | none => exact fun _ => .refl w
  | some previous =>
      have isPrevious := (Option.filter_eq_some_iff.mp late).1
      have outcome := SlotWriter.write_outcome spec previous parsed
      simp only
      generalize SlotWriter.write spec previous parsed = result at outcome ⊢
      cases outcome with
      | rejected reason declines => exact fun _ => ⟨rfl, by rw [isPrevious]; rfl, rfl, rfl, rfl⟩
      | duplicate accepts present => exact fun _ => ⟨rfl, by rw [isPrevious]; rfl, rfl, rfl, rfl⟩
      | stored bytes payload accepts absent => rintro ⟨⟩

private theorem openedCtx_takes_iff (sound : w.Sound spec) (formed : spec.WellFormed)
    (kind : parsed.kind = .dataPacket) (checks : DataChecks spec parsed) (index : PoolIndex) :
    (∃ bytes, (w.openedCtx spec parsed.cpi index).Takes spec parsed bytes) ↔
      w.Storable spec parsed := by
  have held := sound.openedCtx formed parsed.cpi index
  have expected : (w.openedCtx spec parsed.cpi index).header.expectedNPrt =
      (selectOpenSnapshot parsed.cpi spec w.currentControl).nPrt := by
    rw [held.bound.expectedNPrt, openedCtx, bindControlSnapshot_control]
  constructor
  · rintro ⟨bytes, takes⟩
    have within := (isValidSlotCoord_iff formed).mp takes.accepts.coord
    have fits := takes.accepts.expected
    rw [expected] at fits
    exact ⟨within.prt_pos, within.prt_le, fits, takes.accepts.len_pos, takes.accepts.len_le⟩
  · intro storable
    obtain ⟨bytes, payload⟩ := Option.isSome_iff_exists.mp checks.payload
    have within : parsed.coord.Within spec kCpiPrtMax :=
      ⟨storable.prt_pos, storable.prt_le, checks.channel, checks.packetIndex_pos,
        checks.packetIndex_le⟩
    refine ⟨bytes, ⟨checks.valid, kind, (isValidSlotCoord_iff formed).mpr within, ?_,
      checks.payload, storable.len_pos, storable.len_le⟩, payload, ?_⟩
    · rw [expected]
      exact storable.expected
    · have birth := w.openedCtx_birth spec parsed.cpi index
      have none : receivedBy (w.log ++ [.opened (w.openedCtx spec parsed.cpi index)])
          w.openings = [] := by
        rw [receivedBy_append, receivedBy_of_fresh sound.logged]
        rfl
      have absent := held.reception.recorded.bitmapHas_iff formed within
      rw [birth, none] at absent
      simpa using absent

private theorem openAndWrite_log (spec : ProtocolSpec) (w : Windows)
    (valid : ValidData parsed packet)
    (index : PoolIndex)
    (closing : Closing) :
    w.log.length < (w.openAndWrite spec parsed packet (some index) closing).1.log.length := by
  have named : parsed.cpi = (w.openedCtx spec parsed.cpi index).header.cpiId :=
    (w.openedCtx_cpiId spec parsed.cpi index).symm
  have written : Moves spec (.data parsed packet) w (w.openWindow spec parsed.cpi index) _ :=
    writeActive_moves rfl valid rfl named closing
  have longer := written.log.length_le
  simp only [openAndWrite, valid.cpi]
  simp only [openWindow, List.length_append, List.length_singleton] at longer ⊢
  omega

private theorem openAndWrite_intact_iff (sound : w.Sound spec) (formed : spec.WellFormed)
    (checked : Checked spec parsed packet) (index : PoolIndex) (closing : Closing)
    {before : Windows} (prefixed : before.log <+: w.log) :
    ((w.openAndWrite spec parsed packet (some index) closing).2 = false →
      Intact before (w.openAndWrite spec parsed packet (some index) closing).1) ↔
      w.Storable spec parsed := by
  have takes := openedCtx_takes_iff sound formed checked.kind
    (validate_dataChecks checked.kind checked.validated) index
  have accepts := writeActive_accepts spec (w.openWindow spec parsed.cpi index)
    (w.openedCtx spec parsed.cpi index) parsed packet closing
  have longer := openAndWrite_log spec w checked.data index closing
  rw [← takes, ← accepts]
  simp only [openAndWrite, checked.data.cpi] at longer ⊢
  constructor
  · intro intact
    by_contra rejected
    have same := (intact (by simpa using rejected)).log
    have := prefixed.length_le
    rw [same] at longer
    omega
  · intro accepted rejected
    rw [accepted] at rejected
    cases rejected

theorem Sound.switch (sound : w.Sound spec) (formed : spec.WellFormed) {ctx : CpiContext}
    (active : w.active = some ctx) (next : parsed.cpi = ctx.header.cpiId + 1) (closing : Closing) :
    ((w.closePrevious triggerCpiSwitch closing).shift).Sound spec := by
  obtain ⟨kept, vacant⟩ := closePrevious_eq (w := w) triggerCpiSwitch closing
  have closed : (w.closePrevious triggerCpiSwitch closing).Sound spec := by
    cases previous : w.previous with
    | none =>
        simp only [closePrevious, previous]
        exact sound
    | some late =>
        exact sound.move formed (.committedPrevious ctx late parsed {} closing
          (rfl : Op.data parsed {} = _) active next previous)
  have shifted : Move spec (.data parsed {}) w _ _ := .shifted ctx (kept.trans active) vacant
  exact closed.move formed shifted

private theorem processData_intact_iff (sound : w.Sound spec) (formed : spec.WellFormed)
    (checked : Checked spec parsed packet) {choices : Choices}
    (acquired : choices.acquired.isSome = true)
    (switchAcquired : choices.switchAcquired.isSome = true) :
    ((w.processData spec parsed packet choices).2 = false →
      Intact w (w.processData spec parsed packet choices).1) ↔
      ¬ (w.OpensFor parsed ∧ ¬ w.Storable spec parsed) := by
  have valid := checked.data
  obtain ⟨index, acquiredIs⟩ := Option.isSome_iff_exists.mp acquired
  obtain ⟨switchIndex, switchIs⟩ := Option.isSome_iff_exists.mp switchAcquired
  cases active : w.active with
  | none =>
      by_cases known : w.closedRing.contains parsed.cpi = true
      · have stays : ¬ w.OpensFor parsed := by
          rw [opensFor_of_vacant active, known]
          exact Bool.noConfusion
        simp only [processData, active, known, if_true]
        exact ⟨fun _ opens => stays opens.1, fun _ _ => .refl w⟩
      · have unknown := Bool.eq_false_iff.mpr known
        have opens := (opensFor_of_vacant active).mpr unknown
        rw [processData_idle valid active unknown, acquiredIs,
          openAndWrite_intact_iff sound formed checked index _ List.prefix_rfl]
        simp only [opens, true_and, not_not]
  | some ctx =>
      simp only [processData, active]
      by_cases same : parsed.cpi = ctx.header.cpiId
      · have stays : ¬ w.OpensFor parsed := fun opens =>
          succ_ne_self _ (((opensFor_of_active active).mp opens).symm.trans same)
        have judged : CpiAdmission.judge parsed ctx.header.cpiId w.closedRing = .writeActive := by
          simp [CpiAdmission.judge, valid.valid, same]
        simp only [admitPacket, judged]
        exact ⟨fun _ opens => stays opens.1, fun _ => writeActive_intact active⟩
      by_cases next : parsed.cpi = ctx.header.cpiId + 1
      · have opens := (opensFor_of_active active).mpr next
        have storable : Storable spec (w.closePrevious triggerCpiSwitch
            choices.previousClosing).shift parsed ↔ w.Storable spec parsed := by
          have control := w.closePrevious_currentControl triggerCpiSwitch choices.previousClosing
          constructor <;> rintro ⟨pos, le, expected, lenPos, lenLe⟩
          · rw [shift, control] at expected
            exact ⟨pos, le, expected, lenPos, lenLe⟩
          · rw [← control] at expected
            exact ⟨pos, le, expected, lenPos, lenLe⟩
        rw [admitPacket_switch valid next, switchIs, openAndWrite_intact_iff
          (sound.switch formed active next _) formed checked switchIndex _
          (w.closePrevious_log triggerCpiSwitch choices.previousClosing), storable]
        simp only [opens, true_and, not_not]
      · have stays : ¬ w.OpensFor parsed := fun opens => next ((opensFor_of_active active).mp opens)
        rw [admitPacket_late valid same next]
        exact ⟨fun _ opens => stays opens.1, fun _ => writeLate_intact⟩

end Windows

/-- With no active window and a slot free, a checked packet of an unknown CPI is
accepted exactly if the window it opens has a slot for it. -/
theorem System.processDataPacket_first {spec : ProtocolSpec} (formed : spec.WellFormed) {s : System}
    (owned : s.Owned) (sound : s.windows.Sound spec) (inactive : s.activeCtxIndex = none)
    {parsed : ParsedPacketView} (unknown : s.closedRing.contains parsed.cpi = false)
    (free : s.unreturned.length < 15) {packet : InterpretedPacketView}
    (checked : Checked spec parsed packet) :
    (s.processDataPacket spec parsed packet).2 = true ↔ s.windows.Storable spec parsed := by
  obtain ⟨choices, failures, refines, answered⟩ :=
    System.processDataPacket_refines spec owned parsed packet
  obtain ⟨index, acquired⟩ := Option.isSome_iff_exists.mp (answered.opens free)
  have vacant : s.windows.active = none := by
    simp only [System.windows, System.activeCtx, inactive, Option.map_none]
  have takes := Windows.openedCtx_takes_iff sound formed checked.kind
    (validate_dataChecks checked.kind checked.validated) index
  have accepts := Windows.writeActive_accepts spec (s.windows.openWindow spec parsed.cpi index)
    (s.windows.openedCtx spec parsed.cpi index) parsed packet choices.activeClosing
  rw [refines.verdict, Windows.processData_idle checked.data vacant unknown, acquired, ← takes,
    ← accepts]
  simp only [Windows.openAndWrite, checked.data.cpi]

/-- In every reachable state, a checked packet that is rejected without exhausting
the pool leaves the windows intact, except where it opens a window that has no slot
for it. -/
theorem rejected_packet_leaves_windows_iff (config : RxConfig)
    (outputMinCapacity recycleMinCapacity : Nat) (consumerSchedule clock : List Nat)
    (ops : List Op) (valid : ∀ op ∈ ops, op.Valid) (parsed : ParsedPacketView)
    (packet : InterpretedPacketView) (checked : Checked (protocolSpecFromConfig config) parsed packet) :
    let s := Machine.run (System.step (protocolSpecFromConfig config)) ops
      (System.attached outputMinCapacity recycleMinCapacity consumerSchedule clock)
    let result := s.processDataPacket (protocolSpecFromConfig config) parsed packet
    result.1.metrics.poolExhaustionCount = s.metrics.poolExhaustionCount →
    ((result.2 = false → Windows.Intact s.windows result.1.windows) ↔
      ¬ (s.windows.OpensFor parsed ∧
        ¬ s.windows.Storable (protocolSpecFromConfig config) parsed)) := by
  intro s result unexhausted
  have formed := protocolSpecFromConfig_wellFormed config
  have owned : s.Owned := System.run_owned _ ops
    (System.attached_owned outputMinCapacity recycleMinCapacity consumerSchedule clock)
  have sound : s.windows.Sound (protocolSpecFromConfig config) :=
    Windows.run_sound formed (System.attached_owned ..) (Windows.fresh_sound ..) valid
  obtain ⟨choices, failures, refines, answered⟩ :=
    System.processDataPacket_refines (protocolSpecFromConfig config) owned parsed packet
  have none : failures = 0 := by
    have counted := refines.exhaustion.symm.trans unexhausted
    omega
  obtain ⟨acquired, switchAcquired⟩ := answered.acquired none
  rw [show result.2 = _ from refines.verdict, show result.1.windows = _ from refines.windows]
  exact Windows.processData_intact_iff sound formed checked acquired switchAcquired

/-- A packet with PRT 0 passes the validator and opens a window that rejects it. -/
theorem rejected_packet_opens_window :
    let spec := protocolSpecFromConfig pairConfig
    let parsed := ParsedPacketView.zeroData spec 1 0 0 1 0
    let packet := ProtocolSequenceInterpreter.interpret spec parsed
    let s := System.attached 32 32 [] []
    let result := s.processDataPacket spec parsed packet
    Checked spec parsed packet ∧
      result.1.metrics.poolExhaustionCount = s.metrics.poolExhaustionCount ∧
      result.2 = false ∧ ¬ Windows.Intact s.windows result.1.windows := by
  intro spec parsed packet s result
  refine ⟨⟨rfl, by decide +kernel, rfl, by decide +kernel⟩, by decide +kernel, by decide +kernel,
    fun intact => ?_⟩
  have opened : result.1.openings = s.openings + 1 := by decide +kernel
  have same : result.1.openings = s.openings := intact.openings
  omega

/-- The first packet of CPI 1 again, once it is stored. -/
theorem rejected_packet_leaves_windows_iff_repeated :
    let spec := protocolSpecFromConfig pairConfig
    let parsed := ParsedPacketView.zeroData spec 1 1 0 1 0
    let packet := ProtocolSequenceInterpreter.interpret spec parsed
    let s := Machine.run (System.step spec) [.zeroData spec 1 1 0 1 0]
      (System.attached 32 32 [] [])
    let result := s.processDataPacket spec parsed packet
    (result.2 = false → Windows.Intact s.windows result.1.windows) ↔
      ¬ (s.windows.OpensFor parsed ∧ ¬ s.windows.Storable spec parsed) := by
  intro spec parsed packet s result
  have checked : Checked spec parsed packet := ⟨rfl, by decide +kernel, rfl, by decide +kernel⟩
  exact rejected_packet_leaves_windows_iff pairConfig 32 32 [] [] [.zeroData spec 1 1 0 1 0]
    (by simp) parsed packet checked (by decide +kernel)

end RxTech
