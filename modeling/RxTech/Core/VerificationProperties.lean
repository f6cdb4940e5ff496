import RxTech.Core.CompletenessProperties
import RxTech.Core.StorageProperties
import RxTech.Cpi.Verification

/-!
# The verifier and the finalizer

Where PRT counts are fixed, an output passes verification exactly if it was
decided to be complete and no duplicate was counted.
-/

set_option autoImplicit false

namespace RxTech

/-- The output is what finalizing its context reads off, up to the id that the
ring gives it; a complete one comes from a full context. -/
structure CpiOutput.ReadOff (spec : ProtocolSpec) (output : CpiOutput) (ctx : CpiContext) :
    Prop where
  made : output = { ctx.makeOutput with outputId := output.outputId }
  bound : Bound spec ctx
  full : output.decision = .completeOk → ctx.isFull = true

/-! ## A context with all its packets -/

section AllPackets

variable {spec : ProtocolSpec} {output : CpiOutput} {ctx : CpiContext}

/-- Every channel of the bound PRTs has counted its packets. -/
theorem CpiOutput.HasAllPackets.channelCount (all : output.HasAllPackets spec ctx)
    (consistent : ctx.Consistent spec) (formed : spec.WellFormed) {index channel : Nat}
    (bound : index < output.control.nPrt) (inside : channel < spec.channelsPerPrt) :
    (ctx.prtSummary index).chRecvCount channel = spec.packetsPerChannel := by
  have small : ∀ bit ∈ List.range spec.packetsPerChannel, bit < 16 := by
    intro bit member
    have below := List.mem_range.mp member
    have limit := formed.packets_le
    omega
  have set (bit : Nat) : ((ctx.prtSummary index).chPktBitmap channel).testBit bit = true ↔
      bit ∈ List.range spec.packetsPerChannel := by
    rw [List.mem_range]
    constructor
    · exact consistent.lowBits index channel bit
    · intro below
      exact all.2 (index + 1) channel (bit + 1) (by omega) bound inside (by omega) below
  rw [consistent.channelCount, Bits.popcount_eq_length List.nodup_range small set,
    List.length_range]

theorem CpiOutput.HasAllPackets.complete (all : output.HasAllPackets spec ctx)
    (consistent : ctx.Consistent spec) (formed : spec.WellFormed) {index : Nat}
    (bound : index < output.control.nPrt) :
    Bits.hasAny (ctx.prtSummary index).flags prtFlagComplete = true :=
  (consistent.complete index).mpr fun _ inside => all.channelCount consistent formed bound inside

theorem CpiOutput.HasAllPackets.readyChannels (all : output.HasAllPackets spec ctx)
    (consistent : ctx.Consistent spec) (formed : spec.WellFormed) {index : Nat}
    (bound : index < output.control.nPrt) :
    (ctx.prtSummary index).readyChannelCount = spec.channelsPerPrt := by
  have counted : (List.range spec.channelsPerPrt).countP (fun channel =>
      (ctx.prtSummary index).chRecvCount channel == spec.packetsPerChannel) =
        (List.range spec.channelsPerPrt).length := by
    refine List.countP_eq_length.mpr fun channel member => ?_
    rw [beq_iff_eq]
    exact all.channelCount consistent formed bound (List.mem_range.mp member)
  rw [consistent.readyChannels, counted, List.length_range]

/-- As many PRTs are ready as are bound. -/
theorem CpiOutput.HasAllPackets.readyPrt (all : output.HasAllPackets spec ctx)
    (consistent : ctx.Consistent spec) (formed : spec.WellFormed)
    (few : output.control.nPrt ≤ kCpiPrtMax) :
    output.control.nPrt ≤ ctx.header.readyPrtCount := by
  have counted := Counting.countP_range_lt output.control.nPrt kCpiPrtMax
  have ready : (List.range kCpiPrtMax).countP (fun index => decide (index < output.control.nPrt)) ≤
      (List.range kCpiPrtMax).countP fun index =>
        Bits.hasAny (ctx.prtSummary index).flags prtFlagComplete := by
    refine List.countP_mono_left fun index _ below => ?_
    exact all.complete consistent formed (of_decide_eq_true below)
  rw [consistent.readyPrt]
  omega

end AllPackets

/-! ## One output -/

/-- The verifier, reading the output together with its context, passes it exactly
if the finalizer decided it to be complete and it had no duplicate; and then
every slot of its PRTs is filled. -/
structure VerifierAgrees (spec : ProtocolSpec) (output : CpiOutput) (ctx : CpiContext) : Prop where
  passed : (CpiVerifier.verify output (some ctx.prtSummary) spec).passed = true ↔
    output.decision = .completeOk ∧ output.duplicateCount = 0
  filled : (CpiVerifier.verify output (some ctx.prtSummary) spec).passed = true →
    1 ≤ output.control.nPrt ∧ output.view.nPrt = output.control.nPrt ∧
      ∀ coord, SlotCoord.Within spec output.control.nPrt coord →
        0 < ctx.slotValidBytes (coord.slot spec)

section ReadOff

variable {spec : ProtocolSpec} {output : CpiOutput} {ctx : CpiContext}

theorem CpiOutput.ReadOff.control (read : output.ReadOff spec ctx) :
    output.control = ctx.control := by
  rw [read.made]
  rfl

theorem CpiOutput.ReadOff.madeFrom (read : output.ReadOff spec ctx) :
    output.control.MadeFrom spec := by
  rw [read.control]
  exact read.bound.madeFrom

theorem CpiOutput.ReadOff.readyPrt (read : output.ReadOff spec ctx) :
    output.readyPrtCount = ctx.header.readyPrtCount := by
  rw [read.made]
  rfl

theorem CpiOutput.ReadOff.missing (read : output.ReadOff spec ctx) (full : ctx.isFull = true) :
    output.missingSlotCount = 0 := by
  simp only [CpiContext.isFull, decide_eq_true_eq] at full
  rw [read.made]
  exact if_neg (Nat.not_lt.mpr full.2)

theorem CpiOutput.ReadOff.expectedPrtCount (read : output.ReadOff spec ctx)
    (pos : 1 ≤ output.control.nPrt) :
    CpiVerification.expectedPrtCount output = output.control.nPrt :=
  if_pos ⟨read.madeFrom.valid_iff.mpr pos, pos⟩

theorem CpiOutput.ReadOff.view_nPrt (read : output.ReadOff spec ctx)
    (pos : 1 ≤ output.control.nPrt) : output.view.nPrt = output.control.nPrt := by
  have valid := read.madeFrom.valid_iff.mpr pos
  rw [read.control] at pos valid ⊢
  rw [read.made]
  exact if_pos ⟨valid, pos⟩

theorem CpiOutput.ReadOff.covers (read : output.ReadOff spec ctx) (formed : spec.WellFormed)
    (consistent : ctx.Consistent spec) (all : output.HasAllPackets spec ctx) {index : Nat}
    (bound : index < output.control.nPrt) :
    CpiVerification.CoversPrt (CpiVerification.expectedCh spec output)
      (CpiVerification.expectedPkt spec output) (ctx.prtSummary index) := by
  have channels : CpiVerification.expectedCh spec output = spec.channelsPerPrt := by
    have pos := formed.channels_pos
    rw [CpiVerification.expectedCh, read.madeFrom.channelCount, if_pos pos]
  have packets : CpiVerification.expectedPkt spec output = spec.packetsPerChannel := by
    have pos := formed.packets_pos
    rw [CpiVerification.expectedPkt, read.madeFrom.packetsPerChannel, if_pos pos]
  rw [channels, packets]
  constructor
  · exact Nat.le_of_eq (all.readyChannels consistent formed bound).symm
  · intro channel inside
    have inSpec : channel < spec.channelsPerPrt := by omega
    exact Nat.le_of_eq (all.channelCount consistent formed bound inSpec).symm

theorem CpiOutput.ReadOff.agrees (read : output.ReadOff spec ctx) (formed : spec.WellFormed)
    (consistent : ctx.Consistent spec)
    (all : output.decision = .completeOk → output.HasAllPackets spec ctx) :
    VerifierAgrees spec output ctx := by
  have passed := CpiVerifier.verify_passed_iff output (some ctx.prtSummary) spec
  constructor
  · rw [passed]
    constructor
    · intro clean
      exact ⟨clean.1, clean.2.2.1⟩
    · intro both
      obtain ⟨complete, single⟩ := both
      have every := all complete
      rw [read.expectedPrtCount every.1]
      refine ⟨complete, read.missing (read.full complete), single, ?_, ?_⟩
      · rw [read.readyPrt]
        exact every.readyPrt consistent formed read.madeFrom.nPrt_le
      · intro summary is index bound
        cases is
        exact read.covers formed consistent every bound
  · intro passes
    have every := all (passed.mp passes).1
    refine ⟨every.1, read.view_nPrt every.1, fun coord within => ?_⟩
    have inContext : coord.Within spec kCpiPrtMax :=
      { within with prt_le := Nat.le_trans within.prt_le read.madeFrom.nPrt_le }
    rw [consistent.validBytes coord inContext]
    exact every.2 coord.prt coord.channel coord.packetIndex within.prt_pos within.prt_le
      within.channel_lt within.packetIndex_pos within.packetIndex_le

end ReadOff

/-! ## Every output -/

namespace Windows

variable {spec : ProtocolSpec}

/-- Every output was read off the context that is recorded with it. -/
def ReadsOff (spec : ProtocolSpec) (w : Windows) : Prop :=
  ∀ output ctx delivery, .produced output ctx delivery ∈ w.log → output.ReadOff spec ctx

private theorem numbered_readOff (w : Windows) {ctx : CpiContext} (bound : Bound spec ctx)
    {decision : CpiDecision} (full : decision = .completeOk → ctx.isFull = true)
    (trigger now : Nat) (delivery : Delivery) :
    (w.numbered (ctx.seal trigger now decision).makeOutput delivery).ReadOff spec
      (ctx.seal trigger now decision) := by
  have stillBound : Bound spec (ctx.seal trigger now decision) := bound.of_binding rfl
  cases delivery <;> exact ⟨rfl, stillBound, full⟩

theorem ReadsOff.append {w : Windows} (reads : w.ReadsOff spec) {next : Windows}
    {events : List WindowEvent} (log : next.log = w.log ++ events)
    (new : ∀ output ctx delivery, .produced output ctx delivery ∈ events →
      output.ReadOff spec ctx) : next.ReadsOff spec := by
  intro output ctx delivery member
  rw [log] at member
  rcases List.mem_append.mp member with old | added
  · exact reads output ctx delivery old
  · exact new output ctx delivery added

theorem ReadsOff.quiet {w : Windows} (reads : w.ReadsOff spec) {next : Windows}
    {event : WindowEvent} (log : next.log = w.log ++ [event]) (silent : event.delivery = none) :
    next.ReadsOff spec := by
  refine reads.append log fun output ctx delivery member => ?_
  rw [List.mem_singleton] at member
  rw [← member] at silent
  cases silent

theorem ReadsOff.move (formed : spec.WellFormed) {op : Op} {start before after : Windows}
    (sound : before.Sound spec) (move : Move spec op start before after)
    (reads : before.ReadsOff spec) : after.ReadsOff spec := by
  cases move with
  | judged | staged | shifted | repeatedActive | repeatedPrevious => exact reads
  | reboundActive | reboundPrevious | discardedPrevious | discardedActive | opened | storedActive
  | storedPrevious => exact reads.quiet rfl rfl
  | committedPrevious active previous parsed packet closing data isActive next isPrevious =>
      have held := sound.previous previous isPrevious
      obtain ⟨nextOutputId, closed⟩ := closePrevious_produces isPrevious held.active
        (decide?_switch _) closing
      refine reads.append (congrArg Windows.log closed) fun output ctx delivery member => ?_
      rw [List.mem_singleton, WindowEvent.produced.injEq] at member
      obtain ⟨rfl, rfl, -⟩ := member
      exact numbered_readOff _ held.bound
        (fun impossible => absurd impossible (cutDecision_ne_completeOk previous)) _ _ _
  | filledActive ctx parsed packet bytes closing data active same takes closes =>
      have held := (sound.active ctx active).receive formed same takes
      have raised := CpiContext.receive_fullReady formed takes
      rw [untriggered_fullReady (sound.untriggered ctx active), Bool.false_or] at raised
      have decides := decide?_of_mask (ctx.receive spec parsed bytes).header.readyPrtCount closes
      rw [raised] at decides
      have isActive : Windows.active { before with
          active := some (ctx.receive spec parsed bytes)
          log := before.log ++ [.stored parsed (ctx.receive spec parsed bytes)] } =
        some (ctx.receive spec parsed bytes) := rfl
      obtain ⟨nextOutputId, closed⟩ := closeActive_produces isActive held.active decides closing
      have stored : Windows.ReadsOff spec { before with
          active := some (ctx.receive spec parsed bytes)
          log := before.log ++ [.stored parsed (ctx.receive spec parsed bytes)] } :=
        reads.quiet rfl rfl
      refine stored.append (congrArg Windows.log closed) fun output other delivery member => ?_
      rw [List.mem_singleton, WindowEvent.produced.injEq] at member
      obtain ⟨rfl, rfl, -⟩ := member
      refine numbered_readOff _ held.bound (fun complete => ?_) _ _ _
      by_contra short
      rw [if_neg short] at complete
      exact cutDecision_ne_completeOk _ complete

/-- Without dynamic PRT counts no control packet is legal, so none shrinks a
binding. -/
theorem keepsObserved_of_fixed (fixed : spec.dynamicPrtEnabled = false) (w : Windows) (op : Op) :
    w.KeepsObserved spec op := by
  intro parsed control valid ctx active same isFixed legal
  have dynamic := legal.1
  rw [fixed] at dynamic
  cases dynamic

private theorem run_agrees (formed : spec.WellFormed) (fixed : spec.dynamicPrtEnabled = false)
    {rings : Option (Nat × Nat)} {consumerSchedule clock : List Nat} {ops : List Op}
    (valid : ∀ op ∈ ops, op.Valid) {output : CpiOutput} {ctx : CpiContext} {delivery : Delivery}
    (member : .produced output ctx delivery ∈ (Machine.run (System.step spec) ops
      (System.withRings rings consumerSchedule clock)).windowLog) :
    VerifierAgrees spec output ctx := by
  have owned := System.withRings_owned rings consumerSchedule clock
  have sound : (System.withRings rings consumerSchedule clock).windows.Sound spec :=
    fresh_sound ..
  have complete : (System.withRings rings consumerSchedule clock).windows.CompleteOutputs spec :=
    ⟨fun _ impossible => (nomatch impossible), fun _ _ _ impossible => (nomatch impossible)⟩
  have reads : (System.withRings rings consumerSchedule clock).windows.ReadsOff spec :=
    fun _ _ _ impossible => (nomatch impossible)
  have archives := run_archives formed owned sound
    (fun _ _ _ impossible => (nomatch impossible)) valid
  have always : ∀ (s : System) op, s.windows.KeepsObserved spec op :=
    fun s op => keepsObserved_of_fixed fixed s.windows op
  have both := run_preserves formed
    (fun op start before after _ keeps sound move
        (holds : before.CompleteOutputs spec ∧ before.ReadsOff spec) =>
      ⟨CompleteOutputs.move formed keeps sound move holds.1,
        ReadsOff.move formed sound move holds.2⟩)
    owned sound ⟨complete, reads⟩ valid (Machine.along_of_forall always ops _)
  have consistent := (archives.2 output ctx delivery member).1.reception.consistent formed
  exact (both.2.2 output ctx delivery member).agrees formed consistent
    (both.2.1.outputs output ctx delivery member)

end Windows

/-- With fixed PRT counts the verifier passes an output exactly if the finalizer
decided it to be complete and it had no duplicate: when it is produced, and as
long as it has not been returned. -/
theorem verifier_agrees_with_finalizer (config : RxConfig)
    (fixed : config.protocolDynamicPrtEnabled = false) (rings : Option (Nat × Nat))
    (consumerSchedule clock : List Nat) (ops : List Op) (valid : ∀ op ∈ ops, op.Valid) :
    let spec := protocolSpecFromConfig config
    let s := Machine.run (System.step spec) ops (System.withRings rings consumerSchedule clock)
    (∀ output ctx delivery, .produced output ctx delivery ∈ s.windowLog →
        VerifierAgrees spec output ctx) ∧
      ∀ output ∈ s.unreturned, ∃ index, output.poolIndex = some index ∧
        VerifierAgrees spec output (s.ctxPool.contexts index) := by
  intro spec s
  have formed := protocolSpecFromConfig_wellFormed config
  constructor
  · intro output ctx delivery member
    exact Windows.run_agrees formed fixed valid member
  · intro output member
    have owned : s.Owned :=
      System.run_owned spec ops (System.withRings_owned rings consumerSchedule clock)
    obtain ⟨index, named, made⟩ := owned.linked.frozen output member
    exact ⟨index, named, Windows.run_agrees formed fixed valid made⟩

/-- CPI 1 once, CPI 2 with a packet twice, and a packet of CPI 3 that is cut off. -/
def verifiedOps : List Op :=
  let spec := protocolSpecFromConfig pairConfig
  [.zeroData spec 1 1 0 1 0, .zeroData spec 1 1 0 2 0, .zeroData spec 2 1 0 2 0,
    .zeroData spec 2 1 0 2 0, .zeroData spec 2 1 0 1 0, .zeroData spec 3 1 0 1 spec.magicTail]

private theorem verifiedOps_valid : ∀ op ∈ verifiedOps, op.Valid := by
  simp [verifiedOps]

theorem verifier_agrees_with_finalizer_pairs :
    let spec := protocolSpecFromConfig pairConfig
    let s := Machine.run (System.step spec) verifiedOps (System.withRings (some (32, 32)) [] [])
    (s.unreturned.map fun output => (output.decision, output.duplicateCount)) =
        [(.completeOk, 0), (.completeOk, 1), (.abnormalCutoffCommit, 0)] ∧
      (∀ output ctx delivery, .produced output ctx delivery ∈ s.windowLog →
        VerifierAgrees spec output ctx) ∧
      ∀ output ∈ s.unreturned, ∃ index, output.poolIndex = some index ∧
        VerifierAgrees spec output (s.ctxPool.contexts index) :=
  ⟨by decide +kernel, verifier_agrees_with_finalizer pairConfig rfl (some (32, 32)) [] []
    verifiedOps verifiedOps_valid⟩

end RxTech
