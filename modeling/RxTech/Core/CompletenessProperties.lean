import RxTech.Core.WindowInvariant

/-!
# Soundness of complete outputs

An output that is decided to be complete has all its packets, as long as no
control packet shrinks a fixed binding below what was already received.
-/

set_option autoImplicit false

namespace RxTech

/-- The packets of the context lie within the PRTs it is bound to, if it is bound
to any. -/
def CpiContext.Contained (ctx : CpiContext) : Prop :=
  ctx.control.nPrt = 0 ∨ ctx.header.observedNPrt ≤ ctx.control.nPrt

theorem CpiContext.Contained.receive {spec : ProtocolSpec} {ctx : CpiContext}
    {parsed : ParsedPacketView} {bytes : ByteView} (contained : ctx.Contained)
    (bound : Bound spec ctx) (takes : ctx.Takes spec parsed bytes) :
    (ctx.receive spec parsed bytes).Contained := by
  have expected := takes.accepts.expected
  rw [bound.expectedNPrt] at expected
  rw [Contained, receive_control, receive_observed]
  rcases contained with unbound | contained
  · exact .inl unbound
  · rcases expected with unbound | within
    · exact .inl unbound
    · exact .inr (Nat.max_le.mpr ⟨contained, within⟩)

/-- A legal control packet that meets a fixed binding announces no fewer PRTs than
were observed. -/
def CpiContext.Covers (spec : ProtocolSpec) (ctx : CpiContext) (parsed : ParsedPacketView) : Prop :=
  ctx.control.bindSource = .fixed → LegalControl spec parsed →
    ctx.header.observedNPrt ≤ parsed.prt

instance (spec : ProtocolSpec) (ctx : CpiContext) (parsed : ParsedPacketView) :
    Decidable (ctx.Covers spec parsed) :=
  inferInstanceAs (Decidable (_ → _ → _))

theorem CpiContext.Contained.merge {spec : ProtocolSpec} {ctx : CpiContext}
    {parsed : ParsedPacketView} (contained : ctx.Contained) (formed : spec.WellFormed)
    (bound : Bound spec ctx) (covers : ctx.Covers spec parsed) :
    (mergeControlSnapshot ctx (makeControlSnapshot parsed spec)).Contained := by
  have merged := mergeControlSnapshot_merged ctx (makeControlSnapshot parsed spec)
  generalize mergeControlSnapshot ctx (makeControlSnapshot parsed spec) = next at merged ⊢
  cases merged with
  | kept | conflicted => exact contained
  | converged provisional control enough =>
      refine .inr ?_
      simp only [bindControlSnapshot_control, bindControlSnapshot_observed]
      exact enough
  | replaced fixed control =>
      have legal := makeControlSnapshot_control control
      refine .inr ?_
      rw [bindControlSnapshot_control, bindControlSnapshot_observed,
        makeControlSnapshot_legal legal]
      exact covers fixed legal
  | rebound fixed other =>
      have same := bound.rebound_nPrt formed fixed other
      rw [Contained, bindControlSnapshot_control, bindControlSnapshot_observed, same]
      exact contained

/-- Every packet of the bound PRTs is in the context. -/
def CpiOutput.HasAllPackets (spec : ProtocolSpec) (output : CpiOutput) (ctx : CpiContext) : Prop :=
  1 ≤ output.control.nPrt ∧
    ∀ prt channel packetIndex, 1 ≤ prt → prt ≤ output.control.nPrt →
      channel < spec.channelsPerPrt → 1 ≤ packetIndex → packetIndex ≤ spec.packetsPerChannel →
      ctx.hasPacket prt channel packetIndex = true

namespace Windows

/-- A legal control packet for the active window does not shrink a fixed binding
below the PRTs observed so far. -/
def KeepsObserved (spec : ProtocolSpec) (w : Windows) (op : Op) : Prop :=
  ∀ parsed, op = .control parsed → ValidControl parsed → ∀ ctx, w.active = some ctx →
    ctx.header.cpiId = parsed.cpi → ctx.Covers spec parsed

instance (spec : ProtocolSpec) (w : Windows) (op : Op) : Decidable (w.KeepsObserved spec op) :=
  match op with
  | .control parsed => decidable_of_iff (ValidControl parsed → ∀ ctx ∈ w.active,
      ctx.header.cpiId = parsed.cpi → ctx.Covers spec parsed)
      ⟨fun keeps _ same => by cases same; exact keeps, fun keeps => keeps parsed rfl⟩
  | .data _ _ | .timeout _ | .drainRecycle | .consumer | .shutdown =>
      isTrue fun _ impossible => (nomatch impossible)

/-- The active window is contained, and so was every complete one. -/
structure CompleteOutputs (spec : ProtocolSpec) (w : Windows) : Prop where
  contained : ∀ ctx, w.active = some ctx → ctx.Contained
  outputs : ∀ output ctx delivery, .produced output ctx delivery ∈ w.log →
    output.decision = .completeOk → output.HasAllPackets spec ctx

variable {spec : ProtocolSpec}

private theorem outputs_append {log events : List WindowEvent}
    (outputs : ∀ output ctx delivery, .produced output ctx delivery ∈ log →
      output.decision = .completeOk → output.HasAllPackets spec ctx)
    (new : ∀ output ctx delivery, .produced output ctx delivery ∈ events →
      output.decision = .completeOk → output.HasAllPackets spec ctx) :
    ∀ output ctx delivery, .produced output ctx delivery ∈ log ++ events →
      output.decision = .completeOk → output.HasAllPackets spec ctx := by
  intro output ctx delivery member
  rcases List.mem_append.mp member with old | added
  · exact outputs output ctx delivery old
  · exact new output ctx delivery added

private theorem Produced.hasAll {log : List WindowEvent} {openings : Nat}
    {ctx sealedCtx : CpiContext}
    {decision : CpiDecision} {output : CpiOutput} (produced : Produced ctx decision output sealedCtx)
    (held : Held spec log openings ctx) (contained : ctx.Contained) (full : ctx.isFull = true) :
    output.HasAllPackets spec sealedCtx := by
  have pos := CpiContext.nPrt_pos_of_isFull held.bound full
  have within : ctx.header.observedNPrt ≤ ctx.control.nPrt := by
    rcases contained with unbound | within
    · omega
    · exact within
  rw [CpiOutput.HasAllPackets, produced.control]
  refine ⟨pos, fun prt channel packetIndex prtPos prtLe channelLt packetPos packetLe => ?_⟩
  rw [CpiContext.hasPacket, produced.summary]
  exact held.reception.complete held.bound full within
    (show SlotCoord.Within spec _ ⟨prt, channel, packetIndex⟩ from
      ⟨prtPos, prtLe, channelLt, packetPos, packetLe⟩)

theorem CompleteOutputs.move (formed : spec.WellFormed) {op : Op} {start before after : Windows}
    (keeps : start.KeepsObserved spec op) (sound : before.Sound spec)
    (move : Move spec op start before after) (complete : before.CompleteOutputs spec) :
    after.CompleteOutputs spec := by
  cases move with
  | judged accepted => exact ⟨complete.contained, complete.outputs⟩
  | staged parsed control valid => exact ⟨complete.contained, complete.outputs⟩
  | reboundActive ctx parsed control valid active same =>
      refine ⟨fun other is => ?_, outputs_append complete.outputs (by simp)⟩
      obtain rfl := Option.some.inj is
      exact (complete.contained ctx active).merge formed (sound.active ctx active).bound
        (keeps parsed control valid ctx active same)
  | reboundPrevious ctx parsed control valid notActive previous same =>
      exact ⟨complete.contained, outputs_append complete.outputs (by simp)⟩
  | discardedPrevious ctx marks previous =>
      exact ⟨complete.contained, outputs_append complete.outputs (by simp)⟩
  | discardedActive ctx marks active =>
      exact ⟨fun _ impossible => (nomatch impossible), outputs_append complete.outputs (by simp)⟩
  | committedPrevious active previous parsed packet closing data isActive next isPrevious =>
      obtain ⟨nextOutputId, output, sealedCtx, produced, closed⟩ := sound.commits isPrevious closing
      rw [closed]
      refine ⟨complete.contained, outputs_append complete.outputs ?_⟩
      intro other ctx delivery member decision
      simp only [List.mem_singleton, WindowEvent.produced.injEq] at member
      obtain ⟨rfl, -, -⟩ := member
      exact absurd (produced.decision.symm.trans decision) (cutDecision_ne_completeOk previous)
  | shifted ctx active vacant =>
      exact ⟨fun _ impossible => (nomatch impossible), complete.outputs⟩
  | opened index parsed packet data inactive opens =>
      refine ⟨fun other is => ?_, outputs_append complete.outputs (by simp)⟩
      obtain rfl := Option.some.inj is
      refine .inr ?_
      rw [openedCtx, bindControlSnapshot_observed]
      exact Nat.zero_le _
  | repeatedActive ctx active =>
      refine ⟨fun other is => ?_, complete.outputs⟩
      obtain rfl := Option.some.inj is
      exact complete.contained ctx active
  | repeatedPrevious ctx previous => exact ⟨complete.contained, complete.outputs⟩
  | storedActive ctx parsed packet bytes data active same takes stays =>
      refine ⟨fun other is => ?_, outputs_append complete.outputs (by simp)⟩
      obtain rfl := Option.some.inj is
      exact (complete.contained ctx active).receive (sound.active ctx active).bound takes
  | filledActive ctx parsed packet bytes closing data active same takes closes =>
      obtain ⟨nextOutputId, output, sealedCtx, decision, is, produced, closed⟩ :=
        sound.fills formed active same takes closes closing
      rw [closed]
      refine ⟨fun _ impossible => (nomatch impossible), outputs_append complete.outputs ?_⟩
      intro other otherCtx delivery member completes
      simp only [List.mem_cons, List.not_mem_nil, or_false, reduceCtorEq, false_or,
        WindowEvent.produced.injEq] at member
      obtain ⟨rfl, rfl, -⟩ := member
      have full : (ctx.receive spec parsed bytes).isFull = true := by
        by_contra short
        rw [produced.decision, is, if_neg short] at completes
        exact cutDecision_ne_completeOk _ completes
      exact produced.hasAll ((sound.active ctx active).receive formed same takes)
        ((complete.contained ctx active).receive (sound.active ctx active).bound takes) full
  | storedPrevious active previous parsed packet bytes data isActive isPrevious other notNext same
      takes =>
      exact ⟨complete.contained, outputs_append complete.outputs (by simp)⟩

end Windows

/-- Every complete output has all its packets, in a run whose control packets keep
the observed PRTs. -/
theorem complete_outputs_have_all_packets (config : RxConfig)
    (outputMinCapacity recycleMinCapacity : Nat) (consumerSchedule clock : List Nat)
    (ops : List Op) (valid : ∀ op ∈ ops, op.Valid)
    (keeps : Machine.Along (System.step (protocolSpecFromConfig config))
      (fun s => s.windows.KeepsObserved (protocolSpecFromConfig config)) ops
      (System.attached outputMinCapacity recycleMinCapacity consumerSchedule clock)) :
    ∀ output ctx delivery, .produced output ctx delivery ∈
        (Machine.run (System.step (protocolSpecFromConfig config)) ops
          (System.attached outputMinCapacity recycleMinCapacity consumerSchedule clock)).windowLog →
      output.decision = .completeOk →
      output.HasAllPackets (protocolSpecFromConfig config) ctx := by
  have formed := protocolSpecFromConfig_wellFormed config
  have start : (System.attached outputMinCapacity recycleMinCapacity consumerSchedule
      clock).windows.CompleteOutputs (protocolSpecFromConfig config) :=
    ⟨fun _ impossible => (nomatch impossible), fun _ _ _ member => (nomatch member)⟩
  have complete := Windows.run_preserves formed
    (fun op begun before after _ keeps sound move complete =>
      Windows.CompleteOutputs.move formed keeps sound move complete)
    (System.attached_owned ..) (Windows.fresh_sound ..) start valid keeps
  exact complete.2.outputs

/-- One channel of two packets, three PRTs expected until a control packet says
otherwise. -/
def shrinkingConfig : RxConfig :=
  { protocolChannelsPerPrt := 1, protocolPacketsPerChannel := 2, protocolExpectedNPrt := 3 }

/-- The illegal control packet stages a fixed binding; the legal one then shrinks
it to one PRT while the second is already there. -/
def shrinkingOps : List Op :=
  let spec := protocolSpecFromConfig shrinkingConfig
  [.announce 1 0, .zeroData spec 1 2 0 1 0, .zeroData spec 1 2 0 2 0, .announce 1 1,
    .zeroData spec 1 1 0 1 0]

theorem complete_output_lacks_packet :
    (∀ op ∈ shrinkingOps, op.Valid) ∧ ∃ output ctx, .produced output ctx .pushed ∈
        (Machine.run (System.step (protocolSpecFromConfig shrinkingConfig)) shrinkingOps
          (System.attached 32 32 [] [])).windowLog ∧
      output.decision = .completeOk ∧
      ¬ output.HasAllPackets (protocolSpecFromConfig shrinkingConfig) ctx := by
  refine ⟨by simp [shrinkingOps], ?_⟩
  have found : (Machine.run (System.step (protocolSpecFromConfig shrinkingConfig)) shrinkingOps
      (System.attached 32 32 [] [])).windowLog.any (fun event => match event with
        | .produced output ctx .pushed => output.decision == .completeOk &&
            output.control.nPrt == 1 && !ctx.hasPacket 1 0 2
        | _ => false) = true := by decide +kernel
  obtain ⟨event, member, holds⟩ := List.any_eq_true.mp found
  cases event with
  | produced output ctx delivery =>
      cases delivery with
      | pushed =>
          simp only [Bool.and_eq_true, beq_iff_eq, Bool.not_eq_eq_eq_not, Bool.not_true] at holds
          obtain ⟨⟨decision, nPrt⟩, missing⟩ := holds
          refine ⟨output, ctx, member, decision, fun all => ?_⟩
          have present := all.2 1 0 2 (by decide) (by omega) (by decide) (by decide) (by decide)
          rw [missing] at present
          cases present
      | detached | dropped => cases holds
  | opened | stored | rebound | discarded => cases holds

/-- The legal control packet shrinks the binding to the two PRTs that are there. -/
def coveringOps : List Op :=
  let spec := protocolSpecFromConfig shrinkingConfig
  [.announce 1 0, .zeroData spec 1 2 0 1 0, .zeroData spec 1 2 0 2 0, .announce 1 2,
    .zeroData spec 1 1 0 1 0, .zeroData spec 1 1 0 2 0]

theorem complete_outputs_have_all_packets_covering :
    let spec := protocolSpecFromConfig shrinkingConfig
    let log := (Machine.run (System.step spec) coveringOps (System.attached 32 32 [] [])).windowLog
    log.any (fun event => match event with
        | .produced output _ _ => output.decision == .completeOk
        | .opened _ | .stored _ _ | .rebound _ | .discarded _ => false) = true ∧
      ∀ output ctx delivery, .produced output ctx delivery ∈ log →
        output.decision = .completeOk → output.HasAllPackets spec ctx :=
  ⟨by decide +kernel, complete_outputs_have_all_packets shrinkingConfig 32 32 [] [] coveringOps
    (by simp [coveringOps]) (by decide +kernel)⟩

end RxTech
