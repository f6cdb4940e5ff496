import RxTech.Core.Coordinator

/-!
# Counting packets

How the operations of the coordinator move the counters of received and dropped
packets: only a data packet that is not accepted is dropped, and once.
-/

set_option autoImplicit false

namespace RxTech

/-- The counters of received and dropped packets. -/
def MetricsCollector.tally (metrics : MetricsCollector) : Nat × Nat :=
  (metrics.rxPackets, metrics.droppedPackets)

namespace System

def tally (s : System) : Nat × Nat := s.metrics.tally

/-! ## Operations that count nothing -/

@[simp] theorem consumerStep_tally (s : System) : s.consumerStep.tally = s.tally := by
  unfold consumerStep
  cases s.pipeline <;> rfl

@[simp] theorem consumerSteps_tally (count : Nat) (s : System) :
    (consumerSteps count s).tally = s.tally := by
  induction count generalizing s with
  | zero => rfl
  | succ count ih => rw [consumerSteps, ih, consumerStep_tally]

@[simp] theorem interfere_tally (s : System) : s.interfere.tally = s.tally := by
  unfold interfere
  cases s.consumerSchedule with
  | nil => rfl
  | cons count rest => exact consumerSteps_tally count _

private theorem popToken_tally {s next : System} {token : ReleaseToken}
    (popped : s.popToken = some (token, next)) : next.tally = s.tally := by
  revert popped
  unfold popToken
  cases s.pipeline with
  | none => rintro ⟨⟩
  | some pipeline =>
      simp only
      cases pipeline.recycleRing.pop with
      | none => rintro ⟨⟩
      | some result =>
          rintro ⟨⟩
          rfl

private theorem drainQuiet_tally (count : Nat) (s : System) :
    (drainQuiet count s).1.tally = s.tally := by
  induction count generalizing s with
  | zero => rfl
  | succ count ih =>
      unfold drainQuiet
      cases popped : s.popToken with
      | none => rfl
      | some result =>
          have kept := popToken_tally popped
          exact (ih _).trans kept

private theorem drainLoop_tally (schedule : List Nat) (s : System) :
    (drainLoop schedule s).1.tally = s.tally := by
  induction schedule generalizing s with
  | nil => exact drainQuiet_tally _ _
  | cons count rest ih =>
      have ran := consumerSteps_tally count { s with consumerSchedule := rest }
      simp only [drainLoop]
      cases popped : (consumerSteps count { s with consumerSchedule := rest }).popToken with
      | none => exact ran
      | some result =>
          have kept := popToken_tally popped
          exact (ih _).trans (kept.trans ran)

@[simp] theorem drainRecycleOnce_tally (s : System) : s.drainRecycleOnce.1.tally = s.tally := by
  unfold drainRecycleOnce
  cases s.pipeline with
  | none => rfl
  | some pipeline => exact drainLoop_tally _ _

@[simp] theorem drainRecycle_tally (s : System) : s.drainRecycle.tally = s.tally :=
  drainRecycleOnce_tally s

private theorem acquire_tally {s next : System} {cpiId : UInt16} {index : PoolIndex}
    (acquired : s.acquire cpiId = some (index, next)) : next.tally = s.tally := by
  obtain ⟨⟨index, ctxPool⟩, found, same⟩ := Option.map_eq_some_iff.mp acquired
  cases same
  rfl

@[simp] theorem acquireRetry_tally (attempts : Nat) (s : System) (cpiId : UInt16) :
    (acquireRetry attempts s cpiId).2.tally = s.tally := by
  induction attempts generalizing s with
  | zero => rfl
  | succ attempts ih =>
      have drained : (if s.drainRecycleOnce.2 then s.drainRecycleOnce.1
          else s.drainRecycleOnce.1.interfere.drainRecycle).tally = s.tally := by
        split <;> simp
      simp only [acquireRetry]
      generalize (if s.drainRecycleOnce.2 = true then _ else _ : System) = retried at drained ⊢
      cases acquired : retried.acquire cpiId with
      | none => exact (ih retried).trans drained
      | some result => exact (acquire_tally acquired).trans drained

@[simp] theorem acquireCtx_tally (s : System) (cpiId : UInt16) :
    (s.acquireCtx cpiId).2.tally = s.tally := by
  unfold acquireCtx
  cases acquired : s.acquire cpiId with
  | none => exact acquireRetry_tally 3 s cpiId
  | some result => exact acquire_tally acquired

@[simp] theorem releaseActiveCtx_tally (s : System) : s.releaseActiveCtx.tally = s.tally := by
  unfold releaseActiveCtx
  cases s.activeCtxIndex <;> rfl

private theorem openActive_tally (spec : ProtocolSpec) (s : System) (cpiId : UInt16) :
    (s.openActive spec cpiId).1.tally = s.tally ∧
      ((∃ index, (s.openActive spec cpiId).2 = true ∧
          (s.openActive spec cpiId).1.activeCtxIndex = some index) ∨
        (s.openActive spec cpiId).1.runError ≠ "") := by
  have acquired := s.releaseActiveCtx.acquireCtx_tally cpiId
  rw [releaseActiveCtx_tally] at acquired
  simp only [openActive]
  generalize s.releaseActiveCtx.acquireCtx cpiId = result at acquired
  obtain ⟨index, next⟩ := result
  cases index with
  | none =>
      refine ⟨acquired, .inr ?_⟩
      simp [failExhausted]
  | some index => exact ⟨acquired, .inl ⟨index, rfl, rfl⟩⟩

@[simp] theorem offer_tally (s : System) (output : CpiOutput) (ctx : CpiContext)
    (index : PoolIndex) : (s.offer output ctx index).tally = s.tally := by
  unfold offer
  split <;> rfl

@[simp] theorem deliver_tally (s : System) (output : CpiOutput) (ctx : CpiContext)
    (index : PoolIndex) : (s.deliver output ctx index).tally = s.tally := by
  unfold deliver
  cases s.pipeline with
  | none => rfl
  | some pipeline => exact (offer_tally ..).trans (interfere_tally _)

@[simp] theorem finalizeContext_tally (s : System) (index : PoolIndex) (trigger : Nat) :
    (s.finalizeContext index trigger).tally = s.tally := by
  simp only [finalizeContext]
  cases CpiFinalizer.tryFinalize (s.ctxPool.contexts index) trigger s.clockNow with
  | none => rfl
  | some result => exact deliver_tally ..

@[simp] theorem finalizeActive_tally (s : System) (trigger : Nat) :
    (s.finalizeActive trigger).tally = s.tally := by
  unfold finalizeActive
  cases s.activeCtxIndex with
  | none => rfl
  | some index => exact finalizeContext_tally s index trigger

@[simp] theorem finalizePrevious_tally (s : System) (trigger : Nat) :
    (s.finalizePrevious trigger).tally = s.tally := by
  unfold finalizePrevious
  cases s.previousCtxIndex with
  | none => rfl
  | some index => exact finalizeContext_tally s index trigger

@[simp] theorem processControlPacket_tally (spec : ProtocolSpec) (s : System)
    (parsed : ParsedPacketView) : (s.processControlPacket spec parsed).tally = s.tally := by
  simp only [processControlPacket]
  split
  · rfl
  split
  · rfl
  split <;> rfl

@[simp] theorem checkPreviousTimeout_tally (s : System) (nowNs : Nat) :
    (s.checkPreviousTimeout nowNs).1.tally = s.tally := by
  unfold checkPreviousTimeout
  cases s.previousCtxIndex with
  | none => rfl
  | some index =>
      simp only
      split
      · exact finalizePrevious_tally _ _
      · rfl

@[simp] theorem checkTimeout_tally (s : System) (nowNs : Nat) :
    (s.checkTimeout nowNs).1.tally = s.tally := by
  have previous := s.checkPreviousTimeout_tally nowNs
  simp only [checkTimeout]
  generalize s.checkPreviousTimeout nowNs = result at previous
  obtain ⟨next, timedOut⟩ := result
  simp only
  cases next.activeCtxIndex with
  | none => exact previous
  | some index =>
      simp only
      split
      · exact (finalizeActive_tally _ _).trans previous
      · exact previous

/-! ## Data packets -/

/-- A packet that is not accepted has been dropped, once; a run error excuses. -/
def Tallied (s : System) (result : System × Bool) : Prop :=
  result.1.runError = "" →
    result.1.tally = (s.tally.1, s.tally.2 + if result.2 then 0 else 1)

theorem Tallied.of_eq {s middle : System} {result : System × Bool} (same : middle.tally = s.tally)
    (tallied : Tallied middle result) : Tallied s result := by
  unfold Tallied at tallied ⊢
  rwa [same] at tallied

private theorem writeActive_tallied (spec : ProtocolSpec) (s : System) (index : PoolIndex)
    (parsed : ParsedPacketView) (packet : InterpretedPacketView) :
    Tallied s (s.writeActive spec index parsed packet) := by
  intro _
  simp only [writeActive]
  generalize SlotWriter.write spec (s.ctxPool.contexts index) parsed = result
  obtain ⟨written, result⟩ := result
  simp only
  split
  · rfl
  split
  · rfl
  split
  · exact finalizeActive_tally _ _
  · rfl

private theorem writeLate_tallied (spec : ProtocolSpec) (s : System) (parsed : ParsedPacketView)
    (packet : InterpretedPacketView) : Tallied s (s.writeLate spec parsed packet) := by
  intro _
  simp only [writeLate]
  cases s.windowOf s.previousCtxIndex parsed.cpi with
  | none => rfl
  | some index =>
      generalize SlotWriter.write spec (s.ctxPool.contexts index) parsed = result
      obtain ⟨written, result⟩ := result
      simp only
      split <;> rfl

private theorem whenOpened_tallied (spec : ProtocolSpec) (s : System) (cpiId : UInt16)
    {next : System → PoolIndex → System × Bool}
    (counted : ∀ opened index, Tallied opened (next opened index)) :
    Tallied s (whenOpened (s.openActive spec cpiId) next) := by
  have opening := s.openActive_tally spec cpiId
  generalize s.openActive spec cpiId = result at opening ⊢
  obtain ⟨opened, succeeded⟩ := result
  obtain ⟨kept, ⟨index, rfl, active⟩ | failed⟩ := opening
  · simp only at active
    simp only [whenOpened, active]
    exact (counted opened index).of_eq kept
  · cases succeeded with
    | false => exact fun error => absurd error failed
    | true =>
        simp only [whenOpened]
        cases opened.activeCtxIndex with
        | none => exact fun error => absurd error failed
        | some index => exact (counted opened index).of_eq kept

private theorem admitPacket_tallied (spec : ProtocolSpec) (s : System) (index : PoolIndex)
    (parsed : ParsedPacketView) (packet : InterpretedPacketView) :
    Tallied s (s.admitPacket spec index parsed packet) := by
  simp only [admitPacket]
  cases CpiAdmission.judge parsed (s.ctxPool.contexts index).header.cpiId s.closedRing with
  | writeActive => exact writeActive_tallied spec s index parsed packet
  | triggerCpiSwitch =>
      have shifted : (s.finalizePrevious triggerCpiSwitch).shiftActive.tally = s.tally :=
        finalizePrevious_tally s triggerCpiSwitch
      exact (whenOpened_tallied spec _ packet.cpi fun opened index =>
        writeActive_tallied spec opened index parsed packet).of_eq shifted
  | lateToClosed | drop => exact writeLate_tallied spec s parsed packet

theorem processDataPacket_tallied (spec : ProtocolSpec) (s : System) (parsed : ParsedPacketView)
    (packet : InterpretedPacketView) : Tallied s (s.processDataPacket spec parsed packet) := by
  simp only [processDataPacket]
  cases s.activeCtxIndex with
  | some index => exact admitPacket_tallied spec s index parsed packet
  | none =>
      simp only
      split
      · exact fun _ => rfl
      · exact whenOpened_tallied spec s packet.cpi fun opened index =>
          admitPacket_tallied spec opened index parsed packet

end System

end RxTech
