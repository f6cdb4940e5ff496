import RxTech.Core.OwnerLoop
import RxTech.Protocol.DatagramProperties

/-!
# Invariants of the owner loop

The loop only asks its coordinator for operations on packets that the pipeline
let through, and otherwise touches nothing but metrics, run status and error.
-/

set_option autoImplicit false

namespace RxTech

/-- What the loop asks the coordinator for between two bursts. -/
inductive Op.Delivered (spec : ProtocolSpec) : Op → Prop where
  | control (frame : UdpPayloadFrame) : Delivered spec (.control (PacketParser.parse spec frame))
  | data (frame : UdpPayloadFrame) (packet : InterpretedPacketView)
      (checked : Checked spec (PacketParser.parse spec frame) packet) :
      Delivered spec (.data (PacketParser.parse spec frame) packet)
  | timeout (nowNs : Nat) : Delivered spec (.timeout nowNs)
  | drainRecycle : Delivered spec .drainRecycle

theorem Op.Delivered.valid {spec : ProtocolSpec} {op : Op} (delivered : op.Delivered spec) :
    op.Valid := by
  cases delivered with
  | control | timeout | drainRecycle => trivial
  | data frame packet checked => exact checked.data

/-- The UDP overload of the parser leaves the receive time unset. -/
theorem PacketParser.parse_rxTsc (spec : ProtocolSpec) (frame : UdpPayloadFrame) :
    (PacketParser.parse spec frame).rxTsc = 0 := by
  simp only [PacketParser.parse]
  split_ifs <;> rfl

namespace UdpDatagramPipeline

variable {pipeline : UdpDatagramPipeline}

theorem Passed.delivered_data {processed : ProcessedPacket} (passed : pipeline.Passed processed)
    (kind : processed.interpreted.kind = .dataPacket) :
    (Op.data processed.parsed processed.interpreted).Delivered pipeline.spec := by
  have checked := passed.checked (passed.kind.symm.trans kind)
  rw [passed.parsed] at checked ⊢
  exact .data _ _ checked

theorem Passed.delivered_control {processed : ProcessedPacket}
    (passed : pipeline.Passed processed) :
    (Op.control processed.parsed).Delivered pipeline.spec := by
  rw [passed.parsed]
  exact .control _

end UdpDatagramPipeline

/-- A property of the coordinator that survives whatever the loop does to it. -/
structure Kept (spec : ProtocolSpec) (invariant : System → Prop) : Prop where
  step : ∀ s op, op.Delivered spec → invariant s → invariant (s.step spec op)
  status : ∀ (s : System) (metrics : MetricsCollector) (runStatus runError : String),
    metrics.outputBackpressureCount = s.metrics.outputBackpressureCount → invariant s →
      invariant { s with metrics, runStatus, runError }

theorem Kept.and {spec : ProtocolSpec} {first second : System → Prop} (left : Kept spec first)
    (right : Kept spec second) : Kept spec fun s => first s ∧ second s where
  step s op delivered holds := ⟨left.step s op delivered holds.1, right.step s op delivered holds.2⟩
  status s metrics runStatus runError backpressure holds :=
    ⟨left.status s metrics runStatus runError backpressure holds.1,
      right.status s metrics runStatus runError backpressure holds.2⟩

namespace OwnerLoop

variable {pipeline : UdpDatagramPipeline} {invariant : System → Prop}

theorem degradeRunStatus_kept (kept : Kept pipeline.spec invariant) {s : System}
    (holds : invariant s) : invariant s.degradeRunStatus := by
  simp only [System.degradeRunStatus, System.applyOutputDegradation]
  split_ifs <;> first | exact holds | exact kept.status s s.metrics _ s.runError rfl holds

theorem onPacket_kept (kept : Kept pipeline.spec invariant) {loop : OwnerLoop}
    {processed : ProcessedPacket} (passed : pipeline.Passed processed)
    (holds : invariant loop.system) :
    invariant (loop.onPacket pipeline.spec processed).system := by
  simp only [onPacket]
  cases kind : processed.interpreted.kind with
  | unknown => exact holds
  | controlTable => exact kept.step _ _ passed.delivered_control holds
  | dataPacket =>
      have stepped := kept.step _ _ (passed.delivered_data kind) holds
      simp only
      split <;> exact stepped

/-- A property of the loop that survives whatever an iteration does. -/
structure Maintained (pipeline : UdpDatagramPipeline) (invariant : OwnerLoop → Prop) : Prop where
  packet : ∀ loop processed, pipeline.Passed processed → invariant loop →
    invariant (loop.onPacket pipeline.spec processed)
  drained : ∀ loop, invariant loop → invariant loop.drainRecycle
  checked : ∀ loop nowNs, invariant loop → invariant (loop.checkTimeout nowNs)
  status : ∀ (loop : OwnerLoop) (metrics : MetricsCollector) (runStatus runError : String)
    (filteredPackets : Nat),
    metrics.outputBackpressureCount = loop.system.metrics.outputBackpressureCount →
      invariant loop → invariant { loop with
        system := { loop.system with metrics, runStatus, runError }
        filteredPackets }

private theorem maintained_of_kept (kept : Kept pipeline.spec invariant) :
    Maintained pipeline fun loop => invariant loop.system where
  packet _ _ passed holds := onPacket_kept kept passed holds
  drained _ holds := kept.step _ _ .drainRecycle holds
  checked _ nowNs holds := kept.step _ _ (.timeout nowNs) holds
  status _ _ _ _ _ backpressure holds := kept.status _ _ _ _ backpressure holds

section Maintained

variable {property : OwnerLoop → Prop}

theorem Maintained.degradeRunStatus (maintained : Maintained pipeline property)
    {loop : OwnerLoop} (holds : property loop) :
    property { loop with system := loop.system.degradeRunStatus } := by
  simp only [System.degradeRunStatus, System.applyOutputDegradation]
  split_ifs <;>
    first
    | exact holds
    | exact maintained.status loop loop.system.metrics _ loop.system.runError _ rfl holds

theorem Maintained.onDatagram (maintained : Maintained pipeline property) {loop : OwnerLoop}
    (datagram : UdpDatagramDesc) (holds : property loop) :
    property (loop.onDatagram pipeline datagram).1 := by
  have drained := maintained.drained loop holds
  have passes := @UdpDatagramPipeline.processDatagram_passed pipeline datagram
    loop.system.drainRecycle.metrics
  have backpressure := @UdpDatagramPipeline.processDatagram_backpressure pipeline datagram
    loop.system.drainRecycle.metrics
  simp only [OwnerLoop.onDatagram]
  generalize pipeline.processDatagram datagram loop.system.drainRecycle.metrics = result
    at passes backpressure ⊢
  obtain ⟨stats, metrics, processed⟩ := result
  have counted := maintained.status _ metrics loop.system.drainRecycle.runStatus
    loop.system.drainRecycle.runError loop.filteredPackets backpressure drained
  apply maintained.degradeRunStatus
  cases processed with
  | none => exact counted
  | some processed => exact maintained.packet _ processed (passes rfl) counted

theorem Maintained.datagramLoop (maintained : Maintained pipeline property)
    (datagrams : List UdpDatagramDesc) {loop : OwnerLoop} (total : PacketProcessStats)
    (holds : property loop) : property (datagramLoop pipeline datagrams loop total).1 := by
  induction datagrams generalizing loop total with
  | nil => exact holds
  | cons datagram rest ih =>
      have stepped := maintained.onDatagram datagram holds
      simp only [OwnerLoop.datagramLoop]
      split
      · exact stepped
      · exact ih _ (maintained.status _ _ _ _ _ rfl stepped)

theorem Maintained.processBurst (maintained : Maintained pipeline property)
    (datagrams : List UdpDatagramDesc) {loop : OwnerLoop} (holds : property loop) :
    property (loop.processBurst pipeline datagrams) := by
  have received := maintained.datagramLoop datagrams {} holds
  simp only [OwnerLoop.processBurst]
  split
  · exact received
  · exact maintained.status _ _ _ _ _ rfl received

theorem Maintained.mainLoop (maintained : Maintained pipeline property)
    (received : List Received) {loop : OwnerLoop} (holds : property loop) :
    property (mainLoop pipeline received loop) := by
  induction received generalizing loop with
  | nil => exact holds
  | cons first rest ih =>
      cases first with
      | failed => exact maintained.status _ _ _ _ _ rfl holds
      | burst datagrams nowNs =>
          have processed := maintained.processBurst datagrams holds
          have checked := maintained.checked _ nowNs processed
          simp only [OwnerLoop.mainLoop]
          split
          · exact processed
          · exact ih (maintained.drained _ checked)

end Maintained

theorem processBurst_kept (kept : Kept pipeline.spec invariant) (datagrams : List UdpDatagramDesc)
    {loop : OwnerLoop} (holds : invariant loop.system) :
    invariant (loop.processBurst pipeline datagrams).system :=
  (maintained_of_kept kept).processBurst datagrams holds

theorem mainLoop_kept (kept : Kept pipeline.spec invariant) (received : List Received)
    {loop : OwnerLoop} (holds : invariant loop.system) :
    invariant (mainLoop pipeline received loop).system :=
  (maintained_of_kept kept).mainLoop received holds

theorem atCheck_kept (kept : Kept pipeline.spec invariant) (earlier : List Received)
    (datagrams : List UdpDatagramDesc) {loop : OwnerLoop} (holds : invariant loop.system) :
    invariant (loop.atCheck pipeline earlier datagrams).system :=
  processBurst_kept kept datagrams (mainLoop_kept kept earlier holds)

end OwnerLoop

end RxTech
