import RxTech.Protocol.DatagramPipeline
import RxTech.Protocol.PacketProperties

/-!
# What the pipeline does with a datagram

A datagram is malformed, filtered, rejected or handed over; only the last two are
counted as accepted, and each of them is reported once.
-/

set_option autoImplicit false

namespace RxTech.UdpDatagramPipeline

/-- A packet that `process_datagram` hands over. -/
structure Passed (pipeline : UdpDatagramPipeline) (processed : ProcessedPacket) : Prop where
  parsed : processed.parsed = PacketParser.parse pipeline.spec processed.udpFrame
  validated : (PacketValidator.validate pipeline.spec processed.parsed).ok = true
  interpreted : processed.interpreted =
    ProtocolSequenceInterpreter.interpret pipeline.spec processed.parsed
  accepted : processed.interpreted.valid = true

theorem Passed.kind {pipeline : UdpDatagramPipeline} {processed : ProcessedPacket}
    (passed : pipeline.Passed processed) :
    processed.interpreted.kind = processed.parsed.kind := by
  rw [passed.interpreted, interpret_kind]

theorem Passed.checked {pipeline : UdpDatagramPipeline} {processed : ProcessedPacket}
    (passed : pipeline.Passed processed) (kind : processed.parsed.kind = .dataPacket) :
    Checked pipeline.spec processed.parsed processed.interpreted :=
  ⟨kind, passed.validated, passed.interpreted, passed.accepted⟩

/-- `process_datagram` calls `on_packet` with this packet for some datagram. -/
def Delivers (pipeline : UdpDatagramPipeline) (processed : ProcessedPacket) : Prop :=
  ∃ datagram metrics, (pipeline.processDatagram datagram metrics).2.2 = some processed

/-- The validator or the interpreter refuses the frame. -/
def Refuses (pipeline : UdpDatagramPipeline) (frame : UdpPayloadFrame) : Prop :=
  let parsed := PacketParser.parse pipeline.spec frame
  (PacketValidator.validate pipeline.spec parsed).ok = false ∨
    (ProtocolSequenceInterpreter.interpret pipeline.spec parsed).valid = false

/-- The four ways through `process_datagram`. -/
inductive Outcome (pipeline : UdpDatagramPipeline) (datagram : UdpDatagramDesc)
    (metrics : MetricsCollector) :
    PacketProcessStats × MetricsCollector × Option ProcessedPacket → Prop where
  | malformed (malformed : isMalformedDescriptor datagram = true) :
      Outcome pipeline datagram metrics ({}, metrics.onError, none)
  | filtered (filtered : pipeline.matchesPacketFilter datagram.udpFrame = false) :
      Outcome pipeline datagram metrics ({ filteredPackets := 1 }, metrics, none)
  | rejected (stats : PacketProcessStats) (reason : RejectReason)
      (counted : stats.acceptedPackets = 1) (named : reason ≠ .none)
      (refuses : pipeline.Refuses datagram.udpFrame) :
      Outcome pipeline datagram metrics (stats, metrics.onReject reason, none)
  | handed (stats : PacketProcessStats) (processed : ProcessedPacket)
      (counted : stats.acceptedPackets = 1) (frame : processed.udpFrame = datagram.udpFrame)
      (passed : pipeline.Passed processed) :
      Outcome pipeline datagram metrics
        (stats, metrics.onValidPacket processed.interpreted.kind, some processed)

variable {pipeline : UdpDatagramPipeline} {datagram : UdpDatagramDesc} {metrics : MetricsCollector}

theorem processDatagram_outcome (pipeline : UdpDatagramPipeline) (datagram : UdpDatagramDesc)
    (metrics : MetricsCollector) :
    Outcome pipeline datagram metrics (pipeline.processDatagram datagram metrics) := by
  simp only [processDatagram]
  split
  · exact .malformed (by assumption)
  split
  · exact .filtered (by assumption)
  split
  · rename_i refused
    exact .rejected _ _ rfl (validate_reason refused) (.inl refused)
  rename_i validated
  split
  · rename_i refused
    exact .rejected _ _ rfl (interpret_reason refused) (.inr refused)
  · rename_i accepted
    have passed : pipeline.Passed
        { udpFrame := datagram.udpFrame
          parsed := PacketParser.parse pipeline.spec datagram.udpFrame
          interpreted := ProtocolSequenceInterpreter.interpret pipeline.spec
            (PacketParser.parse pipeline.spec datagram.udpFrame)
          sourceQueueId := datagram.queueId
          sourceTsNs := datagram.tsNs } :=
      ⟨rfl, Bool.of_not_eq_false validated, rfl, Bool.of_not_eq_false accepted⟩
    exact .handed _ _ rfl rfl passed

theorem processDatagram_passed {processed : ProcessedPacket}
    (handed : (pipeline.processDatagram datagram metrics).2.2 = some processed) :
    pipeline.Passed processed := by
  have outcome := processDatagram_outcome pipeline datagram metrics
  generalize pipeline.processDatagram datagram metrics = result at outcome handed
  cases outcome with
  | malformed | filtered | rejected => cases handed
  | handed stats processed counted frame passed =>
      cases handed
      exact passed

theorem processDatagram_frame {processed : ProcessedPacket}
    (handed : (pipeline.processDatagram datagram metrics).2.2 = some processed) :
    processed.udpFrame = datagram.udpFrame := by
  have outcome := processDatagram_outcome pipeline datagram metrics
  generalize pipeline.processDatagram datagram metrics = result at outcome handed
  cases outcome with
  | malformed | filtered | rejected => cases handed
  | handed stats processed counted frame passed =>
      cases handed
      exact frame

theorem processDatagram_backpressure :
    (pipeline.processDatagram datagram metrics).2.1.outputBackpressureCount =
      metrics.outputBackpressureCount := by
  have outcome := processDatagram_outcome pipeline datagram metrics
  generalize pipeline.processDatagram datagram metrics = result at outcome
  cases outcome with
  | malformed | filtered | rejected => rfl
  | handed stats processed =>
      simp only [MetricsCollector.onValidPacket]
      cases processed.interpreted.kind <;> rfl

theorem Passed.not_refuses {processed : ProcessedPacket} (passed : pipeline.Passed processed) :
    ¬ pipeline.Refuses processed.udpFrame := by
  obtain ⟨parsed, validated, interpreted, accepted⟩ := passed
  intro refuses
  simp only [Refuses, ← parsed, ← interpreted, validated, accepted] at refuses
  rcases refuses with impossible | impossible <;> cases impossible

theorem processDatagram_handed_iff (metrics : MetricsCollector)
    (formed : isMalformedDescriptor datagram = false)
    (matching : pipeline.matchesPacketFilter datagram.udpFrame = true) :
    (pipeline.processDatagram datagram metrics).2.2.isSome = true ↔
      ¬ pipeline.Refuses datagram.udpFrame := by
  have outcome := processDatagram_outcome pipeline datagram metrics
  generalize pipeline.processDatagram datagram metrics = result at outcome
  cases outcome with
  | malformed malformed => cases malformed.symm.trans formed
  | filtered filtered => cases matching.symm.trans filtered
  | rejected stats reason counted named refuses =>
      exact iff_of_false Bool.false_ne_true fun passes => passes refuses
  | handed stats processed counted frame passed =>
      have passes := passed.not_refuses
      rw [frame] at passes
      exact iff_of_true rfl passes

theorem Delivers.passed {processed : ProcessedPacket} (delivers : pipeline.Delivers processed) :
    pipeline.Passed processed := by
  obtain ⟨datagram, metrics, handed⟩ := delivers
  exact processDatagram_passed handed

end RxTech.UdpDatagramPipeline
