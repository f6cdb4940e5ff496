import RxTech.Ingress.FrameDecoders
import RxTech.Protocol.WireGrammar

/-!
# Outcomes of a packet

What the two pipelines do with a packet, as far as a sender can tell: nothing, or
filtering, rejecting or delivering a frame.
-/

set_option autoImplicit false

namespace RxTech

inductive PacketOutcome where
  | dropped
  | filtered
  | rejected
  | accepted (frame : UdpPayloadFrame)
  deriving DecidableEq

/-- The outcome, from the counters and the packets handed over. -/
def PacketOutcome.of (stats : PacketProcessStats) : List ProcessedPacket → PacketOutcome
  | processed :: _ => .accepted processed.udpFrame
  | [] =>
      if stats.filteredPackets ≠ 0 then .filtered
      else if stats.acceptedPackets ≠ 0 then .rejected
      else .dropped

def UdpDatagramPipeline.outcome (pipeline : UdpDatagramPipeline) (datagram : UdpDatagramDesc)
    (metrics : MetricsCollector) : PacketOutcome :=
  let (stats, _, processed) := pipeline.processDatagram datagram metrics
  .of stats processed.toList

def PacketPipeline.outcome (pipeline : PacketPipeline) (packet : PacketDesc)
    (metrics : MetricsCollector) : Option PacketOutcome :=
  (pipeline.processPacket packet metrics).map fun (_, stats, _, processed) => .of stats processed

/-- The outcome that the filter and the grammar give a frame. -/
inductive UdpDatagramPipeline.Decides (pipeline : UdpDatagramPipeline) (frame : UdpPayloadFrame) :
    PacketOutcome → Prop where
  | filtered (filtered : pipeline.matchesPacketFilter frame = false) :
      Decides pipeline frame .filtered
  | rejected (matching : pipeline.matchesPacketFilter frame = true)
      (refused : ¬ WirePayload pipeline.spec frame.udpPayload) :
      Decides pipeline frame .rejected
  | accepted (matching : pipeline.matchesPacketFilter frame = true)
      (wire : WirePayload pipeline.spec frame.udpPayload) :
      Decides pipeline frame (.accepted frame)

variable {pipeline : UdpDatagramPipeline} {datagram : UdpDatagramDesc}

theorem UdpDatagramPipeline.Decides.eq_filtered {frame : UdpPayloadFrame} {outcome : PacketOutcome}
    (decides : pipeline.Decides frame outcome)
    (unmatched : pipeline.matchesPacketFilter frame = false) : outcome = .filtered := by
  cases decides with
  | filtered => rfl
  | rejected matching => cases matching.symm.trans unmatched
  | accepted matching => cases matching.symm.trans unmatched

theorem UdpDatagramPipeline.Decides.eq_accepted {frame : UdpPayloadFrame} {outcome : PacketOutcome}
    (decides : pipeline.Decides frame outcome)
    (matching : pipeline.matchesPacketFilter frame = true)
    (wire : WirePayload pipeline.spec frame.udpPayload) : outcome = .accepted frame := by
  cases decides with
  | filtered unmatched => cases matching.symm.trans unmatched
  | rejected _ refused => exact absurd wire refused
  | accepted => rfl

theorem UdpDatagramPipeline.processDatagram_stats (metrics : MetricsCollector)
    (descriptor : isMalformedDescriptor datagram = false)
    (matching : pipeline.matchesPacketFilter datagram.udpFrame = true) :
    (pipeline.processDatagram datagram metrics).1.filteredPackets = 0 ∧
      (pipeline.processDatagram datagram metrics).1.acceptedPackets = 1 := by
  simp only [processDatagram, descriptor, matching, Bool.false_eq_true, Bool.true_eq_false,
    if_false]
  split
  · exact ⟨rfl, rfl⟩
  split
  · exact ⟨rfl, rfl⟩
  · exact ⟨rfl, rfl⟩

theorem UdpDatagramPipeline.outcome_decides (constants : pipeline.spec.FromConfig)
    (formed : pipeline.spec.WellFormed) (descriptor : isMalformedDescriptor datagram = false)
    (metrics : MetricsCollector) :
    pipeline.Decides datagram.udpFrame (pipeline.outcome datagram metrics) := by
  have fits := datagram.udpPayload_length_lt
  cases matching : pipeline.matchesPacketFilter datagram.udpFrame with
  | false =>
      have filtered : pipeline.outcome datagram metrics = .filtered := by
        simp only [UdpDatagramPipeline.outcome, processDatagram, descriptor, matching]
        rfl
      rw [filtered]
      exact .filtered matching
  | true =>
      obtain ⟨unfiltered, counted⟩ := processDatagram_stats metrics descriptor matching
      have handed := processDatagram_handed_iff metrics descriptor matching
      rw [not_refuses_iff constants formed fits] at handed
      have frame := @processDatagram_frame pipeline datagram metrics
      simp only [UdpDatagramPipeline.outcome]
      generalize pipeline.processDatagram datagram metrics = result at *
      obtain ⟨stats, metrics, processed⟩ := result
      cases processed with
      | none =>
          have refused : ¬ WirePayload pipeline.spec datagram.udpFrame.udpPayload := fun wire =>
            Bool.false_ne_true (handed.mpr wire)
          have rejected : PacketOutcome.of stats [] = .rejected :=
            (if_neg (not_not.mpr unfiltered)).trans
              (if_pos (counted.symm ▸ Nat.one_ne_zero))
          simp only [Option.toList_none, rejected]
          exact .rejected matching refused
      | some processed =>
          simp only [Option.toList_some, PacketOutcome.of, frame rfl]
          exact .accepted matching (handed.mp rfl)

/-- A whole frame is decided like the datagram in it. -/
theorem PacketPipeline.outcome_decides (constants : pipeline.spec.FromConfig)
    (formed : pipeline.spec.WellFormed) (assembler : UdpPayloadAssembler) {packet : PacketDesc}
    (unfragmented : packet.Unfragmented) {frame : UdpPayloadFrame}
    (reads : packet.readIpv4.bind Ipv4Packet.wholeFrame = some frame)
    (fits : frame.udpPayload.length < 2 ^ 32) (metrics : MetricsCollector) :
    ∃ outcome, PacketPipeline.outcome ⟨assembler, pipeline⟩ packet metrics = some outcome ∧
      pipeline.Decides frame outcome := by
  have decides := UdpDatagramPipeline.outcome_decides constants formed
    (frame.datagram_formed packet) metrics
  rw [frame.datagram_udpFrame fits packet] at decides
  refine ⟨_, ?_, decides⟩
  simp only [PacketPipeline.outcome, PacketPipeline.processPacket,
    assembler.push_unfragmented unfragmented, reads, Option.toList_some, Option.map_some,
    PacketPipeline.processFrames, PacketProcessStats.add, Nat.zero_add, List.append_nil]
  rfl

end RxTech
