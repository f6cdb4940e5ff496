import RxTech.Sidecar.RuntimeState
import Mathlib.Data.List.SplitLengths

/-!
# The statistics of a capture

What the owner loop has counted about a run can be counted again from its two capture
streams: the index stream says where the payloads in the packet stream end, and every payload
is read again as the packet that its row shows.
-/

set_option autoImplicit false

namespace RxTech

/-! ## The capture streams -/

namespace CaptureArtifacts

/-- What the artifacts hold, by the counters of the writer. -/
structure Counted (artifacts : CaptureArtifacts) : Prop where
  fileOffset : artifacts.fileOffset = artifacts.packetStream.length
  recordedPackets : artifacts.recordedPackets = artifacts.indexStream.length
  recordedBytes : artifacts.recordedBytes = artifacts.packetStream.length
  capturedPackets : artifacts.capturedPackets = artifacts.indexStream.length
  capturedBytes : artifacts.capturedBytes = artifacts.packetStream.length

variable {artifacts : CaptureArtifacts}

theorem Counted.capture (counted : artifacts.Counted) (processed : ProcessedPacket) :
    (artifacts.capture processed).Counted := by
  obtain ⟨offset, packets, bytes, captured, capturedBytes⟩ := counted
  have grown : (artifacts.packetStream ++ processed.udpFrame.udpPayload).length =
      artifacts.packetStream.length + processed.udpFrame.udpPayload.length := List.length_append
  have rows : (artifacts.indexStream ++ [processed.indexRow]).length =
      artifacts.indexStream.length + 1 := List.length_append
  constructor <;> simp only [CaptureArtifacts.capture]
  · rw [grown, offset]
  · rw [rows, packets]
  · rw [grown, bytes]
  · rw [rows, captured]
  · rw [grown, capturedBytes]

/-- What the capture of packets adds. -/
theorem foldl_capture (packets : List ProcessedPacket) (counted : artifacts.Counted) :
    (packets.foldl .capture artifacts).Counted ∧
      (packets.foldl .capture artifacts).packetStream =
        artifacts.packetStream ++ (packets.map (·.udpFrame.udpPayload)).flatten ∧
      (packets.foldl .capture artifacts).indexStream =
        artifacts.indexStream ++ packets.map ProcessedPacket.indexRow := by
  induction packets generalizing artifacts with
  | nil => exact ⟨counted, (List.append_nil _).symm, (List.append_nil _).symm⟩
  | cons processed rest ih =>
      obtain ⟨after, bytes, rows⟩ := ih (counted.capture processed)
      refine ⟨after, bytes.trans ?_, rows.trans ?_⟩
      · exact List.append_assoc ..
      · exact List.append_assoc ..

/-- The payloads in the packet stream, which end where the rows say. -/
def payloads (artifacts : CaptureArtifacts) : List (List UInt8) :=
  (artifacts.indexStream.map IndexRow.payloadLen).splitLengths artifacts.packetStream

private theorem splitLengths_flatten {α : Type} (parts : List (List α)) :
    (parts.map List.length).splitLengths parts.flatten = parts := by
  induction parts with
  | nil => rfl
  | cons part rest ih =>
      rw [List.map_cons, List.flatten_cons, List.splitLengths_cons, List.take_left, List.drop_left,
        ih]

private theorem payloads_capture (packets : List ProcessedPacket) :
    (packets.foldl .capture ({} : CaptureArtifacts)).payloads =
      packets.map (·.udpFrame.udpPayload) := by
  obtain ⟨-, bytes, rows⟩ := @foldl_capture {} packets ⟨rfl, rfl, rfl, rfl, rfl⟩
  have lengths : (packets.map ProcessedPacket.indexRow).map IndexRow.payloadLen =
      (packets.map (·.udpFrame.udpPayload)).map List.length := by
    rw [List.map_map, List.map_map]
    rfl
  rw [payloads, rows, bytes, List.nil_append, List.nil_append, lengths, splitLengths_flatten]

end CaptureArtifacts

/-! ## Reading again -/

/-- A payload read by the parser and the interpreter. -/
def ProtocolSpec.reread (spec : ProtocolSpec) (payload : List UInt8) :
    ParsedPacketView × InterpretedPacketView :=
  let parsed := PacketParser.parse spec { udpPayload := payload }
  (parsed, ProtocolSequenceInterpreter.interpret spec parsed)

/-- The row of a captured payload. -/
def ProtocolSpec.rereadRow (spec : ProtocolSpec) (payload : List UInt8) : IndexRow :=
  let packet := (spec.reread payload).2
  { cpi := packet.cpi
    channel := packet.channel
    prt := packet.prt
    packetIndex := packet.packetIndex
    packetKind := packet.kind
    payloadLen := payload.length
    valid := packet.valid }

/-- The rows of data packets. -/
def IndexRow.data (rows : List IndexRow) : List IndexRow :=
  rows.filter fun row => row.packetKind = .dataPacket

theorem IndexRow.data_cons_pos {row : IndexRow} (data : row.packetKind = .dataPacket)
    (rows : List IndexRow) : IndexRow.data (row :: rows) = row :: IndexRow.data rows :=
  List.filter_cons_of_pos (decide_eq_true data)

theorem IndexRow.data_cons_neg {row : IndexRow} (other : row.packetKind ≠ .dataPacket)
    (rows : List IndexRow) : IndexRow.data (row :: rows) = IndexRow.data rows :=
  List.filter_cons_of_neg (mt of_decide_eq_true other)

/-- The statistics of captured payloads. -/
def OwnerLoopRuntimeState.recount (spec : ProtocolSpec) (payloads : List (List UInt8)) :
    OwnerLoopRuntimeState :=
  payloads.foldl (fun state payload =>
    state.onPacket spec (spec.reread payload).1 (spec.reread payload).2 true) {}

/-- The validator and the interpreter let the payload through. -/
structure ProtocolSpec.Accepts (spec : ProtocolSpec) (payload : List UInt8) : Prop where
  validated : (PacketValidator.validate spec (spec.reread payload).1).ok = true
  accepted : (spec.reread payload).2.valid = true

namespace UdpDatagramPipeline.Passed

variable {pipeline : UdpDatagramPipeline} {processed : ProcessedPacket}

/-- Only the payload of a frame is parsed. -/
theorem reread (passed : pipeline.Passed processed) :
    pipeline.spec.reread processed.udpFrame.udpPayload =
      (processed.parsed, processed.interpreted) := by
  have parsed : processed.parsed =
      PacketParser.parse pipeline.spec { udpPayload := processed.udpFrame.udpPayload } :=
    passed.parsed
  rw [ProtocolSpec.reread, ← parsed, passed.interpreted]

theorem accepts (passed : pipeline.Passed processed) :
    pipeline.spec.Accepts processed.udpFrame.udpPayload := by
  constructor
  · rw [passed.reread]
    exact passed.validated
  · rw [passed.reread]
    exact passed.accepted

theorem rereadRow (passed : pipeline.Passed processed) :
    pipeline.spec.rereadRow processed.udpFrame.udpPayload = processed.indexRow := by
  rw [ProtocolSpec.rereadRow, passed.reread]
  rfl

end UdpDatagramPipeline.Passed

namespace OwnerLoopRuntimeState

variable {spec : ProtocolSpec} {state other : OwnerLoopRuntimeState}

/-- The same statistics, with CPI ids beyond those of `other`. -/
def Widens (state other : OwnerLoopRuntimeState) : Prop :=
  other.uniqueCpis ⊆ state.uniqueCpis ∧ state = { other with uniqueCpis := state.uniqueCpis }

private theorem onPacket_widens (wider : state.Widens other) (parsed : ParsedPacketView)
    (packet : InterpretedPacketView) : (state.onPacket spec parsed packet true).Widens
      (other.onPacket spec parsed packet true) := by
  obtain ⟨subset, same⟩ := wider
  have more : insert packet.cpi other.uniqueCpis ⊆ insert packet.cpi state.uniqueCpis :=
    Finset.insert_subset_insert _ subset
  generalize state.uniqueCpis = cpis at same more
  subst same
  rw [onPacket, onPacket]
  cases kind : packet.kind with
  | controlTable | unknown =>
      simp only [recordCapturedPacket, kind, reduceCtorEq, if_false]
      exact ⟨more, rfl⟩
  | dataPacket =>
      simp only [recordCapturedPacket, kind, if_true]
      exact ⟨more, rfl⟩

private theorem onPacket_uncaptured (wider : state.Widens other) (parsed : ParsedPacketView)
    {packet : InterpretedPacketView} (kind : packet.kind = .dataPacket) :
    (state.onPacket spec parsed packet false).Widens other := by
  obtain ⟨subset, same⟩ := wider
  rw [onPacket, kind]
  exact ⟨subset.trans (Finset.subset_insert _ _),
    congrArg (fun state : OwnerLoopRuntimeState =>
      { state with uniqueCpis := insert packet.cpi state.uniqueCpis }) same⟩

/-- What is counted about the packets of a run, and about those that were captured. -/
theorem foldl_widens {pipeline : UdpDatagramPipeline} (packets : List HandledPacket)
    (stem : ∀ packet ∈ packets, packet.Stems pipeline) (wider : state.Widens other) :
    (packets.foldl (fun state packet => state.onPacket pipeline.spec packet.processed.parsed
        packet.processed.interpreted packet.captured) state).Widens
      (((packets.filter HandledPacket.captured).map fun packet =>
          packet.processed.udpFrame.udpPayload).foldl (fun state payload =>
        state.onPacket pipeline.spec (pipeline.spec.reread payload).1
          (pipeline.spec.reread payload).2 true) other) := by
  induction packets generalizing state other with
  | nil => exact wider
  | cons packet rest ih =>
      obtain ⟨stems, later⟩ := List.forall_mem_cons.mp stem
      rw [List.foldl_cons]
      cases captured : packet.captured with
      | false =>
          rw [List.filter_cons_of_neg (ne_true_of_eq_false captured)]
          exact ih later (onPacket_uncaptured wider _ (stems.uncaptured captured))
      | true =>
          rw [List.filter_cons_of_pos captured, List.map_cons, List.foldl_cons,
            stems.passed.reread]
          exact ih later (onPacket_widens wider _ _)

/-- What is counted about payloads is counted about the rows of data packets, for any part of
the statistics that a packet changes by what its row shows. -/
theorem recount_part {Part : Type} (part : OwnerLoopRuntimeState → Part)
    (count : IndexRow → Part → Part)
    (counts : ∀ state payload, spec.Accepts payload →
      part (state.onPacket spec (spec.reread payload).1 (spec.reread payload).2 true) =
        if (spec.reread payload).2.kind = .dataPacket then
          count (spec.rereadRow payload) (part state)
        else part state)
    {payloads : List (List UInt8)} (accepts : ∀ payload ∈ payloads, spec.Accepts payload) :
    part (recount spec payloads) =
      (IndexRow.data (payloads.map spec.rereadRow)).foldl (fun part row => count row part)
        (part {}) := by
  have folded (state : OwnerLoopRuntimeState) : part (payloads.foldl (fun state payload =>
      state.onPacket spec (spec.reread payload).1 (spec.reread payload).2 true) state) =
      (IndexRow.data (payloads.map spec.rereadRow)).foldl (fun part row => count row part)
        (part state) := by
    induction payloads generalizing state with
    | nil => rfl
    | cons payload rest ih =>
        obtain ⟨here, later⟩ := List.forall_mem_cons.mp accepts
        rw [List.foldl_cons, ih later, counts state payload here, List.map_cons]
        by_cases kind : (spec.reread payload).2.kind = .dataPacket
        · have data : (spec.rereadRow payload).packetKind = .dataPacket := kind
          rw [if_pos kind, IndexRow.data_cons_pos data, List.foldl_cons]
        · have other : (spec.rereadRow payload).packetKind ≠ .dataPacket := kind
          rw [if_neg kind, IndexRow.data_cons_neg other]
  exact folded {}

/-- The coverage of payloads is that of their rows. -/
theorem recount_prtCoverage {payloads : List (List UInt8)}
    (accepts : ∀ payload ∈ payloads, spec.Accepts payload) :
    (recount spec payloads).prtCoverage =
      CpiPrtCoverageMap.ofRows (payloads.map spec.rereadRow) := by
  refine recount_part OwnerLoopRuntimeState.prtCoverage
    (fun row coverage => coverage.insertPacket row.cpi row.coord) (fun state payload _ => ?_) accepts
  rw [onPacket]
  cases kind : (spec.reread payload).2.kind with
  | controlTable | unknown =>
      simp only [recordCapturedPacket, kind, reduceCtorEq, if_false]
      rfl
  | dataPacket =>
      simp only [recordCapturedPacket, kind, if_true]
      rfl

end OwnerLoopRuntimeState

/-- The capture of a run, read again. -/
theorem OwnerLoop.run_payloads (config : RxConfig) (allowedSourceIpv4Be receiverIpv4Be : Nat)
    (consumerSchedule clock : List Nat) (received : List Received) :
    let pipeline := UdpDatagramPipeline.ofConfig config allowedSourceIpv4Be receiverIpv4Be
    let artifacts := (run config allowedSourceIpv4Be receiverIpv4Be consumerSchedule clock
      received).artifacts
    (∀ payload ∈ artifacts.payloads, pipeline.spec.Accepts payload) ∧
      artifacts.Counted ∧
      artifacts.payloads.flatten = artifacts.packetStream ∧
      artifacts.payloads.map pipeline.spec.rereadRow = artifacts.indexStream ∧
      (runtimeState pipeline received (start config consumerSchedule clock)).Widens
        (.recount pipeline.spec artifacts.payloads) := by
  intro pipeline artifacts
  let begun := start config consumerSchedule clock
  have stem := @handledPackets_stem pipeline received begun
  have left : artifacts = (capturedPackets pipeline received begun).foldl .capture {} :=
    run_artifacts config allowedSourceIpv4Be receiverIpv4Be consumerSchedule clock received
  obtain ⟨counted, bytes, rows⟩ := @CaptureArtifacts.foldl_capture {}
    (capturedPackets pipeline received begun) ⟨rfl, rfl, rfl, rfl, rfl⟩
  have payloads := CaptureArtifacts.payloads_capture (capturedPackets pipeline received begun)
  rw [← left] at counted bytes rows payloads
  have passed : ∀ processed ∈ capturedPackets pipeline received begun,
      pipeline.Passed processed := by
    intro processed member
    obtain ⟨packet, kept, rfl⟩ := List.mem_map.mp member
    exact (stem packet (List.mem_filter.mp kept).1).passed
  refine ⟨fun payload member => ?_, counted, ?_, ?_, ?_⟩
  · rw [payloads] at member
    obtain ⟨processed, captured, rfl⟩ := List.mem_map.mp member
    exact (passed processed captured).accepts
  · rw [payloads, bytes, List.nil_append]
  · rw [payloads, rows, List.map_map, List.nil_append]
    exact List.map_congr_left fun processed member => (passed processed member).rereadRow
  · have folded := @OwnerLoopRuntimeState.foldl_widens {} {} pipeline _ stem
      ⟨Finset.Subset.refl _, rfl⟩
    rw [capturedPackets, List.map_map] at payloads
    rw [payloads]
    exact folded

/-- What a run has counted, its capture shows. The packet stream is the payloads that the rows
of the index stream delimit, and every payload is read again as its row. Counting the payloads
again gives the runtime state, apart from CPI ids of packets that were not captured. -/
theorem capture_recounts (config : RxConfig) (allowedSourceIpv4Be receiverIpv4Be : Nat)
    (consumerSchedule clock : List Nat) (received : List Received) :
    let pipeline := UdpDatagramPipeline.ofConfig config allowedSourceIpv4Be receiverIpv4Be
    let loop := OwnerLoop.run config allowedSourceIpv4Be receiverIpv4Be consumerSchedule clock
      received
    let state := OwnerLoop.runtimeState pipeline received (.start config consumerSchedule clock)
    let recounted := OwnerLoopRuntimeState.recount pipeline.spec loop.artifacts.payloads
    loop.artifacts.Counted ∧
      loop.artifacts.payloads.flatten = loop.artifacts.packetStream ∧
      loop.artifacts.payloads.map pipeline.spec.rereadRow = loop.artifacts.indexStream ∧
      recounted.uniqueCpis ⊆ state.uniqueCpis ∧
      state = { recounted with uniqueCpis := state.uniqueCpis } ∧
      state.prtCoverage = loop.prtCoverage := by
  intro pipeline loop state recounted
  obtain ⟨accepts, counted, flat, reread, wide⟩ := OwnerLoop.run_payloads config
    allowedSourceIpv4Be receiverIpv4Be consumerSchedule clock received
  refine ⟨counted, flat, reread, wide.1, wide.2, ?_⟩
  have coverage : state.prtCoverage = recounted.prtCoverage :=
    (congrArg OwnerLoopRuntimeState.prtCoverage wide.2).trans rfl
  rw [coverage, OwnerLoopRuntimeState.recount_prtCoverage accepts, reread]
  rfl

end RxTech
