import RxTech.Core.HandledDatagrams
import RxTech.Protocol.DataOrderTracker
import RxTech.Sidecar.FinalSummary

/-!
# The statistics of a run

`OwnerLoopRuntimeState`: what the owner loop counts about the packets that `on_packet` is
called with.
-/

set_option autoImplicit false

namespace RxTech

structure ProtocolCpiStats where
  dataPackets : Nat := 0
  prts : Finset Nat := ∅
  deriving DecidableEq

structure ProtocolChannelStats where
  dataPackets : Nat := 0
  iqCount : Nat := 0
  deriving DecidableEq, Repr

/-- Its run status and error are those of the system, and `filtered_packets` is that of the
loop. -/
structure OwnerLoopRuntimeState where
  finalTailPackets : Nat := 0
  latestDataCpi : UInt16 := 0
  latestDataPrt : Nat := 0
  latestDataSeen : Bool := false
  uniqueCpis : Finset UInt16 := ∅
  uniquePrts : Finset Nat := ∅
  uniqueChannels : Finset Nat := ∅
  channelStats : AList fun _ : Nat => ProtocolChannelStats := ∅
  cpiStats : AList fun _ : UInt16 => ProtocolCpiStats := ∅
  prtCoverage : CpiPrtCoverageMap := ∅

namespace OwnerLoopRuntimeState

def recordProtocolPacket (state : OwnerLoopRuntimeState) (packet : InterpretedPacketView) :
    OwnerLoopRuntimeState :=
  { state with uniqueCpis := insert packet.cpi state.uniqueCpis }

def recordCapturedPacket (state : OwnerLoopRuntimeState) (packet : InterpretedPacketView) :
    OwnerLoopRuntimeState :=
  if packet.kind = .dataPacket then
    { state with
      uniquePrts := insert packet.prt state.uniquePrts
      uniqueChannels := insert packet.channel state.uniqueChannels }
  else state

def countChannel (packet : InterpretedPacketView) (stats : ProtocolChannelStats) :
    ProtocolChannelStats where
  dataPackets := stats.dataPackets + 1
  iqCount := stats.iqCount + packet.iqCount

def countCpi (packet : InterpretedPacketView) (stats : ProtocolCpiStats) : ProtocolCpiStats where
  dataPackets := stats.dataPackets + 1
  prts := insert packet.prt stats.prts

def recordDataPacket (spec : ProtocolSpec) (state : OwnerLoopRuntimeState)
    (parsed : ParsedPacketView) (packet : InterpretedPacketView) : OwnerLoopRuntimeState :=
  { state with
    channelStats := DefaultMap.alter {} packet.channel (countChannel packet) state.channelStats
    cpiStats := DefaultMap.alter {} packet.cpi (countCpi packet) state.cpiStats
    prtCoverage := state.prtCoverage.recordDataPacket packet
    latestDataCpi := packet.cpi
    latestDataPrt := packet.prt
    latestDataSeen := true
    finalTailPackets :=
      if parsed.tail = spec.magicTail then state.finalTailPackets + 1 else state.finalTailPackets }

/-- What `on_packet` counts; `captured` is false for a data packet that the coordinator does
not accept. -/
def onPacket (spec : ProtocolSpec) (state : OwnerLoopRuntimeState) (parsed : ParsedPacketView)
    (packet : InterpretedPacketView) (captured : Bool) : OwnerLoopRuntimeState :=
  let state := state.recordProtocolPacket packet
  match packet.kind with
  | .controlTable | .unknown => state.recordCapturedPacket packet
  | .dataPacket =>
      if captured then (state.recordDataPacket spec parsed packet).recordCapturedPacket packet
      else state

end OwnerLoopRuntimeState

/-! ## The packets of a run -/

/-- A packet that `on_packet` has been called with, and whether it captured the packet. -/
structure HandledPacket where
  processed : ProcessedPacket
  captured : Bool

namespace OwnerLoop

def handledPacket? (pipeline : UdpDatagramPipeline) (loop : OwnerLoop) (datagram : UdpDatagramDesc) :
    Option HandledPacket :=
  let system := loop.system.drainRecycle
  let (_, metrics, processed) := pipeline.processDatagram datagram system.metrics
  let loop := { loop with system := { system with metrics } }
  processed.map fun processed =>
    { processed, captured := (loop.verdict pipeline.spec processed).getD true }

def burstPackets (pipeline : UdpDatagramPipeline) :
    List UdpDatagramDesc → OwnerLoop → List HandledPacket
  | [], _ => []
  | datagram :: rest, loop =>
      let (next, stats) := loop.onDatagram pipeline datagram
      (loop.handledPacket? pipeline datagram).toList ++
        if next.system.runError ≠ "" then []
        else
          burstPackets pipeline rest
            { next with filteredPackets := next.filteredPackets + stats.filteredPackets }

/-- All packets of the main loop. -/
def handledPackets (pipeline : UdpDatagramPipeline) : List Received → OwnerLoop → List HandledPacket
  | [], _ => []
  | .failed :: _, _ => []
  | .burst datagrams nowNs :: rest, loop =>
      let next := loop.processBurst pipeline datagrams
      burstPackets pipeline datagrams loop ++
        if next.system.runError ≠ "" then []
        else handledPackets pipeline rest (next.checkTimeout nowNs).drainRecycle

/-- The runtime state at the end of the main loop. -/
def runtimeState (pipeline : UdpDatagramPipeline) (received : List Received) (loop : OwnerLoop) :
    OwnerLoopRuntimeState :=
  (handledPackets pipeline received loop).foldl (fun state packet =>
    state.onPacket pipeline.spec packet.processed.parsed packet.processed.interpreted
      packet.captured) {}

end OwnerLoop

/-- A packet that the pipeline hands over. Only a data packet may be left uncaptured. -/
structure HandledPacket.Stems (pipeline : UdpDatagramPipeline) (packet : HandledPacket) :
    Prop where
  passed : pipeline.Passed packet.processed
  uncaptured : packet.captured = false → packet.processed.interpreted.kind = .dataPacket

/-! ## What a run captures -/

/-- The capture streams behind a packet. -/
def CaptureArtifacts.afterPacket (artifacts : CaptureArtifacts) (packet : HandledPacket) :
    CaptureArtifacts :=
  if packet.captured then artifacts.capture packet.processed else artifacts

namespace OwnerLoop

variable {pipeline : UdpDatagramPipeline}

private theorem onPacket_afterPacket (spec : ProtocolSpec) (loop : OwnerLoop)
    (processed : ProcessedPacket) : (loop.onPacket spec processed).artifacts =
      loop.artifacts.afterPacket ⟨processed, (loop.verdict spec processed).getD true⟩ := by
  rw [onPacket, verdict, CaptureArtifacts.afterPacket]
  cases processed.interpreted.kind with
  | controlTable | unknown => rfl
  | dataPacket =>
      dsimp only [Option.getD_some]
      cases (loop.onDataPacket spec processed).2 <;> rfl

private theorem onDatagram_artifacts (pipeline : UdpDatagramPipeline) (loop : OwnerLoop)
    (datagram : UdpDatagramDesc) : (loop.onDatagram pipeline datagram).1.artifacts =
      (loop.handledPacket? pipeline datagram).toList.foldl .afterPacket loop.artifacts := by
  rw [onDatagram, handledPacket?]
  dsimp only
  cases (pipeline.processDatagram datagram loop.system.drainRecycle.metrics).2.2 with
  | none => rfl
  | some processed => exact onPacket_afterPacket pipeline.spec _ processed

private theorem handledPacket_stems {loop : OwnerLoop} {datagram : UdpDatagramDesc}
    {packet : HandledPacket} (handed : loop.handledPacket? pipeline datagram = some packet) :
    packet.Stems pipeline := by
  rw [handledPacket?, Option.map_eq_some_iff] at handed
  obtain ⟨processed, found, rfl⟩ := handed
  refine ⟨UdpDatagramPipeline.processDatagram_passed found, fun uncaptured => ?_⟩
  dsimp only [verdict] at uncaptured ⊢
  cases kind : processed.interpreted.kind with
  | dataPacket => rfl
  | controlTable | unknown =>
      rw [kind] at uncaptured
      cases uncaptured

private theorem datagramLoop_artifacts (datagrams : List UdpDatagramDesc) (loop : OwnerLoop)
    (total : PacketProcessStats) : (datagramLoop pipeline datagrams loop total).1.artifacts =
      (burstPackets pipeline datagrams loop).foldl .afterPacket loop.artifacts := by
  induction datagrams generalizing loop total with
  | nil => rfl
  | cons datagram rest ih =>
      have one := onDatagram_artifacts pipeline loop datagram
      rw [datagramLoop, burstPackets, List.foldl_append, ← one]
      dsimp only
      split
      · rfl
      · exact ih _ _

private theorem mainLoop_artifacts (received : List Received) (loop : OwnerLoop) :
    (mainLoop pipeline received loop).artifacts =
      (handledPackets pipeline received loop).foldl .afterPacket loop.artifacts := by
  induction received generalizing loop with
  | nil => rfl
  | cons first rest ih =>
      cases first with
      | failed => rfl
      | burst datagrams nowNs =>
          have burst : (loop.processBurst pipeline datagrams).artifacts =
              (burstPackets pipeline datagrams loop).foldl .afterPacket loop.artifacts := by
            rw [← datagramLoop_artifacts datagrams loop {}, processBurst]
            dsimp only
            split <;> rfl
          rw [mainLoop, handledPackets, List.foldl_append, ← burst]
          split
          · rfl
          · exact ih _

private theorem burstPackets_stem (datagrams : List UdpDatagramDesc) (loop : OwnerLoop) :
    ∀ packet ∈ burstPackets pipeline datagrams loop, packet.Stems pipeline := by
  induction datagrams generalizing loop with
  | nil => exact List.forall_mem_nil _
  | cons datagram rest ih =>
      rw [burstPackets, List.forall_mem_append]
      refine ⟨fun packet member => handledPacket_stems (Option.mem_toList.mp member), ?_⟩
      split
      · exact List.forall_mem_nil _
      · exact ih _

theorem handledPackets_stem (received : List Received) (loop : OwnerLoop) :
    ∀ packet ∈ handledPackets pipeline received loop, packet.Stems pipeline := by
  induction received generalizing loop with
  | nil => exact List.forall_mem_nil _
  | cons first rest ih =>
      cases first with
      | failed => exact List.forall_mem_nil _
      | burst datagrams nowNs =>
          rw [handledPackets, List.forall_mem_append]
          refine ⟨burstPackets_stem datagrams loop, ?_⟩
          split
          · exact List.forall_mem_nil _
          · exact ih _

/-- The packets that a run has captured, in order. -/
def capturedPackets (pipeline : UdpDatagramPipeline) (received : List Received)
    (loop : OwnerLoop) : List ProcessedPacket :=
  ((handledPackets pipeline received loop).filter HandledPacket.captured).map HandledPacket.processed

private theorem foldl_afterPacket (packets : List HandledPacket) (artifacts : CaptureArtifacts) :
    packets.foldl .afterPacket artifacts =
      ((packets.filter HandledPacket.captured).map HandledPacket.processed).foldl .capture artifacts := by
  induction packets generalizing artifacts with
  | nil => rfl
  | cons packet rest ih =>
      rw [List.foldl_cons, ih, CaptureArtifacts.afterPacket]
      cases captured : packet.captured with
      | false => rw [List.filter_cons_of_neg (ne_true_of_eq_false captured), if_neg Bool.false_ne_true]
      | true => rw [List.filter_cons_of_pos captured, if_pos rfl, List.map_cons, List.foldl_cons]

/-- A run leaves the capture of its captured packets. -/
theorem run_artifacts (config : RxConfig) (allowedSourceIpv4Be receiverIpv4Be : Nat)
    (consumerSchedule clock : List Nat) (received : List Received) :
    (run config allowedSourceIpv4Be receiverIpv4Be consumerSchedule clock received).artifacts =
      (capturedPackets (.ofConfig config allowedSourceIpv4Be receiverIpv4Be) received
        (start config consumerSchedule clock)).foldl .capture {} := by
  rw [capturedPackets, ← foldl_afterPacket]
  exact mainLoop_artifacts received (start config consumerSchedule clock)

/-! ## The order of the data packets -/

/-- The data packets that `on_packet` is called with, also those that it does not capture. -/
def dataPackets (pipeline : UdpDatagramPipeline) (received : List Received) (loop : OwnerLoop) :
    List ProcessedPacket :=
  ((handledPackets pipeline received loop).map HandledPacket.processed).filter
    (·.interpreted.kind = .dataPacket)

/-- `data_order_tracker` at the end of the main loop. -/
def dataOrder (pipeline : UdpDatagramPipeline) (received : List Received) (loop : OwnerLoop) :
    DataOrderTracker :=
  (DataOrderTracker.ofSpec pipeline.spec).observeAll
    ((dataPackets pipeline received loop).map ProcessedPacket.interpreted)

/-- What the final summary says about the order of the data packets of a run. All of them
count; the order is right if no packet deviates from the one before it, and otherwise the
first deviation is shown, with its number. -/
theorem data_order_summary_exact (pipeline : UdpDatagramPipeline) (received : List Received)
    (loop : OwnerLoop) :
    let packets := (dataPackets pipeline received loop).map ProcessedPacket.interpreted
    let summary := (dataOrder pipeline received loop).populateSummary {}
    summary.dataOrderCheckedPackets = packets.length ∧
      ((packets = [] ∧ summary.dataOrderAssessment = "无数据包" ∧
          summary.dataOrderFirstMismatch = "") ∨
        (packets ≠ [] ∧ List.IsChain (DataOrderTracker.Accepts pipeline.spec) packets ∧
          summary.dataOrderAssessment = "符合按 PRT 推进的和/差/差顺序" ∧
          summary.dataOrderFirstMismatch = "") ∨
        ∃ before last packet after, packets = before ++ last :: packet :: after ∧
          List.IsChain (DataOrderTracker.Accepts pipeline.spec) (before ++ [last]) ∧
          ¬ DataOrderTracker.Accepts pipeline.spec last packet ∧
          summary.dataOrderAssessment =
            (if DataOrderTracker.SkipsChannels pipeline.spec last packet then
              "偏离按 PRT 推进顺序，当前捕获更像按通道分批到达"
            else "偏离按 PRT 推进顺序") ∧
          summary.dataOrderFirstMismatch = DataOrderTracker.mismatchText (before.length + 2)
            (DataOrderTracker.buildNextExpected pipeline.spec last) packet) := by
  intro packets summary
  have checked : (dataOrder pipeline received loop).checkedPackets = packets.length :=
    (DataOrderTracker.observeAll_checkedPackets ..).trans (Nat.zero_add _)
  refine ⟨?_, ?_⟩
  · rw [← checked]
    exact DataOrderTracker.populateSummary_checked ..
  by_cases empty : packets = []
  · have none : (dataOrder pipeline received loop).checkedPackets = 0 := by rw [checked, empty]; rfl
    exact .inl ⟨empty, DataOrderTracker.populateSummary_none none {}⟩
  have some : (dataOrder pipeline received loop).checkedPackets ≠ 0 := by
    rwa [checked, ne_eq, List.length_eq_zero_iff]
  by_cases chain : List.IsChain (DataOrderTracker.Accepts pipeline.spec) packets
  · have matched := congrArg Prod.fst (DataOrderTracker.ofSpec_observeAll_accepted chain)
    exact .inr (.inl ⟨empty, chain, DataOrderTracker.populateSummary_matching some matched {}⟩)
  · obtain ⟨before, last, packet, after, split, inOrder, deviates⟩ :=
      DataOrderTracker.exists_first_deviation chain
    have noted : (dataOrder pipeline received loop).assessment = _ :=
      (congrArg (fun packets => ((DataOrderTracker.ofSpec pipeline.spec).observeAll packets).assessment)
        split).trans (DataOrderTracker.ofSpec_observeAll_deviating after inOrder deviates)
    have shown := DataOrderTracker.populateSummary_deviating some noted {}
    simp only [decide_eq_true_eq] at shown
    exact .inr (.inr ⟨before, last, packet, after, split, inOrder, deviates, shown⟩)

end OwnerLoop

end RxTech
