import RxTech.Core.BurstIndependence

/-!
# Handled datagrams

How far the owner loop gets in what its backend delivers, and what it writes into the
index stream on the way.
-/

set_option autoImplicit false

namespace RxTech

/-- The row of a datagram's packet, if the pipeline delivers it. -/
def UdpDatagramPipeline.row? (pipeline : UdpDatagramPipeline) (datagram : UdpDatagramDesc) :
    Option IndexRow :=
  (pipeline.processDatagram datagram {}).2.2.map ProcessedPacket.indexRow

namespace OwnerLoop

/-- The datagrams of a burst that the loop handles: all of them, or those up to an error. -/
def burstHandled (pipeline : UdpDatagramPipeline) :
    List UdpDatagramDesc → OwnerLoop → List UdpDatagramDesc
  | [], _ => []
  | datagram :: rest, loop =>
      let (next, stats) := loop.onDatagram pipeline datagram
      datagram ::
        if next.system.runError ≠ "" then []
        else
          burstHandled pipeline rest
            { next with filteredPackets := next.filteredPackets + stats.filteredPackets }

/-- The datagrams that the main loop handles. -/
def handled (pipeline : UdpDatagramPipeline) : List Received → OwnerLoop → List UdpDatagramDesc
  | [], _ => []
  | .failed :: _, _ => []
  | .burst datagrams nowNs :: rest, loop =>
      let next := loop.processBurst pipeline datagrams
      burstHandled pipeline datagrams loop ++
        if next.system.runError ≠ "" then []
        else handled pipeline rest (next.checkTimeout nowNs).drainRecycle

variable {loop next last : OwnerLoop} {rows others : List IndexRow}

/-- Some of the rows are written, in their order. -/
def Appends (loop next : OwnerLoop) (rows : List IndexRow) : Prop :=
  ∃ written, next.artifacts.indexStream = loop.artifacts.indexStream ++ written ∧
    written.Sublist rows

theorem Appends.nothing (same : next.artifacts = loop.artifacts) : loop.Appends next rows := by
  refine ⟨[], ?_, List.nil_sublist rows⟩
  rw [same, List.append_nil]

theorem Appends.then (first : loop.Appends next rows) (second : next.Appends last others) :
    loop.Appends last (rows ++ others) := by
  obtain ⟨written, stream, sublist⟩ := first
  obtain ⟨later, longer, ordered⟩ := second
  refine ⟨written ++ later, ?_, sublist.append ordered⟩
  rw [longer, stream, List.append_assoc]

private theorem onPacket_appends (spec : ProtocolSpec) (loop : OwnerLoop)
    (processed : ProcessedPacket) :
    loop.Appends (loop.onPacket spec processed) [processed.indexRow] := by
  have captured : ∃ written, loop.artifacts.indexStream ++ [processed.indexRow] =
      loop.artifacts.indexStream ++ written ∧ written.Sublist [processed.indexRow] :=
    ⟨_, rfl, List.Sublist.refl _⟩
  rw [onPacket]
  cases processed.interpreted.kind with
  | controlTable | unknown => exact captured
  | dataPacket =>
      dsimp only
      split
      · exact captured
      · exact .nothing rfl

private theorem onDatagram_appends (pipeline : UdpDatagramPipeline) (loop : OwnerLoop)
    (datagram : UdpDatagramDesc) :
    loop.Appends (loop.onDatagram pipeline datagram).1 (pipeline.row? datagram).toList := by
  obtain ⟨-, handed⟩ := pipeline.processDatagram_metrics datagram
    loop.system.drainRecycle.metrics
  rw [UdpDatagramPipeline.row?, ← handed, onDatagram]
  dsimp only
  cases (pipeline.processDatagram datagram loop.system.drainRecycle.metrics).2.2 with
  | none => exact .nothing rfl
  | some processed => exact onPacket_appends pipeline.spec _ processed

private theorem datagramLoop_appends (pipeline : UdpDatagramPipeline)
    (datagrams : List UdpDatagramDesc)
    (loop : OwnerLoop) (total : PacketProcessStats) :
    loop.Appends (datagramLoop pipeline datagrams loop total).1
      ((burstHandled pipeline datagrams loop).filterMap pipeline.row?) := by
  induction datagrams generalizing loop total with
  | nil => exact .nothing rfl
  | cons datagram rest ih =>
      have one := onDatagram_appends pipeline loop datagram
      have split (others : List UdpDatagramDesc) : (datagram :: others).filterMap pipeline.row? =
          (pipeline.row? datagram).toList ++ others.filterMap pipeline.row? := by
        rw [List.filterMap_cons]
        cases pipeline.row? datagram <;> rfl
      rw [datagramLoop, burstHandled]
      dsimp only
      rw [split]
      by_cases failed : (loop.onDatagram pipeline datagram).1.system.runError ≠ ""
      · rw [if_pos failed, if_pos failed]
        exact one.then (.nothing rfl)
      · rw [if_neg failed, if_neg failed]
        exact one.then (ih _ _)

private theorem processBurst_appends (pipeline : UdpDatagramPipeline) (loop : OwnerLoop)
    (datagrams : List UdpDatagramDesc) :
    loop.Appends (loop.processBurst pipeline datagrams)
      ((burstHandled pipeline datagrams loop).filterMap pipeline.row?) := by
  have looped := datagramLoop_appends pipeline datagrams loop {}
  rw [processBurst]
  dsimp only
  split
  · exact looped
  · exact looped

private theorem mainLoop_appends (pipeline : UdpDatagramPipeline) (received : List Received)
    (loop : OwnerLoop) :
    loop.Appends (mainLoop pipeline received loop)
      ((handled pipeline received loop).filterMap pipeline.row?) := by
  induction received generalizing loop with
  | nil => exact .nothing rfl
  | cons first rest ih =>
      cases first with
      | failed => exact .nothing rfl
      | burst datagrams nowNs =>
          have burst := processBurst_appends pipeline loop datagrams
          rw [mainLoop, handled, List.filterMap_append]
          by_cases failed : (loop.processBurst pipeline datagrams).system.runError ≠ ""
          · rw [if_pos failed, if_pos failed]
            exact burst.then (.nothing rfl)
          · rw [if_neg failed, if_neg failed]
            exact burst.then (ih _)

/-- The index stream of a run has rows of the handled datagrams, in their order. -/
theorem run_rows (config : RxConfig) (allowedSourceIpv4Be receiverIpv4Be : Nat)
    (consumerSchedule clock : List Nat) (received : List Received) :
    let pipeline := UdpDatagramPipeline.ofConfig config allowedSourceIpv4Be receiverIpv4Be
    (run config allowedSourceIpv4Be receiverIpv4Be consumerSchedule clock
      received).artifacts.indexStream.Sublist
        ((handled pipeline received (start config consumerSchedule clock)).filterMap
          pipeline.row?) := by
  intro pipeline
  obtain ⟨written, stream, sublist⟩ := mainLoop_appends pipeline received
    (start config consumerSchedule clock)
  exact stream ▸ sublist

/-- The handled datagrams are the first of those that are received. -/
theorem burstHandled_early (pipeline : UdpDatagramPipeline) (datagrams : List UdpDatagramDesc)
    (loop : OwnerLoop) : burstHandled pipeline datagrams loop <+: datagrams := by
  induction datagrams generalizing loop with
  | nil => exact List.nil_prefix
  | cons datagram rest ih =>
      rw [burstHandled]
      dsimp only
      refine (List.prefix_cons_inj datagram).mpr ?_
      split
      · exact List.nil_prefix
      · exact ih _

theorem mem_of_mem_handled {pipeline : UdpDatagramPipeline} {received : List Received}
    {loop : OwnerLoop} {datagram : UdpDatagramDesc}
    (member : datagram ∈ handled pipeline received loop) :
    datagram ∈ datagramsReceived received := by
  induction received generalizing loop with
  | nil => exact member
  | cons first rest ih =>
      cases first with
      | failed => exact member
      | burst datagrams nowNs =>
          rw [handled] at member
          rw [datagramsReceived]
          rcases List.mem_append.mp member with here | later
          · exact List.mem_append_left _ ((burstHandled_early pipeline datagrams loop).subset here)
          · refine List.mem_append_right _ ?_
            split at later
            · cases later
            · exact ih later

end OwnerLoop

end RxTech
