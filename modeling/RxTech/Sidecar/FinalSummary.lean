import RxTech.Core.OwnerLoop
import RxTech.Cpi.Slots
import RxTech.Library.DefaultMap
import Mathlib.Data.Finset.Insert

/-!
# Complete PRTs in the final summary

`OwnerLoopRuntimeState` keeps which packets came for each CPI id and PRT over the whole run,
and `build_final_summary` counts the PRTs of which none is missing.
-/

set_option autoImplicit false

namespace RxTech

/-- By channel, the indices of the packets that came. -/
abbrev ProtocolPrtCoverage := AList fun _ : Nat => Finset Nat

/-- By CPI id and PRT. -/
abbrev CpiPrtCoverageMap := AList fun _ : UInt16 × Nat => ProtocolPrtCoverage

namespace CpiPrtCoverageMap

def insertPacket (coverage : CpiPrtCoverageMap) (cpi : UInt16) (coord : SlotCoord) :
    CpiPrtCoverageMap :=
  DefaultMap.alter ∅ (cpi, coord.prt)
    (DefaultMap.alter ∅ coord.channel (insert coord.packetIndex)) coverage

/-- What `record_data_packet` does to `prt_coverage`. -/
def recordDataPacket (coverage : CpiPrtCoverageMap) (packet : InterpretedPacketView) :
    CpiPrtCoverageMap :=
  insertPacket coverage packet.cpi ⟨packet.prt, packet.channel, packet.packetIndex⟩

end CpiPrtCoverageMap

/-- The test of `build_final_summary`. -/
def ProtocolPrtCoverage.isComplete (spec : ProtocolSpec) (entry : ProtocolPrtCoverage) : Bool :=
  (List.range spec.channelsPerPrt).all fun channel =>
    match entry.lookup channel with
    | none => false
    | some received =>
        (List.range' 1 spec.packetsPerChannel).all fun packetIndex => packetIndex ∈ received

/-- `complete_prt_count` of `build_final_summary`. -/
def CpiPrtCoverageMap.completePrtCount (spec : ProtocolSpec) (coverage : CpiPrtCoverageMap) : Nat :=
  coverage.entries.countP fun entry => ProtocolPrtCoverage.isComplete spec entry.2

/-! ## The coverage of a run -/

def IndexRow.coord (row : IndexRow) : SlotCoord := ⟨row.prt, row.channel, row.packetIndex⟩

/-- The coverage that the rows of data packets leave. -/
def CpiPrtCoverageMap.ofRows (rows : List IndexRow) : CpiPrtCoverageMap :=
  (rows.filter fun row => row.packetKind = .dataPacket).foldl
    (fun coverage row => coverage.insertPacket row.cpi row.coord) ∅

/-- `prt_coverage` of the loop. A data packet is recorded right before its row of the index
stream is written, so the rows say what was recorded. -/
def OwnerLoop.prtCoverage (loop : OwnerLoop) : CpiPrtCoverageMap :=
  .ofRows loop.artifacts.indexStream

namespace OwnerLoop

private theorem capture_prtCoverage (loop : OwnerLoop) (processed : ProcessedPacket) :
    (loop.capture processed).prtCoverage =
      if processed.interpreted.kind = .dataPacket then
        loop.prtCoverage.recordDataPacket processed.interpreted
      else loop.prtCoverage := by
  simp only [prtCoverage, capture, CaptureArtifacts.capture, CpiPrtCoverageMap.ofRows,
    List.filter_append, List.foldl_append]
  split
  · rename_i data
    have kept : ([processed.indexRow].filter fun row => row.packetKind = .dataPacket) =
        [processed.indexRow] := by
      simp [ProcessedPacket.indexRow, data]
    rw [kept]
    rfl
  · rename_i other
    have left : ([processed.indexRow].filter fun row => row.packetKind = .dataPacket) = [] := by
      simp [ProcessedPacket.indexRow, other]
    rw [left]
    rfl

/-- `on_packet` records a data packet exactly if the coordinator accepts it. -/
theorem onPacket_prtCoverage (spec : ProtocolSpec) (loop : OwnerLoop)
    (processed : ProcessedPacket) :
    (loop.onPacket spec processed).prtCoverage =
      if processed.interpreted.kind = .dataPacket ∧ (loop.onDataPacket spec processed).2 = true then
        loop.prtCoverage.recordDataPacket processed.interpreted
      else loop.prtCoverage := by
  simp only [onPacket]
  cases kind : processed.interpreted.kind with
  | unknown => simp only [capture_prtCoverage, kind, reduceCtorEq, false_and, if_false]
  | controlTable =>
      simp only [capture_prtCoverage, kind, reduceCtorEq, false_and, if_false]
      rfl
  | dataPacket =>
      simp only [true_and]
      split
      · rw [capture_prtCoverage, if_pos kind]
        rfl
      · rfl

end OwnerLoop

end RxTech
