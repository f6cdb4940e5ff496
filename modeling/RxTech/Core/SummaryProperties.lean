import RxTech.Core.StoredRows
import RxTech.Core.Streams
import RxTech.Core.BurstIndependence

/-!
# Complete PRTs and ready PRTs

A context counts its complete PRTs on its own, the final summary counts them by CPI id over
the whole run. The summary counts every PRT that is ready in an output, but two outputs of
one CPI id with the same PRT only once.
-/

set_option autoImplicit false

namespace RxTech

namespace CpiPrtCoverageMap

variable {spec : ProtocolSpec} {coverage : CpiPrtCoverageMap} {cpi other : UInt16}
  {coord place : SlotCoord}

/-- A packet of the CPI with these coordinates has been recorded. -/
def Covers (coverage : CpiPrtCoverageMap) (cpi : UInt16) (coord : SlotCoord) : Prop :=
  ∃ entry ∈ coverage.lookup (cpi, coord.prt),
    ∃ received ∈ entry.lookup coord.channel, coord.packetIndex ∈ received

private theorem not_covers_empty : ¬ Covers ∅ cpi coord := by
  rintro ⟨entry, present, -⟩
  cases present

private theorem covers_insertPacket_iff : (coverage.insertPacket cpi coord).Covers other place ↔
    (cpi = other ∧ coord = place) ∨ coverage.Covers other place := by
  have absent : ¬ ∃ received ∈ (∅ : ProtocolPrtCoverage).lookup place.channel,
      place.packetIndex ∈ received := by
    rintro ⟨received, present, -⟩
    cases present
  have whole : (coverage.insertPacket cpi coord).Covers other place ↔ _ :=
    DefaultMap.related_alter_iff (fun entry : ProtocolPrtCoverage =>
        ∃ received ∈ entry.lookup place.channel, place.packetIndex ∈ received) absent
      fun entry => DefaultMap.related_alter_iff (fun received : Finset Nat =>
        place.packetIndex ∈ received) (Finset.notMem_empty _) fun received => Finset.mem_insert
  refine whole.trans (or_congr ?_ Iff.rfl)
  obtain ⟨prt, channel, packetIndex⟩ := coord
  obtain ⟨prt', channel', packetIndex'⟩ := place
  simp only [Prod.mk.injEq, SlotCoord.mk.injEq]
  constructor
  · rintro ⟨⟨rfl, rfl⟩, rfl, rfl⟩
    exact ⟨rfl, rfl, rfl, rfl⟩
  · rintro ⟨rfl, rfl, rfl, rfl⟩
    exact ⟨⟨rfl, rfl⟩, rfl, rfl⟩

/-- The coverage of a run has exactly the data packets of the index stream. -/
theorem covers_ofRows_iff {rows : List IndexRow} : (ofRows rows).Covers cpi coord ↔
    ∃ row ∈ rows, row.packetKind = .dataPacket ∧ row.cpi = cpi ∧ row.coord = coord := by
  have folded (kept : List IndexRow) (coverage : CpiPrtCoverageMap) :
      (kept.foldl (fun coverage row => coverage.insertPacket row.cpi row.coord) coverage).Covers
        cpi coord ↔ (∃ row ∈ kept, row.cpi = cpi ∧ row.coord = coord) ∨
          coverage.Covers cpi coord := by
    induction kept generalizing coverage with
    | nil => simp
    | cons row rest ih =>
        rw [List.foldl_cons, ih, covers_insertPacket_iff, List.exists_mem_cons_iff, or_left_comm,
          or_assoc]
  rw [ofRows, folded]
  simp only [not_covers_empty, or_false, List.mem_filter, decide_eq_true_eq, and_assoc]

/-- The summary counts an entry if each packet of its PRT has been recorded. -/
theorem complete_of_covers (formed : spec.WellFormed) {prt : Nat}
    (whole : ∀ channel packetIndex, channel < spec.channelsPerPrt → 1 ≤ packetIndex →
      packetIndex ≤ spec.packetsPerChannel → coverage.Covers cpi ⟨prt, channel, packetIndex⟩) :
    ∃ entry ∈ coverage.lookup (cpi, prt), entry.isComplete spec = true := by
  obtain ⟨entry, present, -⟩ := whole 0 1 formed.channels_pos (Nat.le_refl 1) formed.packets_pos
  have each (channel packetIndex : Nat) (inside : channel < spec.channelsPerPrt)
      (pos : 1 ≤ packetIndex) (le : packetIndex ≤ spec.packetsPerChannel) :
      ∃ received ∈ entry.lookup channel, packetIndex ∈ received := by
    obtain ⟨same, here, received⟩ := whole channel packetIndex inside pos le
    obtain rfl := Option.some.inj (present.symm.trans here)
    exact received
  refine ⟨entry, present, List.all_eq_true.mpr fun channel member => ?_⟩
  have inside := List.mem_range.mp member
  obtain ⟨received, found, -⟩ := each channel 1 inside (Nat.le_refl 1) formed.packets_pos
  rw [Option.mem_def.mp found]
  refine List.all_eq_true.mpr fun packetIndex inRange => ?_
  obtain ⟨pos, below⟩ := List.mem_range'_1.mp inRange
  obtain ⟨same, here, has⟩ := each channel packetIndex inside pos (by omega)
  obtain rfl := Option.some.inj (found.symm.trans here)
  exact decide_eq_true has

end CpiPrtCoverageMap

/-! ## Ready PRTs -/

/-- The PRTs that are complete in a context. -/
def CpiContext.readyPrts (ctx : CpiContext) : List Nat :=
  ((List.range kCpiPrtMax).filter fun index =>
    Bits.hasAny (ctx.prtSummary index).flags prtFlagComplete).map (· + 1)

theorem CpiContext.nodup_readyPrts (ctx : CpiContext) : ctx.readyPrts.Nodup :=
  (List.nodup_range.filter _).map (add_left_injective 1)

theorem Progressed.length_readyPrts {spec : ProtocolSpec} {packets : List ParsedPacketView}
    {ctx : CpiContext} (progressed : Progressed spec packets ctx) :
    ctx.readyPrts.length = ctx.header.readyPrtCount := by
  rw [CpiContext.readyPrts, List.length_map, progressed.readyPrt, List.countP_eq_length_filter]

/-- The context has stored every packet of the PRT. -/
def ReceivedWhole (spec : ProtocolSpec) (log : List WindowEvent) (ctx : CpiContext) (prt : Nat) :
    Prop :=
  ∀ channel packetIndex, channel < spec.channelsPerPrt → 1 ≤ packetIndex →
    packetIndex ≤ spec.packetsPerChannel →
      ∃ packet ∈ receivedBy log ctx.birth, packet.coord = ⟨prt, channel, packetIndex⟩

theorem Filed.receivedWhole {spec : ProtocolSpec} {log : List WindowEvent} {ctx : CpiContext}
    (filed : Filed spec log ctx) {prt : Nat} (ready : prt ∈ ctx.readyPrts) :
    ReceivedWhole spec log ctx prt := by
  obtain ⟨index, member, rfl⟩ := List.mem_map.mp ready
  obtain ⟨-, complete⟩ := List.mem_filter.mp member
  intro channel packetIndex inside pos le
  exact filed.reception.prt_whole complete inside pos le

/-- No PRT of a CPI id was received whole by two contexts that outputs were made from. -/
def CompletedOnce (spec : ProtocolSpec) (log : List WindowEvent) : Prop :=
  (productions log).Pairwise fun first second => first.output.cpiId = second.output.cpiId →
    ∀ prt, ReceivedWhole spec log first.ctx prt → ¬ ReceivedWhole spec log second.ctx prt

/-- This holds where no two outputs have the same CPI id. -/
theorem completedOnce_of_nodup {spec : ProtocolSpec} {log : List WindowEvent}
    (distinct : ((productions log).map fun production => production.output.cpiId).Nodup) :
    CompletedOnce spec log :=
  (List.pairwise_map.mp distinct).imp fun apart same => absurd same apart

/-- A ready PRT of an output, as the summary names it. -/
def Production.readyKeys (production : Production) : List (UInt16 × Nat) :=
  production.ctx.readyPrts.map fun prt => (production.output.cpiId, prt)

theorem Production.nodup_readyKeys (production : Production) : production.readyKeys.Nodup :=
  production.ctx.nodup_readyPrts.map (Prod.mk_right_injective _)

namespace Windows

variable {spec : ProtocolSpec} {w : Windows} {rows : List IndexRow}

/-- A ready PRT of an output has its entry in the coverage, and the entry is complete. -/
theorem Indexed.readyKey_complete (indexed : w.Indexed rows) (formed : spec.WellFormed)
    (archives : w.Archives spec) (reads : w.ReadsOff spec) {production : Production}
    (made : production ∈ productions w.log) {key : UInt16 × Nat}
    (ready : key ∈ production.readyKeys) :
    ∃ entry ∈ (CpiPrtCoverageMap.ofRows rows).lookup key, entry.isComplete spec = true := by
  obtain ⟨prt, inContext, rfl⟩ := List.mem_map.mp ready
  obtain ⟨filed, -⟩ := archives _ _ _ (mem_productions made)
  have named : production.output.cpiId = production.ctx.header.cpiId := by
    rw [(reads _ _ _ (mem_productions made)).made]
    rfl
  refine CpiPrtCoverageMap.complete_of_covers formed fun channel packetIndex inside pos le => ?_
  obtain ⟨packet, received, is⟩ := filed.receivedWhole inContext channel packetIndex inside pos le
  obtain ⟨ctx, stored⟩ := stored_of_receivedBy received
  obtain ⟨row, member, kind, cpi, coord⟩ := indexed packet ctx stored
  refine CpiPrtCoverageMap.covers_ofRows_iff.mpr ⟨row, member, kind, ?_, coord.trans is⟩
  rw [cpi, filed.own packet received, named]

private theorem nodup_readyKeys (archives : w.Archives spec) (once : CompletedOnce spec w.log) :
    ((productions w.log).flatMap Production.readyKeys).Nodup := by
  refine List.nodup_flatMap.mpr ⟨fun production _ => production.nodup_readyKeys, ?_⟩
  refine List.Pairwise.imp_of_mem (fun {first second} firstMade secondMade apart => ?_) once
  intro key inFirst inSecond
  obtain ⟨prt, ready, rfl⟩ := List.mem_map.mp inFirst
  obtain ⟨prt', ready', same⟩ := List.mem_map.mp inSecond
  obtain ⟨sameCpi, rfl⟩ := Prod.mk.inj same
  obtain ⟨filed, -⟩ := archives _ _ _ (mem_productions firstMade)
  obtain ⟨filed', -⟩ := archives _ _ _ (mem_productions secondMade)
  exact apart sameCpi.symm _ (filed.receivedWhole ready) (filed'.receivedWhole ready')

private theorem length_readyKeys (archives : w.Archives spec) (reads : w.ReadsOff spec) :
    ((productions w.log).flatMap Production.readyKeys).length =
      ((productions w.log).map fun production => production.output.readyPrtCount).sum := by
  rw [List.length_flatMap]
  refine congrArg List.sum (List.map_congr_left fun production made => ?_)
  obtain ⟨filed, -⟩ := archives _ _ _ (mem_productions made)
  have read := reads _ _ _ (mem_productions made)
  rw [Production.readyKeys, List.length_map, filed.reception.progressed.length_readyPrts,
    read.readyPrt]

end Windows

/-- What the outputs of a run declare ready, summed. -/
def OwnerLoop.readyPrtTotal (loop : OwnerLoop) : Nat :=
  ((productions loop.system.windowLog).map fun production => production.output.readyPrtCount).sum

/-- In a run in which no PRT of a CPI id is received whole by two contexts with outputs, the
final summary counts at least as many complete PRTs as its outputs declare ready. -/
theorem summary_counts_ready_prts (config : RxConfig) (allowedSourceIpv4Be receiverIpv4Be : Nat)
    (consumerSchedule clock : List Nat) (received : List Received) :
    let spec := protocolSpecFromConfig config
    let loop := OwnerLoop.run config allowedSourceIpv4Be receiverIpv4Be consumerSchedule clock
      received
    CompletedOnce spec loop.system.windowLog →
      loop.readyPrtTotal ≤ loop.prtCoverage.completePrtCount spec := by
  intro spec loop once
  have formed := protocolSpecFromConfig_wellFormed config
  obtain ⟨vouched, indexed⟩ := OwnerLoop.run_indexes config allowedSourceIpv4Be receiverIpv4Be
    consumerSchedule clock received
  have found : ∀ key ∈ (productions loop.system.windowLog).flatMap Production.readyKeys,
      ∃ entry ∈ loop.prtCoverage.lookup key, entry.isComplete spec = true := by
    intro key member
    obtain ⟨production, made, ready⟩ := List.mem_flatMap.mp member
    exact indexed.readyKey_complete formed vouched.archives vouched.reads made ready
  calc loop.readyPrtTotal
      = ((productions loop.system.windowLog).flatMap Production.readyKeys).length :=
        (Windows.length_readyKeys vouched.archives vouched.reads).symm
    _ ≤ loop.prtCoverage.completePrtCount spec :=
        DefaultMap.length_le_countP _ (Windows.nodup_readyKeys vouched.archives once) found

/-- One PRT with one packet. -/
def loneConfig : RxConfig :=
  { pairConfig with protocolUdpPacketSize := 1920, protocolPacketsPerChannel := 1 }

/-- A run on one burst that has CPIs of one packet. -/
def loneRun (cpis : List UInt8) : OwnerLoop :=
  OwnerLoop.run loneConfig 0 0 [] [] [.burst (cpis.map .wholeCpi) 0]

theorem summary_counts_ready_prts_two_cpis :
    let spec := protocolSpecFromConfig loneConfig
    let loop := loneRun [1, 2]
    loop.readyPrtTotal = 2 ∧ loop.readyPrtTotal ≤ loop.prtCoverage.completePrtCount spec := by
  intro spec loop
  have once : CompletedOnce spec loop.system.windowLog :=
    completedOnce_of_nodup (by decide +kernel)
  exact ⟨by decide +kernel, summary_counts_ready_prts loneConfig 0 0 [] []
    [.burst ([1, 2].map .wholeCpi) 0] once⟩

/-- CPI id 1 comes again after eight others have been closed. Its PRT is ready in two
outputs and complete once. -/
theorem summary_misses_reused_cpi :
    let spec := protocolSpecFromConfig loneConfig
    let loop := loneRun [1, 2, 3, 4, 5, 6, 7, 8, 9, 1]
    loop.system.runError = "" ∧ loop.readyPrtTotal = 10 ∧
      loop.prtCoverage.completePrtCount spec = 9 ∧
      ¬ loop.readyPrtTotal ≤ loop.prtCoverage.completePrtCount spec := by
  intro spec loop
  have counts : (loop.system.runError, loop.readyPrtTotal,
      loop.prtCoverage.completePrtCount spec) = ("", 10, 9) := by decide +kernel
  simp only [Prod.mk.injEq] at counts
  obtain ⟨clear, ready, complete⟩ := counts
  refine ⟨clear, ready, complete, ?_⟩
  rw [ready, complete]
  decide

end RxTech
