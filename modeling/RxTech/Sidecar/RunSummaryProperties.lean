import RxTech.Sidecar.RunSummary

/-!
# The run summary tells what was captured

The runtime state is kept packet by packet in maps and sets. What the final summary says of
them are answers to questions about the rows of the index stream.
-/

set_option autoImplicit false

namespace RxTech

open DefaultMap (gather group orderedKeys lookup_gather foldl_insert foldl_last)

/-- The samples in a data packet that the interpreter has let through. -/
theorem interpret_iqCount {spec : ProtocolSpec} {parsed : ParsedPacketView}
    (kind : parsed.kind = .dataPacket)
    (accepted : (ProtocolSequenceInterpreter.interpret spec parsed).valid = true) :
    (ProtocolSequenceInterpreter.interpret spec parsed).iqCount =
      if (ProtocolSequenceInterpreter.interpret spec parsed).packetIndex = spec.packetsPerChannel
      then spec.iqPerLastPacket
      else spec.iqPerFullPacket := by
  obtain ⟨-, -, -, index⟩ := interpret_fields kind accepted
  rw [index]
  revert accepted
  simp only [ProtocolSequenceInterpreter.interpret, kind]
  split
  · rintro ⟨⟩
  split
  · rintro ⟨⟩
  split
  · rintro ⟨⟩
  split
  · rintro ⟨⟩
  split
  · rintro ⟨⟩
  split
  · split
    · rintro ⟨⟩
    split
    · exact fun _ => rfl
    · rintro ⟨⟩
  · exact fun _ => rfl

/-- The row is that of a slot. -/
structure IndexRow.InSlot (spec : ProtocolSpec) (row : IndexRow) : Prop where
  channel : row.channel < spec.channelsPerPrt
  packetIndex_pos : 1 ≤ row.packetIndex
  packetIndex_le : row.packetIndex ≤ spec.packetsPerChannel

namespace ProtocolSpec.Accepts

variable {spec : ProtocolSpec} {payload : List UInt8}

private theorem inSlot (accepts : spec.Accepts payload)
    (kind : (spec.rereadRow payload).packetKind = .dataPacket) :
    (spec.rereadRow payload).InSlot spec := by
  have parsed : (spec.reread payload).1.kind = .dataPacket :=
    (interpret_kind spec (spec.reread payload).1).symm.trans kind
  obtain ⟨-, -, channel, index⟩ := interpret_fields parsed accepts.accepted
  obtain ⟨-, inside, pos, le, -⟩ := validate_dataChecks parsed accepts.validated
  refine ⟨?_, ?_, ?_⟩
  · exact Nat.lt_of_le_of_lt (Nat.le_of_eq channel) inside
  · exact Nat.le_trans pos (Nat.le_of_eq index.symm)
  · exact Nat.le_trans (Nat.le_of_eq index) le

theorem iqCount (accepts : spec.Accepts payload)
    (kind : (spec.reread payload).2.kind = .dataPacket) :
    (spec.reread payload).2.iqCount = (spec.rereadRow payload).iqCount spec := by
  have parsed : (spec.reread payload).1.kind = .dataPacket :=
    (interpret_kind spec (spec.reread payload).1).symm.trans kind
  exact interpret_iqCount parsed accepts.accepted

end ProtocolSpec.Accepts

theorem IndexRow.data_inSlot {spec : ProtocolSpec} {payloads : List (List UInt8)}
    (accepts : ∀ payload ∈ payloads, spec.Accepts payload) :
    ∀ row ∈ IndexRow.data (payloads.map spec.rereadRow), row.InSlot spec := by
  intro row member
  obtain ⟨inRows, kind⟩ := List.mem_filter.mp member
  obtain ⟨payload, present, rfl⟩ := List.mem_map.mp inRows
  exact (accepts payload present).inSlot (of_decide_eq_true kind)

/-! ## The parts of the runtime state -/

namespace OwnerLoopRuntimeState

variable {spec : ProtocolSpec} {payloads : List (List UInt8)}

/-- The part is changed by data packets only, as `record_data_packet` and
`record_captured_packet` change it. -/
theorem recount_data {Part : Type} (part : OwnerLoopRuntimeState → Part)
    (count : IndexRow → Part → Part)
    (apart : ∀ (state : OwnerLoopRuntimeState) uniqueCpis,
      part { state with uniqueCpis } = part state)
    (counts : ∀ (state : OwnerLoopRuntimeState) payload, spec.Accepts payload →
      (spec.reread payload).2.kind = .dataPacket →
      part ((state.recordDataPacket spec (spec.reread payload).1
          (spec.reread payload).2).recordCapturedPacket (spec.reread payload).2) =
        count (spec.rereadRow payload) (part state))
    (accepts : ∀ payload ∈ payloads, spec.Accepts payload) :
    part (recount spec payloads) =
      (IndexRow.data (payloads.map spec.rereadRow)).foldl (fun part row => count row part)
        (part {}) := by
  refine recount_part part count (fun state payload accepted => ?_) accepts
  rw [onPacket]
  cases kind : (spec.reread payload).2.kind with
  | controlTable | unknown =>
      simp only [recordCapturedPacket, kind, reduceCtorEq, if_false]
      exact apart ..
  | dataPacket =>
      rw [if_pos rfl, ← apart state, ← counts _ payload accepted kind]
      rfl

/-- What the row of a data packet adds to the statistics of its channel. -/
def addChannel (spec : ProtocolSpec) (row : IndexRow) (stats : ProtocolChannelStats) :
    ProtocolChannelStats where
  dataPackets := stats.dataPackets + 1
  iqCount := stats.iqCount + row.iqCount spec

def addCpi (row : IndexRow) (stats : ProtocolCpiStats) : ProtocolCpiStats where
  dataPackets := stats.dataPackets + 1
  prts := insert row.prt stats.prts

def addCoverage (row : IndexRow) (entry : ProtocolPrtCoverage) : ProtocolPrtCoverage :=
  DefaultMap.alter ∅ row.channel (insert row.packetIndex) entry

/-- The parts of the runtime state, by the rows of data packets. -/
structure Tells (spec : ProtocolSpec) (rows : List IndexRow) (state : OwnerLoopRuntimeState) :
    Prop where
  uniquePrts : state.uniquePrts = (rows.map IndexRow.prt).toFinset
  uniqueChannels : state.uniqueChannels = (rows.map IndexRow.channel).toFinset
  channelStats : state.channelStats = gather {} IndexRow.channel (addChannel spec) rows ∅
  cpiStats : state.cpiStats = gather {} IndexRow.cpi addCpi rows ∅
  prtCoverage : state.prtCoverage = gather ∅ IndexRow.key addCoverage rows ∅
  latest : (state.latestDataSeen, state.latestDataCpi, state.latestDataPrt) =
    (rows.getLast?.map fun last => (true, last.cpi, last.prt)).getD (false, 0, 0)

private theorem recount_tells (accepts : ∀ payload ∈ payloads, spec.Accepts payload) :
    (recount spec payloads).Tells spec (IndexRow.data (payloads.map spec.rereadRow)) := by
  have captured (state : OwnerLoopRuntimeState) (payload : List UInt8)
      (kind : (spec.reread payload).2.kind = .dataPacket) :
      state.recordCapturedPacket (spec.reread payload).2 = { state with
        uniquePrts := insert (spec.reread payload).2.prt state.uniquePrts
        uniqueChannels := insert (spec.reread payload).2.channel state.uniqueChannels } :=
    if_pos kind
  constructor
  · have folded := recount_data uniquePrts (fun row prts => insert row.prt prts)
      (fun _ _ => rfl) (fun state payload _ kind => by rw [captured _ _ kind]; rfl) accepts
    rw [folded, foldl_insert]
    exact Finset.union_empty _
  · have folded := recount_data uniqueChannels (fun row channels => insert row.channel channels)
      (fun _ _ => rfl) (fun state payload _ kind => by rw [captured _ _ kind]; rfl) accepts
    rw [folded, foldl_insert]
    exact Finset.union_empty _
  · refine recount_data channelStats (fun row => DefaultMap.alter {} row.channel
      (addChannel spec row)) (fun _ _ => rfl) (fun state payload accepted kind => ?_) accepts
    have samples : countChannel (spec.reread payload).2 =
        addChannel spec (spec.rereadRow payload) := by
      funext stats
      rw [countChannel, accepted.iqCount kind, addChannel]
    rw [captured _ _ kind, ← samples]
    rfl
  · exact recount_data cpiStats (fun row => DefaultMap.alter {} row.cpi (addCpi row))
      (fun _ _ => rfl) (fun state payload _ kind => by rw [captured _ _ kind]; rfl) accepts
  · exact recount_data prtCoverage (fun row => DefaultMap.alter ∅ row.key (addCoverage row))
      (fun _ _ => rfl) (fun state payload _ kind => by rw [captured _ _ kind]; rfl) accepts
  · have folded := recount_data
      (fun state => (state.latestDataSeen, state.latestDataCpi, state.latestDataPrt))
      (fun row _ => (true, row.cpi, row.prt)) (fun _ _ => rfl)
      (fun state payload _ kind => by rw [captured _ _ kind]; rfl) accepts
    exact folded.trans (foldl_last (fun row : IndexRow => (true, row.cpi, row.prt)) _ _)

end OwnerLoopRuntimeState

/-! ## Groups of rows -/

section Groups

variable {spec : ProtocolSpec} {rows : List IndexRow}

private theorem foldl_addChannel (spec : ProtocolSpec) (rows : List IndexRow)
    (stats : ProtocolChannelStats) :
    rows.foldl (fun stats row => OwnerLoopRuntimeState.addChannel spec row stats) stats =
      { dataPackets := stats.dataPackets + rows.length
        iqCount := stats.iqCount + (rows.map (IndexRow.iqCount spec)).sum } := by
  induction rows generalizing stats with
  | nil => rfl
  | cons row rest ih =>
      rw [List.foldl_cons, ih, List.length_cons, List.map_cons, List.sum_cons,
        OwnerLoopRuntimeState.addChannel, Nat.add_comm rest.length, ← Nat.add_assoc,
        ← Nat.add_assoc]

private theorem foldl_addCpi (rows : List IndexRow) (stats : ProtocolCpiStats) :
    rows.foldl (fun stats row => OwnerLoopRuntimeState.addCpi row stats) stats =
      { dataPackets := stats.dataPackets + rows.length
        prts := (rows.map IndexRow.prt).toFinset ∪ stats.prts } := by
  induction rows generalizing stats with
  | nil => rw [List.map_nil, List.toFinset_nil, Finset.empty_union]; rfl
  | cons row rest ih =>
      rw [List.foldl_cons, ih, List.length_cons, OwnerLoopRuntimeState.addCpi, List.map_cons,
        List.toFinset_cons, Finset.union_insert, Finset.insert_union, Nat.add_comm rest.length,
        ← Nat.add_assoc]

/-- The coverage of a PRT, made from its own rows. -/
def ProtocolPrtCoverage.ofRows (own : List IndexRow) : ProtocolPrtCoverage :=
  gather ∅ IndexRow.channel (fun row => insert row.packetIndex) own ∅

namespace ProtocolPrtCoverage

variable {own : List IndexRow} {channel : Nat}

private theorem lookup_ofRows (some : group IndexRow.channel own channel ≠ []) :
    (ofRows own).lookup channel =
      .some ((group IndexRow.channel own channel).map IndexRow.packetIndex).toFinset := by
  rw [ofRows, lookup_gather _ _ (DefaultMap.group_ne_nil_iff.mp some), foldl_insert,
    Finset.union_empty]

private theorem lookup_ofRows_none (none : group IndexRow.channel own channel = []) :
    (ofRows own).lookup channel = .none := by
  rw [ofRows, DefaultMap.lookup_gather_none (AList.lookup_empty channel), if_pos none]

private theorem packetCount_ofRows (own : List IndexRow) (channel : Nat) :
    (ofRows own).packetCount channel =
      ((group IndexRow.channel own channel).map IndexRow.packetIndex).dedup.length := by
  rw [packetCount]
  by_cases none : group IndexRow.channel own channel = []
  · rw [lookup_ofRows_none none, none]
    rfl
  · rw [lookup_ofRows none, Option.map_some, Option.getD_some, List.card_toFinset]

private theorem hasAll_ofRows (formed : spec.WellFormed) (own : List IndexRow) :
    (ofRows own).hasAll spec = true ↔ ∀ channel < spec.channelsPerPrt,
      ((group IndexRow.channel own channel).map IndexRow.packetIndex).dedup.length =
        spec.packetsPerChannel := by
  rw [hasAll, List.all_eq_true]
  refine ⟨fun all channel inside => ?_, fun all channel member => ?_⟩
  · have test := all channel (List.mem_range.mpr inside)
    by_cases none : group IndexRow.channel own channel = []
    · rw [lookup_ofRows_none none] at test
      cases test
    · rw [lookup_ofRows none] at test
      rw [← List.card_toFinset]
      exact beq_iff_eq.mp test
  · have count := all channel (List.mem_range.mp member)
    by_cases none : group IndexRow.channel own channel = []
    · rw [none] at count
      exact absurd count (Nat.ne_of_lt formed.packets_pos)
    · rw [lookup_ofRows none]
      refine beq_iff_eq.mpr ?_
      rw [List.card_toFinset, count]

/-- Distinct indices in range are all of them exactly if there are so many. -/
theorem all_of_range_iff {indices : List Nat} {count : Nat}
    (inside : ∀ index ∈ indices, 1 ≤ index ∧ index ≤ count) :
    (∀ index ∈ List.range' 1 count, index ∈ indices) ↔ indices.dedup.length = count := by
  have subset : indices.dedup ⊆ List.range' 1 count := by
    intro index member
    obtain ⟨pos, le⟩ := inside index (List.mem_dedup.mp member)
    exact List.mem_range'_1.mpr ⟨pos, by omega⟩
  have within := List.subperm_of_subset (List.nodup_dedup indices) subset
  constructor
  · intro all
    have back : List.range' 1 count ⊆ indices.dedup := fun index member =>
      List.mem_dedup.mpr (all index member)
    have other := List.subperm_of_subset (List.nodup_range' 1) back
    exact (within.antisymm other).length_eq.trans List.length_range'
  · intro full index member
    have perm := within.perm_of_length_le (by rw [full, List.length_range'])
    exact List.mem_dedup.mp (perm.mem_iff.mpr member)

private theorem isComplete_ofRows (formed : spec.WellFormed)
    (inSlot : ∀ row ∈ own, row.InSlot spec) :
    (ofRows own).isComplete spec = true ↔ ∀ channel < spec.channelsPerPrt,
      ((group IndexRow.channel own channel).map IndexRow.packetIndex).dedup.length =
        spec.packetsPerChannel := by
  have inside (channel : Nat) : ∀ index ∈ (group IndexRow.channel own channel).map
      IndexRow.packetIndex, 1 ≤ index ∧ index ≤ spec.packetsPerChannel := by
    intro index member
    obtain ⟨row, mine, rfl⟩ := List.mem_map.mp member
    have slot := inSlot row (DefaultMap.mem_group.mp mine).1
    exact ⟨slot.packetIndex_pos, slot.packetIndex_le⟩
  rw [isComplete, List.all_eq_true]
  refine ⟨fun all channel below => ?_, fun all channel member => ?_⟩
  · have test := all channel (List.mem_range.mpr below)
    by_cases none : group IndexRow.channel own channel = []
    · rw [lookup_ofRows_none none] at test
      cases test
    · rw [lookup_ofRows none] at test
      refine (all_of_range_iff (inside channel)).mp fun index member => ?_
      exact List.mem_toFinset.mp (of_decide_eq_true (List.all_eq_true.mp test index member))
  · have count := all channel (List.mem_range.mp member)
    by_cases none : group IndexRow.channel own channel = []
    · rw [none] at count
      exact absurd count (Nat.ne_of_lt formed.packets_pos)
    · rw [lookup_ofRows none]
      refine List.all_eq_true.mpr fun index member => decide_eq_true (List.mem_toFinset.mpr ?_)
      exact (all_of_range_iff (inside channel)).mpr count index member

end ProtocolPrtCoverage

/-! ## The active PRT -/

namespace CpiPrtCoverageMap

def entryCpi (entry : (UInt16 × Nat) × ProtocolPrtCoverage) : UInt16 := entry.1.1

/-- The loop over the coverage looks at the entries of the CPI only. -/
theorem select_eq (spec : ProtocolSpec) (cpi : UInt16)
    (entries : List ((UInt16 × Nat) × ProtocolPrtCoverage))
    (fallback : Option ((UInt16 × Nat) × ProtocolPrtCoverage)) :
    select spec cpi entries fallback =
      ((group entryCpi entries cpi).find? fun entry => !entry.2.hasAll spec).or
        ((group entryCpi entries cpi).getLast?.or fallback) := by
  induction entries generalizing fallback with
  | nil => rfl
  | cons entry rest ih =>
      rw [select]
      by_cases own : entry.1.1 = cpi
      · have mine : entryCpi entry = cpi := own
        rw [if_neg (not_not.mpr own), DefaultMap.group_cons_eq mine, List.find?_cons,
          List.getLast?_cons]
        cases whole : entry.2.hasAll spec with
        | true =>
            rw [if_pos rfl, ih]
            cases (group entryCpi rest cpi).getLast? <;> rfl
        | false => rfl
      · have other : entryCpi entry ≠ cpi := own
        rw [if_pos own, ih, DefaultMap.group_cons_ne other]

end CpiPrtCoverageMap

private theorem prtRank_injective : Function.Injective prtRank := by
  rintro ⟨cpi, prt⟩ ⟨cpi', prt'⟩ same
  obtain ⟨sameCpi, samePrt⟩ := Prod.mk.inj (toLex_inj.mp same)
  exact Prod.ext (UInt16.toNat_inj.mp sameCpi) samePrt

/-- Among the ordered keys those of a CPI are its PRTs, in order. -/
theorem orderedKeys_cpi (rows : List IndexRow) (cpi : UInt16) :
    group Prod.fst (orderedKeys prtRank (rows.map IndexRow.key)) cpi =
      (IndexRow.prts rows cpi).map fun prt => (cpi, prt) := by
  have increasing := DefaultMap.orderedKeys_increasing prtRank_injective (rows.map IndexRow.key)
  have prts := DefaultMap.orderedKeys_increasing Function.injective_id
    ((group IndexRow.cpi rows cpi).map IndexRow.prt)
  have later {prt other : Nat} (less : prt < other) : prtRank (cpi, prt) < prtRank (cpi, other) :=
    Prod.Lex.toLex_lt_toLex.mpr (.inr ⟨rfl, less⟩)
  refine DefaultMap.eq_of_increasing (increasing.filter _) (List.pairwise_map.mpr
    (prts.imp later)) fun key => ?_
  rw [DefaultMap.mem_group, DefaultMap.mem_orderedKeys]
  constructor
  · rintro ⟨member, rfl⟩
    obtain ⟨row, inRows, rfl⟩ := List.mem_map.mp member
    refine List.mem_map.mpr ⟨row.prt, DefaultMap.mem_orderedKeys.mpr ?_, rfl⟩
    exact List.mem_map.mpr ⟨row, DefaultMap.mem_group.mpr ⟨inRows, rfl⟩, rfl⟩
  · intro member
    obtain ⟨prt, inPrts, rfl⟩ := List.mem_map.mp member
    obtain ⟨row, mine, rfl⟩ := List.mem_map.mp (DefaultMap.mem_orderedKeys.mp inPrts)
    obtain ⟨inRows, rfl⟩ := DefaultMap.mem_group.mp mine
    exact ⟨List.mem_map.mpr ⟨row, inRows, rfl⟩, rfl⟩

/-- The entry that is selected in the coverage of rows. -/
theorem select_ofRows (formed : spec.WellFormed) (rows : List IndexRow) {cpi : UInt16}
    (some : group IndexRow.cpi rows cpi ≠ []) :
    CpiPrtCoverageMap.select spec cpi (DefaultMap.inOrder prtRank
        (gather ∅ IndexRow.key OwnerLoopRuntimeState.addCoverage rows ∅)) none =
      let key := (cpi, IndexRow.activePrt spec rows cpi)
      .some (key, .ofRows (group IndexRow.key rows key)) := by
  let entryOf (key : UInt16 × Nat) : (UInt16 × Nat) × ProtocolPrtCoverage :=
    (key, .ofRows (group IndexRow.key rows key))
  have entries : group CpiPrtCoverageMap.entryCpi (DefaultMap.inOrder prtRank
      (gather ∅ IndexRow.key OwnerLoopRuntimeState.addCoverage rows ∅)) cpi =
      (IndexRow.prts rows cpi).map fun prt => entryOf (cpi, prt) := by
    rw [DefaultMap.inOrder_gather _ _ _ _ prtRank_injective, DefaultMap.group_map]
    have keys := congrArg (List.map entryOf) (orderedKeys_cpi rows cpi)
    rw [List.map_map] at keys
    exact keys
  have tests : ((fun entry => !entry.2.hasAll spec) ∘ fun prt => entryOf (cpi, prt)) =
      fun prt => decide (¬ IndexRow.Whole spec rows (cpi, prt)) := by
    funext prt
    rw [Function.comp_apply, Bool.eq_iff_iff, Bool.not_eq_true', decide_eq_true_eq,
      ← Bool.not_eq_true, ProtocolPrtCoverage.hasAll_ofRows formed]
    rfl
  rw [CpiPrtCoverageMap.select_eq, entries, List.find?_map, List.getLast?_map, tests,
    Option.or_none, ← Option.map_or, IndexRow.activePrt]
  obtain ⟨row, member⟩ := List.exists_mem_of_ne_nil _ some
  have inPrts : row.prt ∈ IndexRow.prts rows cpi :=
    DefaultMap.mem_orderedKeys.mpr (List.mem_map_of_mem member)
  rw [List.getLast?_eq_some_getLast (List.ne_nil_of_mem inPrts)]
  cases (IndexRow.prts rows cpi).find? fun prt => decide (¬ IndexRow.Whole spec rows (cpi, prt))
    with
  | none => rfl
  | some prt => rfl

/-! ## The summary -/

namespace OwnerLoopRuntimeState.Tells

variable {state : OwnerLoopRuntimeState}

theorem channels (tells : state.Tells spec rows) :
    (DefaultMap.inOrder id state.channelStats).map (fun entry =>
        { channel := entry.1, dataPackets := entry.2.dataPackets, iqCount := entry.2.iqCount }) =
      (orderedKeys id (rows.map IndexRow.channel)).map (ProtocolChannelSummary.ofRows spec rows) := by
  rw [tells.channelStats, DefaultMap.inOrder_gather _ _ _ _ Function.injective_id, List.map_map]
  refine List.map_congr_left fun channel _ => ?_
  rw [Function.comp_apply, foldl_addChannel, Nat.zero_add, Nat.zero_add]
  rfl

theorem cpis (tells : state.Tells spec rows) :
    (DefaultMap.inOrder UInt16.toNat state.cpiStats).map (fun entry =>
        { cpi := entry.1, dataPackets := entry.2.dataPackets, prtCount := entry.2.prts.card }) =
      (orderedKeys UInt16.toNat (rows.map IndexRow.cpi)).map (ProtocolCpiSummary.ofRows rows) := by
  have injective : Function.Injective UInt16.toNat := fun _ _ same => UInt16.toNat_inj.mp same
  rw [tells.cpiStats, DefaultMap.inOrder_gather _ _ _ _ injective, List.map_map]
  refine List.map_congr_left fun cpi _ => ?_
  rw [Function.comp_apply, foldl_addCpi, Finset.union_empty, Nat.zero_add, List.card_toFinset]
  rfl

private theorem completePrts (tells : state.Tells spec rows) (formed : spec.WellFormed)
    (inSlot : ∀ row ∈ rows, row.InSlot spec) : state.prtCoverage.completePrtCount spec =
      (rows.map IndexRow.key).dedup.countP (IndexRow.Whole spec rows ·) := by
  rw [CpiPrtCoverageMap.completePrtCount, tells.prtCoverage,
    DefaultMap.countP_gather _ _ _ _ (ProtocolPrtCoverage.isComplete spec)]
  refine List.countP_congr fun key _ => ?_
  have own : ∀ row ∈ group IndexRow.key rows key, row.InSlot spec := fun row member =>
    inSlot row (DefaultMap.mem_group.mp member).1
  rw [decide_eq_true_eq]
  exact ProtocolPrtCoverage.isComplete_ofRows formed own

/-- The channels of an entry of the coverage. -/
theorem channelSummary_ofRows (rows : List IndexRow) (key : UInt16 × Nat) :
    (ProtocolPrtCoverage.ofRows (group IndexRow.key rows key)).channelSummary spec =
      ProtocolPrtChannelCoverageSummary.ofRows spec rows key := by
  funext channel
  rw [ProtocolPrtCoverage.channelSummary, ProtocolPrtCoverage.packetCount_ofRows]
  rfl

private theorem allComplete (formed : spec.WellFormed) (rows : List IndexRow) (key : UInt16 × Nat) :
    ((((List.range spec.channelsPerPrt).map
        (ProtocolPrtChannelCoverageSummary.ofRows spec rows key)).all fun channel =>
          channel.complete) &&
      !((List.range spec.channelsPerPrt).map
        (ProtocolPrtChannelCoverageSummary.ofRows spec rows key)).isEmpty) =
      decide (IndexRow.Whole spec rows key) := by
  have some : ((List.range spec.channelsPerPrt).map
      (ProtocolPrtChannelCoverageSummary.ofRows spec rows key)).isEmpty = false := by
    rw [List.isEmpty_eq_false_iff, Ne, List.map_eq_nil_iff, List.range_eq_nil]
    exact Nat.ne_of_gt formed.channels_pos
  rw [some, Bool.not_false, Bool.and_true, Bool.eq_iff_iff, decide_eq_true_eq, List.all_map,
    List.all_eq_true]
  constructor
  · exact fun all channel inside => beq_iff_eq.mp (all channel (List.mem_range.mpr inside))
  · exact fun all channel member => beq_iff_eq.mpr (all channel (List.mem_range.mp member))

/-- The summary is that of the rows, apart from two counts. -/
theorem buildFinalSummary_eq (tells : state.Tells spec rows) (formed : spec.WellFormed)
    (inSlot : ∀ row ∈ rows, row.InSlot spec) : state.buildFinalSummary spec =
      { RunSummary.ofRows spec rows with
        cpiCount := state.uniqueCpis.card
        finalTailPackets := state.finalTailPackets } := by
  have complete := tells.completePrts formed inSlot
  have latest := tells.latest
  rw [buildFinalSummary, populateProtocolSummaries, tells.channels, tells.cpis, complete]
  simp only [buildSummary, populateCommonSummary, RunSummary.populateActivePrtSummary,
    tells.uniquePrts, tells.uniqueChannels, List.card_toFinset, RunSummary.ofRows]
  cases last : rows.getLast? with
  | none =>
      rw [last] at latest
      obtain ⟨seen, -⟩ := Prod.mk.inj latest
      rw [if_pos seen]
      simp only [Nat.zero_add, List.nil_append]
  | some row =>
      rw [last] at latest
      obtain ⟨seen, place⟩ := Prod.mk.inj latest
      obtain ⟨cpi, -⟩ := Prod.mk.inj place
      have some : group IndexRow.cpi rows row.cpi ≠ [] :=
        List.ne_nil_of_mem (DefaultMap.mem_group.mpr ⟨List.mem_of_getLast? last, rfl⟩)
      rw [if_neg (ne_false_of_eq_true seen), cpi, tells.prtCoverage, select_ofRows formed rows some]
      simp only [channelSummary_ofRows, allComplete formed, Nat.zero_add, List.nil_append]

end OwnerLoopRuntimeState.Tells

/-! ## What adds up -/

namespace RunSummary

/-- The counts of the summary do not depend on the active PRT. -/
theorem ofRows_counts (spec : ProtocolSpec) (rows : List IndexRow) :
    (ofRows spec rows).channelCount = (rows.map IndexRow.channel).dedup.length ∧
      (ofRows spec rows).completePrtCount =
        (rows.map IndexRow.key).dedup.countP (IndexRow.Whole spec rows ·) ∧
      (ofRows spec rows).protocolChannels =
        (orderedKeys id (rows.map IndexRow.channel)).map (.ofRows spec rows) ∧
      (ofRows spec rows).protocolCpis =
        (orderedKeys UInt16.toNat (rows.map IndexRow.cpi)).map (.ofRows rows) := by
  rw [ofRows]
  cases rows.getLast? <;> exact ⟨rfl, rfl, rfl, rfl⟩

private theorem sum_channels (spec : ProtocolSpec) (rows : List IndexRow) :
    ((ofRows spec rows).protocolChannels.map (·.dataPackets)).sum = rows.length := by
  obtain ⟨-, -, channels, -⟩ := ofRows_counts spec rows
  rw [channels, List.map_map]
  exact DefaultMap.length_groups (DefaultMap.nodup_orderedKeys id _) fun row member =>
    DefaultMap.mem_orderedKeys.mpr (List.mem_map_of_mem member)

private theorem sum_iqCounts (spec : ProtocolSpec) (rows : List IndexRow) :
    ((ofRows spec rows).protocolChannels.map (·.iqCount)).sum =
      (rows.map (IndexRow.iqCount spec)).sum := by
  obtain ⟨-, -, channels, -⟩ := ofRows_counts spec rows
  rw [channels, List.map_map]
  exact DefaultMap.sum_orderedKeys id (IndexRow.iqCount spec) IndexRow.channel rows

private theorem sum_cpis (spec : ProtocolSpec) (rows : List IndexRow) :
    ((ofRows spec rows).protocolCpis.map (·.dataPackets)).sum = rows.length := by
  obtain ⟨-, -, -, cpis⟩ := ofRows_counts spec rows
  rw [cpis, List.map_map]
  exact DefaultMap.length_groups (DefaultMap.nodup_orderedKeys UInt16.toNat _) fun row member =>
    DefaultMap.mem_orderedKeys.mpr (List.mem_map_of_mem member)

/-- The distinct keys of a CPI are its distinct PRTs. -/
theorem group_keys (rows : List IndexRow) (cpi : UInt16) :
    (group Prod.fst (rows.map IndexRow.key).dedup cpi).length =
      ((group IndexRow.cpi rows cpi).map IndexRow.prt).dedup.length := by
  have perm : (group Prod.fst (rows.map IndexRow.key).dedup cpi).Perm
      (((group IndexRow.cpi rows cpi).map IndexRow.prt).dedup.map fun prt => (cpi, prt)) := by
    refine (List.perm_ext_iff_of_nodup (DefaultMap.nodup_group (List.nodup_dedup _) cpi)
      ((List.nodup_dedup _).map (Prod.mk_right_injective cpi))).mpr fun key => ?_
    rw [DefaultMap.mem_group, List.mem_dedup]
    constructor
    · rintro ⟨member, rfl⟩
      obtain ⟨row, inRows, rfl⟩ := List.mem_map.mp member
      have mine : row ∈ group IndexRow.cpi rows row.cpi :=
        DefaultMap.mem_group.mpr ⟨inRows, rfl⟩
      exact List.mem_map.mpr ⟨row.prt, List.mem_dedup.mpr (List.mem_map_of_mem mine), rfl⟩
    · intro member
      obtain ⟨prt, distinct, rfl⟩ := List.mem_map.mp member
      obtain ⟨row, mine, rfl⟩ := List.mem_map.mp (List.mem_dedup.mp distinct)
      obtain ⟨inRows, rfl⟩ := DefaultMap.mem_group.mp mine
      exact ⟨List.mem_map_of_mem inRows, rfl⟩
  rw [perm.length_eq, List.length_map]

private theorem sum_prtCounts (spec : ProtocolSpec) (rows : List IndexRow) :
    ((ofRows spec rows).protocolCpis.map (·.prtCount)).sum =
      (rows.map IndexRow.key).dedup.length := by
  obtain ⟨-, -, -, cpis⟩ := ofRows_counts spec rows
  rw [cpis, List.map_map]
  have counts := List.map_congr_left fun cpi
      (_ : cpi ∈ orderedKeys UInt16.toNat (rows.map IndexRow.cpi)) => group_keys rows cpi
  refine (congrArg List.sum counts.symm).trans (DefaultMap.length_groups
    (DefaultMap.nodup_orderedKeys UInt16.toNat _) fun key member => ?_)
  obtain ⟨row, inRows, rfl⟩ := List.mem_map.mp (List.mem_dedup.mp member)
  exact DefaultMap.mem_orderedKeys.mpr (List.mem_map_of_mem inRows)

theorem channelCount_le (inSlot : ∀ row ∈ rows, row.InSlot spec) :
    (ofRows spec rows).channelCount ≤ spec.channelsPerPrt := by
  obtain ⟨count, -, -, -⟩ := ofRows_counts spec rows
  have subset : (rows.map IndexRow.channel).dedup ⊆ List.range spec.channelsPerPrt := by
    intro channel member
    obtain ⟨row, inRows, rfl⟩ := List.mem_map.mp (List.mem_dedup.mp member)
    exact List.mem_range.mpr (inSlot row inRows).channel
  have short := (List.subperm_of_subset (List.nodup_dedup _) subset).length_le
  rw [List.length_range] at short
  exact Nat.le_trans (Nat.le_of_eq count) short

/-- A whole PRT has a row for each of its slots. -/
theorem whole_length (inSlot : ∀ row ∈ rows, row.InSlot spec) {key : UInt16 × Nat}
    (whole : IndexRow.Whole spec rows key) :
    spec.channelsPerPrt * spec.packetsPerChannel ≤ (group IndexRow.key rows key).length := by
  let own := group IndexRow.key rows key
  have each : ∀ channel ∈ List.range spec.channelsPerPrt, true = true →
      spec.packetsPerChannel ≤ (group IndexRow.channel own channel).length := by
    intro channel member _
    have received := whole channel (List.mem_range.mp member)
    have short := (List.dedup_sublist
      ((group IndexRow.channel own channel).map IndexRow.packetIndex)).length_le
    rwa [List.length_map, ← IndexRow.received, received] at short
  have total := @DefaultMap.length_groups _ _ _ IndexRow.channel own
    (List.range spec.channelsPerPrt) List.nodup_range fun row member =>
      List.mem_range.mpr (inSlot row (DefaultMap.mem_group.mp member).1).channel
  have bounded := DefaultMap.countP_mul_le each
  rwa [total, List.countP_true, List.length_range] at bounded

private theorem completePrts_le (inSlot : ∀ row ∈ rows, row.InSlot spec) :
    (ofRows spec rows).completePrtCount * (spec.channelsPerPrt * spec.packetsPerChannel) ≤
      rows.length := by
  obtain ⟨-, complete, -, -⟩ := ofRows_counts spec rows
  have total := @DefaultMap.length_groups _ _ _ IndexRow.key rows _
    (List.nodup_dedup (rows.map IndexRow.key)) fun row member =>
      List.mem_dedup.mpr (List.mem_map_of_mem member)
  rw [complete, ← total]
  exact DefaultMap.countP_mul_le fun key _ whole =>
    whole_length inSlot (of_decide_eq_true whole)

/-- If all packets of the active PRT have come, all packets of all PRTs of its CPI have. -/
theorem whole_of_active {cpi : UInt16}
    (whole : IndexRow.Whole spec rows (cpi, IndexRow.activePrt spec rows cpi)) :
    ∀ prt ∈ IndexRow.prts rows cpi, IndexRow.Whole spec rows (cpi, prt) := by
  intro prt member
  by_contra missing
  rw [IndexRow.activePrt] at whole
  cases found : (IndexRow.prts rows cpi).find? fun prt =>
      decide (¬ IndexRow.Whole spec rows (cpi, prt)) with
  | none => exact List.find?_eq_none.mp found prt member (decide_eq_true missing)
  | some first =>
      have test : decide (¬ IndexRow.Whole spec rows (cpi, first)) = true :=
        @List.find?_some _ (fun prt => decide (¬ IndexRow.Whole spec rows (cpi, prt))) first _ found
      rw [found] at whole
      exact of_decide_eq_true test whole

private theorem active_complete (complete : (ofRows spec rows).activePrtComplete = true) :
    ∃ entry ∈ (ofRows spec rows).protocolCpis, entry.cpi = (ofRows spec rows).activeCpi ∧
      entry.prtCount ≤ (ofRows spec rows).completePrtCount := by
  obtain ⟨-, count, -, cpis⟩ := ofRows_counts spec rows
  rw [count, cpis]
  cases last : rows.getLast? with
  | none =>
      simp only [ofRows, last] at complete
      cases complete
  | some row =>
      simp only [ofRows, last, decide_eq_true_eq] at complete ⊢
      have inRows := List.mem_of_getLast? last
      refine ⟨.ofRows rows row.cpi, List.mem_map_of_mem (DefaultMap.mem_orderedKeys.mpr
        (List.mem_map_of_mem inRows)), rfl, ?_⟩
      have all := whole_of_active complete
      have prts : (ProtocolCpiSummary.ofRows rows row.cpi).prtCount =
          (group Prod.fst (rows.map IndexRow.key).dedup row.cpi).length :=
        (group_keys rows row.cpi).symm
      rw [prts, group, ← List.countP_eq_length_filter]
      refine List.countP_mono_left fun key member own => decide_eq_true ?_
      obtain ⟨other, present, rfl⟩ := List.mem_map.mp (List.mem_dedup.mp member)
      have sameCpi : other.cpi = row.cpi := of_decide_eq_true own
      have inPrts : other.prt ∈ IndexRow.prts rows row.cpi :=
        DefaultMap.mem_orderedKeys.mpr
          (List.mem_map_of_mem (DefaultMap.mem_group.mpr ⟨present, sameCpi⟩))
      rw [IndexRow.key, sameCpi]
      exact all other.prt inPrts

end RunSummary

end Groups

/-! ## Runs -/

/-- The runtime state of a run tells its rows of data packets. -/
theorem OwnerLoop.run_tells (config : RxConfig) (allowedSourceIpv4Be receiverIpv4Be : Nat)
    (consumerSchedule clock : List Nat) (received : List Received) :
    let pipeline := UdpDatagramPipeline.ofConfig config allowedSourceIpv4Be receiverIpv4Be
    let rows := IndexRow.data (run config allowedSourceIpv4Be receiverIpv4Be consumerSchedule
      clock received).artifacts.indexStream
    (runtimeState pipeline received (start config consumerSchedule clock)).Tells pipeline.spec
        rows ∧
      ∀ row ∈ rows, row.InSlot pipeline.spec := by
  intro pipeline rows
  obtain ⟨accepts, -, -, reread, -, wide⟩ := run_payloads config allowedSourceIpv4Be
    receiverIpv4Be consumerSchedule clock received
  have tells := OwnerLoopRuntimeState.recount_tells accepts
  have inSlot := IndexRow.data_inSlot accepts
  rw [reread] at tells inSlot
  refine ⟨?_, inSlot⟩
  rw [wide]
  exact ⟨tells.uniquePrts, tells.uniqueChannels, tells.channelStats, tells.cpiStats,
    tells.prtCoverage, tells.latest⟩

/-- The final summary of a run, which is kept packet by packet, is what the rows of data
packets in the index stream come to. -/
theorem final_summary_of_rows (config : RxConfig) (allowedSourceIpv4Be receiverIpv4Be : Nat)
    (consumerSchedule clock : List Nat) (received : List Received) :
    let pipeline := UdpDatagramPipeline.ofConfig config allowedSourceIpv4Be receiverIpv4Be
    let loop := OwnerLoop.run config allowedSourceIpv4Be receiverIpv4Be consumerSchedule clock
      received
    let state := OwnerLoop.runtimeState pipeline received (.start config consumerSchedule clock)
    state.buildFinalSummary pipeline.spec =
      { RunSummary.ofRows pipeline.spec (IndexRow.data loop.artifacts.indexStream) with
        cpiCount := state.uniqueCpis.card
        finalTailPackets := state.finalTailPackets } := by
  intro pipeline loop state
  obtain ⟨tells, inSlot⟩ := OwnerLoop.run_tells config allowedSourceIpv4Be receiverIpv4Be
    consumerSchedule clock received
  exact tells.buildFinalSummary_eq (protocolSpecFromConfig_wellFormed config) inSlot

/-- The parts of a final summary add up: its channels and its CPIs have all data packets, its
CPIs all PRTs. Complete PRTs have the packets they need, and if the active PRT is complete,
so are all PRTs of the active CPI. -/
theorem final_summary_adds_up (config : RxConfig) (allowedSourceIpv4Be receiverIpv4Be : Nat)
    (consumerSchedule clock : List Nat) (received : List Received) :
    let pipeline := UdpDatagramPipeline.ofConfig config allowedSourceIpv4Be receiverIpv4Be
    let spec := pipeline.spec
    let loop := OwnerLoop.run config allowedSourceIpv4Be receiverIpv4Be consumerSchedule clock
      received
    let rows := IndexRow.data loop.artifacts.indexStream
    let summary := (OwnerLoop.runtimeState pipeline received
      (.start config consumerSchedule clock)).buildFinalSummary spec
    (summary.protocolChannels.map (·.dataPackets)).sum = rows.length ∧
      (summary.protocolCpis.map (·.dataPackets)).sum = rows.length ∧
      (summary.protocolChannels.map (·.iqCount)).sum = (rows.map (IndexRow.iqCount spec)).sum ∧
      summary.channelCount = summary.protocolChannels.length ∧
      summary.channelCount ≤ spec.channelsPerPrt ∧
      summary.completePrtCount ≤ (summary.protocolCpis.map (·.prtCount)).sum ∧
      summary.completePrtCount * (spec.channelsPerPrt * spec.packetsPerChannel) ≤ rows.length ∧
      (summary.activePrtComplete = true → ∃ entry ∈ summary.protocolCpis,
        entry.cpi = summary.activeCpi ∧ entry.prtCount ≤ summary.completePrtCount) := by
  intro pipeline spec loop rows summary
  obtain ⟨tells, inSlot⟩ := OwnerLoop.run_tells config allowedSourceIpv4Be receiverIpv4Be
    consumerSchedule clock received
  have summed := tells.buildFinalSummary_eq (protocolSpecFromConfig_wellFormed config) inSlot
  obtain ⟨channels, complete, byChannel, -⟩ := RunSummary.ofRows_counts spec rows
  have count : summary = _ := summed
  rw [count]
  refine ⟨RunSummary.sum_channels spec rows, RunSummary.sum_cpis spec rows,
    RunSummary.sum_iqCounts spec rows, ?_, RunSummary.channelCount_le inSlot, ?_,
    RunSummary.completePrts_le inSlot, RunSummary.active_complete⟩
  · exact channels.trans (by
      rw [byChannel, List.length_map, DefaultMap.length_orderedKeys])
  · refine Nat.le_trans ?_ (Nat.le_of_eq (RunSummary.sum_prtCounts spec rows).symm)
    exact Nat.le_trans (Nat.le_of_eq complete) List.countP_le_length

end RxTech
