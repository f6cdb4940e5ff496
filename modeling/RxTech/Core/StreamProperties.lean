import RxTech.Core.Streams
import RxTech.Protocol.PacketProperties

/-!
# Canonical streams

A stream of complete CPIs in fixed mode: what it produces without tail markers,
and when markers change it.
-/

set_option autoImplicit false

namespace RxTech

variable {spec : ProtocolSpec}

private theorem untilWaveEnd_of_calm {packets : List ParsedPacketView}
    (calm : ∀ packet ∈ packets, packet.endsWave spec spec.expectedNPrt = false) :
    untilWaveEnd spec packets = packets := by
  induction packets with
  | nil => rfl
  | cons packet rest ih =>
      rw [untilWaveEnd, if_neg (by simp [calm packet List.mem_cons_self]),
        ih fun other member => calm other (List.mem_cons_of_mem packet member)]

/-- The configuration of a fixed-mode receiver. -/
structure RxConfig.FixedMode (config : RxConfig) : Prop where
  static : config.protocolDynamicPrtEnabled = false
  expected_pos : 1 ≤ config.protocolExpectedNPrt
  expected_le : config.protocolExpectedNPrt ≤ 64

theorem RxConfig.FixedMode.protocol {config : RxConfig} (fixed : config.FixedMode) :
    (protocolSpecFromConfig config).FixedMode :=
  { protocolSpecFromConfig_wellFormed config with
    static := fixed.static
    expected_pos := fixed.expected_pos
    expected_le := fixed.expected_le }

/-! ## Without tail markers -/

/-- The context holds the payload of a packet in the packet's slot. -/
structure HoldsPayload (spec : ProtocolSpec) (ctx : CpiContext) (packet : ParsedPacketView) :
    Prop where
  validBytes : ctx.slotValidBytes (packet.coord.slot spec) = packet.payloadLen
  bytes : ∀ bytes, packet.payloadPtr = some bytes → ∀ offset < packet.payloadLen,
    ctx.slotByte (packet.coord.slot spec) offset = bytes offset

/-- A complete CPI was pushed, with each coordinate holding its packet. -/
structure DeliveredComplete (spec : ProtocolSpec) (cpi : UInt16) (packets : List ParsedPacketView)
    (production : Production) : Prop where
  pushed : production.delivery = .pushed
  cpiId : production.output.cpiId = cpi
  decision : production.output.decision = .completeOk
  missing : production.output.missingSlotCount = 0
  once : production.output.duplicateCount = 0
  ready : production.output.readyPrtCount = spec.expectedNPrt
  payloads : ∀ coord : SlotCoord, coord.Within spec spec.expectedNPrt →
    ∃ packet ∈ packets, packet.coord = coord ∧ HoldsPayload spec production.ctx packet

theorem CpiOutcome.deliveredComplete (fixed : spec.FixedMode) {cpi : UInt16} {ops : List Op}
    (stream : CpiStream spec cpi ops) {production : Production}
    (outcome : CpiOutcome spec cpi (packetsOf ops) production)
    (whole : untilWaveEnd spec (packetsOf ops) = packetsOf ops)
    (pushed : production.delivery = .pushed) :
    DeliveredComplete spec cpi (packetsOf ops) production := by
  obtain ⟨reports, complete⟩ := outcome
  rw [whole] at reports complete
  have total := stream.total
  have recorded := reports.reception.recorded
  exact
    { pushed
      cpiId := reports.cpiId
      decision := complete.mpr (Nat.le_of_eq total.symm)
      missing := by rw [reports.missing, total, Nat.sub_self]
      once := reports.once
      ready := reports.ready.trans (reports.reception.readyPrt_complete fixed.toWellFormed
        fixed.expected_le stream.coords)
      payloads := by
        intro coord within
        obtain ⟨packet, member, is⟩ :=
          List.mem_map.mp (stream.coords.mem_iff.mpr (mem_slotCoords.mpr within))
        exact ⟨packet, member, is, recorded.validBytes packet member, recorded.stored packet member⟩ }

private theorem attached_room (outputMinCapacity recycleMinCapacity : Nat)
    (consumerSchedule clock : List Nat) :
    1 ≤ (System.attached outputMinCapacity recycleMinCapacity consumerSchedule
      clock).outputCapacity := by
  have slots := le_growSlots 2 (outputMinCapacity + 1)
  change 1 ≤ growSlots 2 (outputMinCapacity + 1) - 1
  omega

private theorem cpiVerdicts_whole {blocks : List (List Op)}
    (whole : ∀ ops ∈ blocks, untilWaveEnd spec (packetsOf ops) = packetsOf ops) :
    (blocks.map fun ops => cpiVerdicts spec (packetsOf ops)).flatten =
      List.replicate (packetsOf blocks.flatten).length true := by
  induction blocks with
  | nil => rfl
  | cons ops rest ih =>
      rw [List.map_cons, List.flatten_cons, ih fun other member => whole other (by simp [member]),
        cpiVerdicts, whole ops List.mem_cons_self, Nat.sub_self, List.replicate_zero,
        List.append_nil, List.flatten_cons, packetsOf_append, List.length_append,
        List.replicate_add]

/-- Without tail markers and with a consumer that returns each output before the
next CPI, a stream of complete CPIs is delivered completely and in order, and
every packet is accepted. -/
theorem canonical_stream_completes (config : RxConfig) (fixed : config.FixedMode)
    (outputMinCapacity recycleMinCapacity : Nat)
    (consumerSchedule clock : List Nat) (start : UInt16) (blocks : List (List Op))
    (stream : Stream (protocolSpecFromConfig config) start blocks)
    (unmarked : ∀ ops ∈ blocks, ∀ packet ∈ packetsOf ops, packet.tail = 0)
    (returned : ∀ index < blocks.length, (Machine.run (System.step (protocolSpecFromConfig config))
      (blocks.take index).flatten (System.attached outputMinCapacity recycleMinCapacity
        consumerSchedule clock)).unreturned = []) :
    let spec := protocolSpecFromConfig config
    let s := Machine.run (System.step spec) blocks.flatten
      (System.attached outputMinCapacity recycleMinCapacity consumerSchedule clock)
    (productions s.windowLog).length = blocks.length ∧
      (∀ index ops production, blocks[index]? = some ops →
        (productions s.windowLog)[index]? = some production →
        DeliveredComplete spec (start + UInt16.ofNat index) (packetsOf ops) production) ∧
      s.verdicts = List.replicate (packetsOf blocks.flatten).length true := by
  intro spec s
  have room := attached_room outputMinCapacity recycleMinCapacity consumerSchedule clock
  have result : StreamResult spec start blocks _ s := System.run_stream fixed.protocol stream
    (System.attached_owned outputMinCapacity recycleMinCapacity consumerSchedule clock)
    ⟨rfl, rfl, .fresh⟩ rfl rfl
    (.inl fun index inside => by rw [returned index inside]; decide)
  have whole (ops : List Op) (member : ops ∈ blocks) :
      untilWaveEnd spec (packetsOf ops) = packetsOf ops := by
    refine untilWaveEnd_of_calm fun packet inside => ?_
    rw [ParsedPacketView.endsWave, unmarked ops member packet inside]
    rfl
  refine ⟨result.length, ?_, ?_⟩
  · intro index ops production found kept
    refine (result.outcome index ops production found kept).deliveredComplete fixed.protocol
      (stream index ops found) (whole ops (List.mem_of_getElem? found))
      (result.pushed (fun index inside => ?_) production (List.mem_of_getElem? kept))
    rw [returned index inside]
    exact room
  · exact result.verdicts.trans (cpiVerdicts_whole whole)

theorem Op.zeroData_belongs {cpi : UInt16} {prt channel packetIndex : Nat} (tail : Nat)
    (within : (SlotCoord.mk prt channel packetIndex).Within spec spec.expectedNPrt)
    (len_pos : 1 ≤ spec.packetDataSize) (len_le : spec.packetDataSize ≤ kCpiSlotStride) :
    (Op.zeroData spec cpi prt channel packetIndex tail).Belongs spec cpi :=
  .packet ⟨rfl, rfl, rfl, rfl, rfl⟩ rfl ⟨rfl, rfl, within, rfl, len_pos, len_le⟩

/-- The last CPI before the ids wrap around, out of order, then the consumer,
then CPI 0. -/
def wrappingBlocks : List (List Op) :=
  let spec := protocolSpecFromConfig pairConfig
  [[.zeroData spec 65535 1 0 2 0, .zeroData spec 65535 1 0 1 0, .consumer, .consumer, .consumer,
      .consumer],
    [.zeroData spec 0 1 0 1 0, .zeroData spec 0 1 0 2 0]]

private theorem wrappingBlocks_stream :
    Stream (protocolSpecFromConfig pairConfig) 65535 wrappingBlocks := by
  have belongs (cpi : UInt16) {packetIndex : Nat} (pos : 1 ≤ packetIndex) (le : packetIndex ≤ 2) :
      (Op.zeroData (protocolSpecFromConfig pairConfig) cpi 1 0 packetIndex 0).Belongs
        (protocolSpecFromConfig pairConfig) cpi :=
    Op.zeroData_belongs 0 ⟨Nat.le_refl 1, Nat.le_refl 1, Nat.zero_lt_one, pos, le⟩ (by decide)
      (by decide)
  intro index ops found
  match index, found with
  | 0, found =>
      cases found
      refine ⟨?_, by decide⟩
      simp only [List.forall_mem_cons]
      exact ⟨belongs _ (by decide) (by decide), belongs _ (by decide) (by decide), .quiet trivial,
        .quiet trivial, .quiet trivial, .quiet trivial, by simp⟩
  | 1, found =>
      cases found
      refine ⟨?_, by decide⟩
      simp only [List.forall_mem_cons]
      exact ⟨belongs _ (by decide) (by decide), belongs _ (by decide) (by decide), by simp⟩
  | index + 2, found => simp [wrappingBlocks] at found

theorem canonical_stream_completes_wrapping :
    let s := Machine.run (System.step (protocolSpecFromConfig pairConfig)) wrappingBlocks.flatten
      (System.attached 32 32 [] [])
    (productions s.windowLog).length = 2 ∧ s.verdicts = [true, true, true, true] := by
  obtain ⟨length, -, verdicts⟩ := canonical_stream_completes pairConfig ⟨rfl, by decide, by decide⟩
    32 32 [] [] 65535 wrappingBlocks wrappingBlocks_stream (by decide) (by decide +kernel)
  exact ⟨length, verdicts⟩

/-! ## With tail markers -/

/-- What the outputs say, in order. -/
def summaries (log : List WindowEvent) : List (UInt16 × CpiDecision × Nat × Nat) :=
  (productions log).map fun production =>
    (production.output.cpiId, production.output.decision, production.output.receivedSlotCount,
      production.output.missingSlotCount)

def ParsedPacketView.clearTail (packet : ParsedPacketView) : ParsedPacketView :=
  { packet with tail := 0 }

/-- The same packet without its marker. -/
def Op.clearTail : Op → Op
  | .data parsed packet => .data parsed.clearTail packet
  | .control parsed => .control parsed
  | .timeout nowNs => .timeout nowNs
  | .drainRecycle => .drainRecycle
  | .consumer => .consumer
  | .shutdown => .shutdown

private theorem packetsOf_clearTail (ops : List Op) :
    packetsOf (ops.map Op.clearTail) = (packetsOf ops).map ParsedPacketView.clearTail := by
  rw [packetsOf, List.filterMap_map, packetsOf, List.map_filterMap]
  refine List.filterMap_congr fun op _ => ?_
  cases op <;> rfl

theorem Op.Belongs.clearTail {cpi : UInt16} {op : Op} (belongs : op.Belongs spec cpi) :
    op.clearTail.Belongs spec cpi := by
  cases belongs with
  | quiet quiet =>
      refine .quiet ?_
      cases op with
      | control parsed | data parsed packet | shutdown => cases quiet
      | timeout nowNs | drainRecycle | consumer => exact quiet
  | packet valid named fits =>
      exact .packet ⟨valid.valid, valid.kind, valid.cpi, valid.prt, valid.channel⟩ named
        ⟨fits.valid, fits.kind, fits.within, fits.payload, fits.len_pos, fits.len_le⟩

theorem CpiStream.clearTail {cpi : UInt16} {ops : List Op} (stream : CpiStream spec cpi ops) :
    CpiStream spec cpi (ops.map Op.clearTail) where
  belongs op member := by
    obtain ⟨marked, inside, rfl⟩ := List.mem_map.mp member
    exact (stream.belongs marked inside).clearTail
  coords := by
    rw [packetsOf_clearTail, List.map_map]
    exact stream.coords

theorem Stream.clearTail {start : UInt16} {blocks : List (List Op)}
    (stream : Stream spec start blocks) :
    Stream spec start (blocks.map (List.map Op.clearTail)) := by
  intro index ops found
  rw [List.getElem?_map, Option.map_eq_some_iff] at found
  obtain ⟨marked, found, rfl⟩ := found
  exact (stream index marked found).clearTail

private theorem untilWaveEnd_clearTail (formed : spec.WellFormed) (ops : List Op) :
    untilWaveEnd spec (packetsOf (ops.map Op.clearTail)) = packetsOf (ops.map Op.clearTail) := by
  refine untilWaveEnd_of_calm fun packet member => ?_
  rw [packetsOf_clearTail] at member
  obtain ⟨marked, -, rfl⟩ := List.mem_map.mp member
  simp [ParsedPacketView.endsWave, ParsedPacketView.clearTail, formed.tail_ne_zero.symm]

private theorem untilWaveEnd_initial (packets : List ParsedPacketView) :
    untilWaveEnd spec packets <+: packets := by
  induction packets with
  | nil => exact List.prefix_rfl
  | cons packet rest ih =>
      rw [untilWaveEnd]
      split
      · exact List.prefix_append [packet] rest
      · exact List.prefix_cons_inj packet |>.mpr ih

/-- A CPI is taken as a whole if no packet but its last ends the wave. -/
theorem untilWaveEnd_whole_iff (first : List ParsedPacketView) (last : ParsedPacketView) :
    untilWaveEnd spec (first ++ [last]) = first ++ [last] ↔
      ∀ packet ∈ first, packet.endsWave spec spec.expectedNPrt = false := by
  induction first with
  | nil => simp [untilWaveEnd]
  | cons packet rest ih =>
      rw [List.cons_append, untilWaveEnd, List.forall_mem_cons]
      cases ends : packet.endsWave spec spec.expectedNPrt with
      | true => simp
      | false => simp [ih]

/-- The canonical order ends with the last packet of the last channel. -/
theorem slotCoords_last (formed : spec.WellFormed) {nPrt : Nat} (pos : 1 ≤ nPrt) :
    ∃ first, slotCoords spec nPrt =
      first ++ [⟨nPrt, spec.channelsPerPrt - 1, spec.packetsPerChannel⟩] := by
  obtain ⟨prts, rfl⟩ := Nat.exists_eq_succ_of_ne_zero (Nat.ne_of_gt pos)
  obtain ⟨channels, channelCount⟩ :=
    Nat.exists_eq_succ_of_ne_zero (Nat.ne_of_gt formed.channels_pos)
  obtain ⟨packets, packetCount⟩ :=
    Nat.exists_eq_succ_of_ne_zero (Nat.ne_of_gt formed.packets_pos)
  rw [slotCoords, channelCount, packetCount]
  simp only [Nat.succ_eq_add_one, List.range_succ, List.flatMap_append, List.flatMap_singleton,
    List.map_append, List.map_cons, List.map_nil, ← List.append_assoc]
  exact ⟨_, rfl⟩

/-- In canonical order a CPI is taken as a whole exactly if no tail on its last
PRT comes before the last channel. -/
theorem untilWaveEnd_canonical_iff (fixed : spec.FixedMode) {cpi : UInt16} {ops : List Op}
    (stream : CpiStream spec cpi ops)
    (canonical : (packetsOf ops).map ParsedPacketView.coord =
      slotCoords spec spec.expectedNPrt)
    (validated : ∀ packet ∈ packetsOf ops, (PacketValidator.validate spec packet).ok = true) :
    untilWaveEnd spec (packetsOf ops) = packetsOf ops ↔
      ∀ packet ∈ packetsOf ops, packet.tail = spec.magicTail →
        packet.prt = spec.expectedNPrt → packet.channel + 1 = spec.channelsPerPrt := by
  have formed := fixed.toWellFormed
  have distinct := nodup_slotCoords spec spec.expectedNPrt
  obtain ⟨coords, order⟩ := slotCoords_last formed fixed.expected_pos
  rw [order] at canonical distinct
  obtain ⟨first, final, packets, firsts, finals⟩ := List.map_eq_append_iff.mp canonical
  obtain ⟨last, rfl, lastCoord⟩ := List.map_eq_singleton_iff.mp finals
  rw [packets, untilWaveEnd_whole_iff]
  constructor
  · intro calm packet member marked prt
    rcases List.mem_append.mp member with early | late
    · have ends := calm packet early
      simp [ParsedPacketView.endsWave, marked, prt] at ends
    · rw [List.mem_singleton.mp late]
      have channel : last.channel = spec.channelsPerPrt - 1 := congrArg SlotCoord.channel lastCoord
      have positive := formed.channels_pos
      omega
  · intro only packet early
    have member : packet ∈ packetsOf ops := packets ▸ List.mem_append_left [last] early
    have fits := stream.fits member
    have checks := validate_dataChecks fits.kind (validated packet member)
    by_contra ends
    simp only [ParsedPacketView.endsWave, Bool.not_eq_false, Bool.and_eq_true, beq_iff_eq,
      decide_eq_true_eq] at ends
    have prt : packet.prt = spec.expectedNPrt := Nat.le_antisymm fits.within.prt_le ends.2
    have channel := only packet (packets ▸ member) ends.1 prt
    have packetIndex : packet.packetIndex = spec.packetsPerChannel := by
      rcases checks.tail with zero | marked
      · exact absurd (ends.1.symm.trans zero) formed.tail_ne_zero
      · exact marked.2
    have coord : packet.coord = ⟨spec.expectedNPrt, spec.channelsPerPrt - 1,
        spec.packetsPerChannel⟩ := by
      simp only [ParsedPacketView.coord, SlotCoord.mk.injEq]
      omega
    have inFirst : packet.coord ∈ coords := firsts ▸ List.mem_map_of_mem early
    exact (List.nodup_append.mp distinct).2.2 _ inFirst _ (List.mem_singleton.mpr coord) rfl

/-- The summaries of `count` complete CPIs from `start` on. -/
def completeSummaries (spec : ProtocolSpec) (start : UInt16) (count : Nat) :
    List (UInt16 × CpiDecision × Nat × Nat) :=
  (consecutive start count).map fun cpi => (cpi, .completeOk, slotTotal spec spec.expectedNPrt, 0)

theorem StreamResult.summary {start : UInt16} {blocks : List (List Op)} {s next : System}
    (result : StreamResult spec start blocks s next) {index : Nat} (inside : index < blocks.length) :
    ∃ decision, (summaries next.windowLog)[index]? =
        some (start + UInt16.ofNat index, decision,
          (untilWaveEnd spec (packetsOf blocks[index])).length,
          slotTotal spec spec.expectedNPrt -
            (untilWaveEnd spec (packetsOf blocks[index])).length) ∧
      (decision = .completeOk ↔ slotTotal spec spec.expectedNPrt ≤
        (untilWaveEnd spec (packetsOf blocks[index])).length) := by
  have kept := List.getElem?_eq_getElem (result.length.symm ▸ inside)
  obtain ⟨reports, complete⟩ :=
    result.outcome index _ _ (List.getElem?_eq_getElem inside) kept
  refine ⟨_, ?_, complete⟩
  rw [summaries, List.getElem?_map, kept, Option.map_some, reports.cpiId, reports.received,
    reports.missing]

theorem StreamResult.complete_iff {start : UInt16} {blocks : List (List Op)} {s next : System}
    (result : StreamResult spec start blocks s next) (stream : Stream spec start blocks) :
    summaries next.windowLog = completeSummaries spec start blocks.length ↔
      ∀ ops ∈ blocks, untilWaveEnd spec (packetsOf ops) = packetsOf ops := by
  have expected {index : Nat} (inside : index < blocks.length) :
      (completeSummaries spec start blocks.length)[index]? = some (start + UInt16.ofNat index,
        .completeOk, slotTotal spec spec.expectedNPrt, 0) := by
    simp [completeSummaries, consecutive, inside]
  have total {index : Nat} (inside : index < blocks.length) :
      (packetsOf blocks[index]).length = slotTotal spec spec.expectedNPrt :=
    (stream index _ (List.getElem?_eq_getElem inside)).total
  constructor
  · intro complete ops member
    obtain ⟨index, inside, rfl⟩ := List.mem_iff_getElem.mp member
    obtain ⟨decision, summary, -⟩ := result.summary inside
    rw [complete, expected inside, Option.some.injEq] at summary
    have received := congrArg (fun summary => summary.2.2.1) summary
    exact (untilWaveEnd_initial _).eq_of_length (received.symm.trans (total inside).symm)
  · intro whole
    refine List.ext_getElem? fun index => ?_
    rcases Nat.lt_or_ge index blocks.length with inside | beyond
    · obtain ⟨decision, summary, complete⟩ := result.summary inside
      rw [whole _ (List.getElem_mem inside), total inside] at summary complete
      rw [summary, expected inside, complete.mpr (Nat.le_refl _), Nat.sub_self]
    · rw [List.getElem?_eq_none, List.getElem?_eq_none]
      · simpa [completeSummaries, consecutive] using beyond
      · simpa [summaries, result.length] using beyond

/-- Two runs of a stream in canonical order, with its tail markers and without
them, on which the pool is not exhausted: without markers every CPI is complete,
and the outputs are the same with the markers exactly if none stands on the last
PRT before the last channel. -/
theorem tail_markers_auxiliary_iff (config : RxConfig) (fixed : config.FixedMode)
    (outputMinCapacity recycleMinCapacity : Nat) (consumerSchedule clock : List Nat)
    (start : UInt16) (blocks : List (List Op))
    (stream : Stream (protocolSpecFromConfig config) start blocks)
    (canonical : ∀ ops ∈ blocks, (packetsOf ops).map ParsedPacketView.coord =
      slotCoords (protocolSpecFromConfig config) config.protocolExpectedNPrt)
    (validated : ∀ ops ∈ blocks, ∀ packet ∈ packetsOf ops,
      (PacketValidator.validate (protocolSpecFromConfig config) packet).ok = true)
    (fine : (Machine.run (System.step (protocolSpecFromConfig config)) blocks.flatten
      (System.attached outputMinCapacity recycleMinCapacity consumerSchedule clock)).runError = "")
    (fineCleared : (Machine.run (System.step (protocolSpecFromConfig config))
      (blocks.flatten.map Op.clearTail) (System.attached outputMinCapacity recycleMinCapacity
        consumerSchedule clock)).runError = "") :
    let spec := protocolSpecFromConfig config
    let fresh := System.attached outputMinCapacity recycleMinCapacity consumerSchedule clock
    let marked := Machine.run (System.step spec) blocks.flatten fresh
    let cleared := Machine.run (System.step spec) (blocks.flatten.map Op.clearTail) fresh
    summaries cleared.windowLog = completeSummaries spec start blocks.length ∧
      (summaries marked.windowLog = summaries cleared.windowLog ↔
        ∀ ops ∈ blocks, ∀ packet ∈ packetsOf ops, packet.tail = spec.magicTail →
          packet.prt = spec.expectedNPrt → packet.channel + 1 = spec.channelsPerPrt) := by
  intro spec fresh marked cleared
  have owned : fresh.Owned :=
    System.attached_owned outputMinCapacity recycleMinCapacity consumerSchedule clock
  have markedResult : StreamResult spec start blocks fresh marked :=
    System.run_stream fixed.protocol stream owned ⟨rfl, rfl, .fresh⟩ rfl rfl (.inr fine)
  have flattened : (blocks.map (List.map Op.clearTail)).flatten = blocks.flatten.map Op.clearTail :=
    List.map_flatten.symm
  have clearedResult : StreamResult spec start (blocks.map (List.map Op.clearTail)) fresh cleared := by
    have run := System.run_stream fixed.protocol stream.clearTail owned ⟨rfl, rfl, .fresh⟩ rfl rfl
      (.inr (by rw [flattened]; exact fineCleared))
    rwa [flattened] at run
  have complete : summaries cleared.windowLog = completeSummaries spec start blocks.length := by
    have sameLength : (blocks.map (List.map Op.clearTail)).length = blocks.length :=
      List.length_map _
    rw [← sameLength]
    refine (clearedResult.complete_iff stream.clearTail).mpr fun ops member => ?_
    obtain ⟨markedOps, -, rfl⟩ := List.mem_map.mp member
    exact untilWaveEnd_clearTail fixed.protocol.toWellFormed markedOps
  refine ⟨complete, ?_⟩
  rw [complete, markedResult.complete_iff stream]
  refine forall₂_congr fun ops member => ?_
  obtain ⟨index, inside, rfl⟩ := List.mem_iff_getElem.mp member
  exact untilWaveEnd_canonical_iff fixed.protocol (stream index _ (List.getElem?_eq_getElem inside))
    (canonical _ member) (validated _ member)

/-- Two channels of one packet each. -/
def twoChannelConfig : RxConfig :=
  { pairConfig with protocolChannelsPerPrt := 2, protocolPacketsPerChannel := 1 }

/-- CPI 1 with the last packet of each channel marked. -/
def markedOps : List Op :=
  let spec := protocolSpecFromConfig twoChannelConfig
  [.zeroData spec 1 1 0 1 spec.magicTail, .zeroData spec 1 1 1 1 spec.magicTail]

/-- The marker of the first channel cuts the CPI off. -/
theorem marked_stream_cut_off :
    let spec := protocolSpecFromConfig twoChannelConfig
    let marked := Machine.run (System.step spec) markedOps (System.attached 32 32 [] [])
    let cleared := Machine.run (System.step spec) (markedOps.map Op.clearTail)
      (System.attached 32 32 [] [])
    (∀ packet ∈ packetsOf markedOps, (PacketValidator.validate spec packet).ok = true) ∧
      (packetsOf markedOps).map ParsedPacketView.coord = slotCoords spec spec.expectedNPrt ∧
      marked.runError = "" ∧ cleared.runError = "" ∧
      summaries marked.windowLog = [(1, .abnormalCutoffCommit, 1, 1)] ∧
      summaries cleared.windowLog = [(1, .completeOk, 2, 0)] := by
  decide +kernel

theorem tail_markers_auxiliary_iff_single_channel :
    let spec := protocolSpecFromConfig pairConfig
    let ops : List Op := [.zeroData spec 1 1 0 1 0, .zeroData spec 1 1 0 2 spec.magicTail]
    summaries (Machine.run (System.step spec) ops (System.attached 32 32 [] [])).windowLog =
      summaries (Machine.run (System.step spec) (ops.map Op.clearTail)
        (System.attached 32 32 [] [])).windowLog := by
  intro spec ops
  have stream : Stream spec 1 [ops] := by
    intro index block found
    match index, found with
    | 0, found =>
        cases found
        refine ⟨?_, by decide⟩
        simp only [ops, List.forall_mem_cons]
        exact ⟨Op.zeroData_belongs 0 ⟨by decide, by decide, by decide, by decide, by decide⟩
            (by decide) (by decide),
          Op.zeroData_belongs _ ⟨by decide, by decide, by decide, by decide, by decide⟩ (by decide)
            (by decide), by simp⟩
    | index + 1, found => simp at found
  have same := (tail_markers_auxiliary_iff pairConfig ⟨rfl, by decide, by decide⟩ 32 32 [] [] 1 [ops]
    stream (by decide) (by decide) (by decide +kernel) (by decide +kernel)).2
  rw [List.flatten_singleton] at same
  exact same.mpr (by decide)

/-! ## The sender -/

/-- `make_data_packet_payload` marks the last packet of every channel. -/
def senderTail (spec : ProtocolSpec) (packetIndex : Nat) : Nat :=
  if packetIndex = spec.packetsPerChannel then spec.magicTail else 0

/-- The stream that the sender makes is complete exactly if there is only one
channel. -/
theorem sender_stream_complete_iff (config : RxConfig) (fixed : config.FixedMode)
    (outputMinCapacity recycleMinCapacity : Nat) (consumerSchedule clock : List Nat)
    (start : UInt16) (blocks : List (List Op)) (some : blocks ≠ [])
    (stream : Stream (protocolSpecFromConfig config) start blocks)
    (canonical : ∀ ops ∈ blocks, (packetsOf ops).map ParsedPacketView.coord =
      slotCoords (protocolSpecFromConfig config) config.protocolExpectedNPrt)
    (sent : ∀ ops ∈ blocks, ∀ packet ∈ packetsOf ops,
      (PacketValidator.validate (protocolSpecFromConfig config) packet).ok = true ∧
        packet.tail = senderTail (protocolSpecFromConfig config) packet.packetIndex)
    (fine : (Machine.run (System.step (protocolSpecFromConfig config)) blocks.flatten
      (System.attached outputMinCapacity recycleMinCapacity consumerSchedule clock)).runError = "") :
    let spec := protocolSpecFromConfig config
    let s := Machine.run (System.step spec) blocks.flatten
      (System.attached outputMinCapacity recycleMinCapacity consumerSchedule clock)
    summaries s.windowLog = completeSummaries spec start blocks.length ↔
      spec.channelsPerPrt = 1 := by
  intro spec s
  have result : StreamResult spec start blocks _ s := System.run_stream fixed.protocol stream
    (System.attached_owned outputMinCapacity recycleMinCapacity consumerSchedule clock)
    ⟨rfl, rfl, .fresh⟩ rfl rfl (.inr fine)
  have whole {ops : List Op} (member : ops ∈ blocks) :
      untilWaveEnd spec (packetsOf ops) = packetsOf ops ↔ ∀ packet ∈ packetsOf ops,
        packet.tail = spec.magicTail → packet.prt = spec.expectedNPrt →
        packet.channel + 1 = spec.channelsPerPrt := by
    obtain ⟨index, inside, rfl⟩ := List.mem_iff_getElem.mp member
    exact untilWaveEnd_canonical_iff fixed.protocol
      (stream index _ (List.getElem?_eq_getElem inside)) (canonical _ member)
      fun packet of => (sent _ member packet of).1
  rw [result.complete_iff stream]
  constructor
  · intro all
    obtain ⟨ops, member⟩ := List.exists_mem_of_ne_nil blocks some
    have formed := fixed.protocol.toWellFormed
    have first : (⟨spec.expectedNPrt, 0, spec.packetsPerChannel⟩ : SlotCoord) ∈
        (packetsOf ops).map ParsedPacketView.coord := by
      rw [canonical ops member]
      exact mem_slotCoords.mpr ⟨fixed.expected_pos, Nat.le_refl _, formed.channels_pos,
        formed.packets_pos, Nat.le_refl _⟩
    obtain ⟨packet, inside, coord⟩ := List.mem_map.mp first
    have tail : packet.tail = spec.magicTail := by
      rw [(sent ops member packet inside).2, show packet.packetIndex = spec.packetsPerChannel from
        congrArg SlotCoord.packetIndex coord]
      exact if_pos rfl
    have channel := (whole member).mp (all ops member) packet inside tail
      (congrArg SlotCoord.prt coord)
    rw [← channel, show packet.channel = 0 from congrArg SlotCoord.channel coord]
  · intro single ops member
    refine (whole member).mpr fun packet inside _ _ => ?_
    obtain ⟨index, within, rfl⟩ := List.mem_iff_getElem.mp member
    have channel : packet.channel < spec.channelsPerPrt :=
      ((stream index _ (List.getElem?_eq_getElem within)).fits inside).within.channel_lt
    omega

end RxTech
