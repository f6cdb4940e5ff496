import RxTech.Cpi.Receive
import RxTech.Cpi.Adjudication

/-!
# Filling a context

A context that receives packets of its CPI, each coordinate once, up to the
packet that fills it or ends the wave.
-/

set_option autoImplicit false

namespace RxTech

/-- A tail on the last expected PRT. -/
def ParsedPacketView.endsWave (spec : ProtocolSpec) (nPrt : Nat) (packet : ParsedPacketView) :
    Bool :=
  packet.tail == spec.magicTail && decide (nPrt ≤ packet.prt)

/-- A data packet with a slot in the first `nPrt` PRTs. -/
structure ParsedPacketView.Fits (spec : ProtocolSpec) (nPrt : Nat) (packet : ParsedPacketView) :
    Prop where
  valid : packet.valid = true
  kind : packet.kind = .dataPacket
  within : packet.coord.Within spec nPrt
  payload : packet.payloadPtr.isSome = true
  len_pos : 1 ≤ packet.payloadLen
  len_le : packet.payloadLen ≤ kCpiSlotStride

/-- How many packets fill a context. -/
def slotTotal (spec : ProtocolSpec) (nPrt : Nat) : Nat :=
  nPrt * (spec.channelsPerPrt * spec.packetsPerChannel)

/-- An open context of `cpi`, bound to `nPrt` PRTs, that took `packets`. -/
structure Took (spec : ProtocolSpec) (cpi : UInt16) (nPrt : Nat) (packets : List ParsedPacketView)
    (ctx : CpiContext) : Prop where
  cpiId : ctx.header.cpiId = cpi
  active : ctx.header.state = .active
  reception : Reception spec packets ctx
  bound : Bound spec ctx
  count : ctx.control.nPrt = nPrt
  once : ctx.header.duplicateCount = 0

/-- And none of them triggered its end. -/
structure Filling (spec : ProtocolSpec) (cpi : UInt16) (nPrt : Nat)
    (packets : List ParsedPacketView) (ctx : CpiContext) : Prop extends
    Took spec cpi nPrt packets ctx where
  notFull : Bits.hasAny ctx.header.triggerBits triggerFullReady = false
  notEnded : Bits.hasAny ctx.header.triggerBits triggerWaveEnd = false
  calm : ∀ packet ∈ packets, packet.endsWave spec nPrt = false

variable {spec : ProtocolSpec} {cpi : UInt16} {nPrt : Nat} {packets : List ParsedPacketView}
  {packet : ParsedPacketView} {bytes : ByteView} {ctx : CpiContext}

theorem Took.takes (took : Took spec cpi nPrt packets ctx) (formed : spec.WellFormed)
    (small : nPrt ≤ kCpiPrtMax) (fits : packet.Fits spec nPrt)
    (payload : packet.payloadPtr = some bytes)
    (absent : packet.coord ∉ packets.map ParsedPacketView.coord) :
    ctx.Takes spec packet bytes where
  accepts :=
    { valid := fits.valid
      kind := fits.kind
      coord := (isValidSlotCoord_iff formed).mpr (fits.within.mono small)
      expected := by
        rw [took.bound.expectedNPrt, took.count]
        exact .inr fits.within.prt_le
      payload := fits.payload
      len_pos := fits.len_pos
      len_le := fits.len_le }
  payload := payload
  absent := by
    have present := took.reception.recorded.bitmapHas_iff formed (fits.within.mono small)
    rw [← Bool.not_eq_true, present]
    exact absent

theorem Took.receive (took : Took spec cpi nPrt packets ctx) (formed : spec.WellFormed)
    (takes : ctx.Takes spec packet bytes) :
    Took spec cpi nPrt (packets ++ [packet]) (ctx.receive spec packet bytes) where
  cpiId := CpiContext.receive_cpiId.trans took.cpiId
  active := (CpiContext.state_of_identity CpiContext.receive_identity).trans took.active
  reception := took.reception.store formed takes.accepts takes.payload takes.absent
  bound := took.bound.of_binding CpiContext.receive_binding
  count := (congrArg ControlSnapshot.nPrt CpiContext.receive_control).trans took.count
  once := (congrArg (fun binding => binding.2.2.2) CpiContext.receive_binding).trans took.once

theorem slotTotal_pos (formed : spec.WellFormed) (pos : 1 ≤ nPrt) : 0 < slotTotal spec nPrt :=
  Nat.mul_pos pos (Nat.mul_pos formed.channels_pos formed.packets_pos)

theorem Took.isFull_eq (took : Took spec cpi nPrt packets ctx) (formed : spec.WellFormed)
    (pos : 1 ≤ nPrt) : ctx.isFull = decide (slotTotal spec nPrt ≤ packets.length) := by
  have total : ctx.header.expectedSlotCount = slotTotal spec nPrt := by
    rw [took.bound.expectedSlotCount, took.count, slotTotal]
  simp only [CpiContext.isFull, total, took.reception.recorded.received,
    slotTotal_pos formed pos, true_and]

theorem Filling.receive_waveEnd (filling : Filling spec cpi nPrt packets ctx)
    (formed : spec.WellFormed) (pos : 1 ≤ nPrt) (takes : ctx.Takes spec packet bytes) :
    Bits.hasAny (ctx.receive spec packet bytes).header.triggerBits triggerWaveEnd =
      packet.endsWave spec nPrt := by
  have within := (isValidSlotCoord_iff formed).mp takes.accepts.coord
  have prt : packet.prt - 1 + 1 = packet.prt := Nat.sub_add_cancel within.prt_pos
  have seen := filling.reception.progressed.seenTail (packet.prt - 1)
  have stored : Bits.hasAny ((ctx.storePacket packet bytes (SlotWriter.index spec packet)).prtSummary
      (packet.prt - 1)).flags prtFlagSeenTail =
      packets.any fun other => other.prt == packet.prt && other.tail == spec.magicTail := by
    rw [prt] at seen
    rw [← seen]
    simp [CpiContext.storePacket, CpiContext.copyPayload]
  have expected : (ctx.storePacket packet bytes (SlotWriter.index spec packet)).header.expectedNPrt =
      nPrt := filling.bound.expectedNPrt.trans filling.count
  have before : Bits.hasAny (ctx.storePacket packet bytes
      (SlotWriter.index spec packet)).header.triggerBits triggerWaveEnd = false := filling.notEnded
  rw [CpiContext.receive, ProgressTracker.advance_waveEnd formed _ within, stored, expected, before,
    Bool.false_or, ParsedPacketView.endsWave]
  by_cases last : nPrt ≤ packet.prt
  · have first : (packets.any fun other =>
        other.prt == packet.prt && other.tail == spec.magicTail) = false := by
      refine List.any_eq_false.mpr fun other member tail => ?_
      have calm := filling.calm other member
      simp only [Bool.and_eq_true, beq_iff_eq] at tail
      simp [ParsedPacketView.endsWave, tail.1, tail.2, last] at calm
    simp only [first, last, Nat.lt_of_lt_of_le Nat.zero_lt_one pos, and_self, and_true, beq_iff_eq,
      decide_true, Bool.and_true]
    rfl
  · simp [last]

theorem Filling.receive_fullReady (filling : Filling spec cpi nPrt packets ctx)
    (formed : spec.WellFormed) (pos : 1 ≤ nPrt) (takes : ctx.Takes spec packet bytes) :
    Bits.hasAny (ctx.receive spec packet bytes).header.triggerBits triggerFullReady =
      decide (slotTotal spec nPrt ≤ packets.length + 1) := by
  rw [CpiContext.receive_fullReady formed takes, filling.notFull, Bool.false_or,
    (filling.toTook.receive formed takes).isFull_eq formed pos, List.length_append,
    List.length_singleton]

/-- A packet that neither fills the context nor ends the wave. -/
theorem Filling.receive (filling : Filling spec cpi nPrt packets ctx) (formed : spec.WellFormed)
    (pos : 1 ≤ nPrt) (takes : ctx.Takes spec packet bytes)
    (room : packets.length + 1 < slotTotal spec nPrt) (calm : packet.endsWave spec nPrt = false) :
    Filling spec cpi nPrt (packets ++ [packet]) (ctx.receive spec packet bytes) where
  toTook := filling.toTook.receive formed takes
  notFull := by
    rw [filling.receive_fullReady formed pos takes, decide_eq_false_iff_not]
    omega
  notEnded := (filling.receive_waveEnd formed pos takes).trans calm
  calm other member := by
    rcases List.mem_append.mp member with old | new
    · exact filling.calm other old
    · exact List.mem_singleton.mp new ▸ calm

/-! ## The output of a context -/

/-- What an output says about a context that took `packets`. -/
structure Reports (spec : ProtocolSpec) (cpi : UInt16) (nPrt : Nat)
    (packets : List ParsedPacketView) (ctx : CpiContext) (output : CpiOutput) : Prop where
  cpiId : output.cpiId = cpi
  received : output.receivedSlotCount = packets.length
  missing : output.missingSlotCount = slotTotal spec nPrt - packets.length
  once : output.duplicateCount = 0
  ready : output.readyPrtCount = ctx.header.readyPrtCount
  reception : Reception spec packets ctx

theorem Took.reports (took : Took spec cpi nPrt packets ctx) (trigger now : Nat)
    (decision : CpiDecision) :
    Reports spec cpi nPrt packets (ctx.seal trigger now decision)
      (ctx.seal trigger now decision).makeOutput where
  cpiId := took.cpiId
  received := took.reception.recorded.received
  missing := by
    have total : (ctx.seal trigger now decision).header.expectedSlotCount = slotTotal spec nPrt := by
      rw [slotTotal, ← took.count, ← took.bound.expectedSlotCount]
      rfl
    have received : (ctx.seal trigger now decision).header.receivedSlotCount = packets.length :=
      took.reception.recorded.received
    simp only [CpiContext.makeOutput, total, received]
    split <;> omega
  once := took.once
  ready := rfl
  reception := took.reception.congr (.of_header rfl rfl rfl rfl rfl rfl) rfl rfl

/-! ## A context that took every packet -/

private theorem countP_slotCoords (spec : ProtocolSpec) {nPrt index channel : Nat}
    (inside : index < nPrt)
    (within : channel < spec.channelsPerPrt) :
    (slotCoords spec nPrt).countP
        (fun coord => coord.prt == index + 1 && coord.channel == channel) =
      spec.packetsPerChannel := by
  have perm : ((slotCoords spec nPrt).filter fun coord =>
      coord.prt == index + 1 && coord.channel == channel).Perm
      ((List.range spec.packetsPerChannel).map fun packetIndex =>
        (⟨index + 1, channel, packetIndex + 1⟩ : SlotCoord)) := by
    refine (List.perm_ext_iff_of_nodup ((nodup_slotCoords spec nPrt).filter _) ?_).mpr ?_
    · refine List.nodup_range.map fun first second same => ?_
      simpa using same
    rintro ⟨prt, other, packetIndex⟩
    simp only [List.mem_filter, mem_slotCoords, List.mem_map, List.mem_range, Bool.and_eq_true,
      beq_iff_eq, SlotCoord.mk.injEq]
    constructor
    · rintro ⟨inRange, rfl, rfl⟩
      have positive : 1 ≤ packetIndex := inRange.packetIndex_pos
      have bounded : packetIndex ≤ spec.packetsPerChannel := inRange.packetIndex_le
      exact ⟨packetIndex - 1, by omega, rfl, rfl, by omega⟩
    · rintro ⟨offset, small, rfl, rfl, rfl⟩
      exact ⟨⟨Nat.le_add_left .., inside, within, Nat.le_add_left .., small⟩, rfl, rfl⟩
  rw [List.countP_eq_length_filter, perm.length_eq, List.length_map, List.length_range]

theorem Reception.readyPrt_complete (reception : Reception spec packets ctx)
    (formed : spec.WellFormed) (small : nPrt ≤ kCpiPrtMax)
    (perm : (packets.map ParsedPacketView.coord).Perm (slotCoords spec nPrt)) :
    ctx.header.readyPrtCount = nPrt := by
  have counted (index channel : Nat) : (ctx.prtSummary index).chRecvCount channel =
      (slotCoords spec nPrt).countP
        fun coord => coord.prt == index + 1 && coord.channel == channel := by
    rw [reception.recorded.channelCount, channelPackets, ← perm.countP_eq, List.countP_map]
    rfl
  have complete (index : Nat) : Bits.hasAny (ctx.prtSummary index).flags prtFlagComplete =
      decide (index < nPrt) := by
    rw [reception.progressed.complete, reception.progressed.readyChannels]
    by_cases inside : index < nPrt
    · have all : (List.range spec.channelsPerPrt).countP (fun channel =>
          (ctx.prtSummary index).chRecvCount channel == spec.packetsPerChannel) =
          spec.channelsPerPrt := by
        refine (List.countP_eq_length.mpr fun channel member => ?_).trans List.length_range
        rw [counted, countP_slotCoords spec inside (List.mem_range.mp member)]
        exact beq_self_eq_true _
      simp [all, inside]
    · have none : (List.range spec.channelsPerPrt).countP (fun channel =>
          (ctx.prtSummary index).chRecvCount channel == spec.packetsPerChannel) = 0 := by
        refine List.countP_eq_zero.mpr fun channel _ => ?_
        have empty : (ctx.prtSummary index).chRecvCount channel = 0 := by
          rw [counted]
          refine List.countP_eq_zero.mpr fun coord member => ?_
          have bounded := (mem_slotCoords.mp member).prt_le
          simp only [Bool.and_eq_true, beq_iff_eq, not_and]
          omega
        have positive := formed.packets_pos
        rw [empty, beq_iff_eq]
        omega
      have positive := formed.channels_pos
      simp only [none, inside, decide_false, beq_eq_false_iff_ne]
      omega
  rw [reception.progressed.readyPrt]
  simp only [complete]
  rw [Counting.countP_range_lt, Nat.min_eq_right small]

end RxTech
