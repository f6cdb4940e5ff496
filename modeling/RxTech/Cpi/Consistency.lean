import RxTech.Cpi.Receive

/-!
# Consistent contexts

What the fields of a context say about each other, and what a slot holds, once
the context agrees with the packets it received.
-/

set_option autoImplicit false

namespace RxTech

/-- The summaries of a context agree with its bitmaps and with each other. -/
structure CpiContext.Consistent (spec : ProtocolSpec) (ctx : CpiContext) : Prop where
  channelCount : ∀ index channel, (ctx.prtSummary index).chRecvCount channel =
    Bits.popcount 16 ((ctx.prtSummary index).chPktBitmap channel)
  channelCount_le : ∀ index channel,
    (ctx.prtSummary index).chRecvCount channel ≤ spec.packetsPerChannel
  lowBits : ∀ index channel bit,
    ((ctx.prtSummary index).chPktBitmap channel).testBit bit = true → bit < spec.packetsPerChannel
  packetCount : ∀ index, (ctx.prtSummary index).recvPacketCount =
    ((List.range spec.channelsPerPrt).map fun channel =>
      (ctx.prtSummary index).chRecvCount channel).sum
  received : ctx.header.receivedSlotCount =
    ((List.range kCpiPrtMax).map fun index => (ctx.prtSummary index).recvPacketCount).sum
  readyChannels : ∀ index, (ctx.prtSummary index).readyChannelCount =
    (List.range spec.channelsPerPrt).countP fun channel =>
      (ctx.prtSummary index).chRecvCount channel == spec.packetsPerChannel
  complete : ∀ index, Bits.hasAny (ctx.prtSummary index).flags prtFlagComplete = true ↔
    ∀ channel < spec.channelsPerPrt,
      (ctx.prtSummary index).chRecvCount channel = spec.packetsPerChannel
  readyPrt : ctx.header.readyPrtCount = (List.range kCpiPrtMax).countP fun index =>
    Bits.hasAny (ctx.prtSummary index).flags prtFlagComplete
  observed_ge : ∀ index channel bit,
    ((ctx.prtSummary index).chPktBitmap channel).testBit bit = true →
      index + 1 ≤ ctx.header.observedNPrt
  observed_attained : ctx.header.observedNPrt = 0 ∨ ∃ channel bit,
    ((ctx.prtSummary (ctx.header.observedNPrt - 1)).chPktBitmap channel).testBit bit = true
  validBytes : ∀ coord, SlotCoord.Within spec kCpiPrtMax coord →
    (0 < ctx.slotValidBytes (coord.slot spec) ↔
      ctx.hasPacket coord.prt coord.channel coord.packetIndex = true)

/-- The slot holds the payload of the packet and zeros behind it, or nothing. -/
def CpiContext.Stores (ctx : CpiContext) (slot : Nat) : Option ParsedPacketView → Prop
  | none => ctx.slotValidBytes slot = 0 ∧
      ∀ offset, offset < kCpiSlotStride → ctx.slotByte slot offset = 0
  | some packet => ∃ bytes, packet.payloadPtr = some bytes ∧
      ctx.slotValidBytes slot = packet.payloadLen ∧
      ∀ offset, offset < kCpiSlotStride →
        ctx.slotByte slot offset = if offset < packet.payloadLen then bytes offset else 0

variable {spec : ProtocolSpec} {packets : List ParsedPacketView} {ctx : CpiContext}

/-! ## Bitmaps -/

theorem Recorded.bit_iff (recorded : Recorded spec packets ctx) {index channel bit : Nat} :
    ((ctx.prtSummary index).chPktBitmap channel).testBit bit = true ↔
      ∃ packet ∈ packets, packet.coord = ⟨index + 1, channel, bit + 1⟩ := by
  rw [recorded.bitmap, decide_eq_true_eq, List.mem_map]

theorem Recorded.bit_lt (recorded : Recorded spec packets ctx) {index channel bit : Nat}
    (set : ((ctx.prtSummary index).chPktBitmap channel).testBit bit = true) :
    bit < spec.packetsPerChannel := by
  obtain ⟨packet, member, is⟩ := recorded.bit_iff.mp set
  have within := recorded.within packet member
  rw [is] at within
  exact within.packetIndex_le

theorem Recorded.channelCount_popcount (recorded : Recorded spec packets ctx)
    (formed : spec.WellFormed) (index channel : Nat) :
    (ctx.prtSummary index).chRecvCount channel =
      Bits.popcount 16 ((ctx.prtSummary index).chPktBitmap channel) := by
  let kept := packets.filter fun packet => packet.prt == index + 1 && packet.channel == channel
  have here : ∀ packet ∈ kept, packet ∈ packets ∧
      packet.coord = ⟨index + 1, channel, packet.packetIndex - 1 + 1⟩ := by
    intro packet inKept
    obtain ⟨member, same⟩ := List.mem_filter.mp inKept
    simp only [Bool.and_eq_true, beq_iff_eq] at same
    have pos : 1 ≤ packet.packetIndex := (recorded.within packet member).packetIndex_pos
    refine ⟨member, ?_⟩
    simp only [ParsedPacketView.coord, same, Nat.sub_add_cancel pos]
  have distinct : (kept.map fun packet => packet.packetIndex - 1).Nodup := by
    refine List.Nodup.map_on ?_ (recorded.distinct.sublist (List.filter_sublist.map _)).of_map
    intro first inFirst second inSecond same
    have coords : first.coord = second.coord := by
      rw [(here first inFirst).2, (here second inSecond).2, same]
    exact List.inj_on_of_nodup_map recorded.distinct (here first inFirst).1
      (here second inSecond).1 coords
  have set (bit : Nat) : ((ctx.prtSummary index).chPktBitmap channel).testBit bit = true ↔
      bit ∈ kept.map fun packet => packet.packetIndex - 1 := by
    rw [recorded.bit_iff, List.mem_map]
    constructor
    · rintro ⟨packet, member, is⟩
      simp only [ParsedPacketView.coord, SlotCoord.mk.injEq] at is
      exact ⟨packet, List.mem_filter.mpr ⟨member, by simp [is]⟩, by omega⟩
    · rintro ⟨packet, inKept, rfl⟩
      exact ⟨packet, here packet inKept⟩
  have small : ∀ bit ∈ kept.map fun packet => packet.packetIndex - 1, bit < 16 :=
    fun bit member => recorded.bit_small formed ((set bit).mpr member)
  rw [Bits.popcount_eq_length distinct small set, List.length_map, recorded.channelCount,
    channelPackets, List.countP_eq_length_filter]

/-! ## Counters -/

theorem Recorded.packetCount_sum (recorded : Recorded spec packets ctx) (index : Nat) :
    (ctx.prtSummary index).recvPacketCount =
      ((List.range spec.channelsPerPrt).map fun channel =>
        (ctx.prtSummary index).chRecvCount channel).sum := by
  have inside : ∀ packet ∈ packets, (packet.prt == index + 1) = true →
      packet.channel < spec.channelsPerPrt :=
    fun packet member _ => (recorded.within packet member).channel_lt
  simp only [recorded.packetCount, recorded.channelCount, prtPackets, channelPackets]
  exact (Counting.sum_countP_key _ ParsedPacketView.channel _ packets inside).symm

theorem Recorded.received_sum (recorded : Recorded spec packets ctx) :
    ctx.header.receivedSlotCount =
      ((List.range kCpiPrtMax).map fun index => (ctx.prtSummary index).recvPacketCount).sum := by
  have shifted (index : Nat) : prtPackets packets index =
      packets.countP fun packet => true && packet.prt - 1 == index := by
    refine List.countP_congr fun packet member => ?_
    have pos : 1 ≤ packet.prt := (recorded.within packet member).prt_pos
    simp only [Bool.true_and, beq_iff_eq]
    omega
  have inside : ∀ packet ∈ packets, true = true → packet.prt - 1 < kCpiPrtMax := by
    intro packet member _
    have pos : 1 ≤ packet.prt := (recorded.within packet member).prt_pos
    have le : packet.prt ≤ kCpiPrtMax := (recorded.within packet member).prt_le
    omega
  simp only [recorded.packetCount, shifted]
  rw [Counting.sum_countP_key (fun _ => true) (fun packet : ParsedPacketView => packet.prt - 1) _
    packets inside, List.countP_true, recorded.received]

theorem Progressed.complete_iff (progressed : Progressed spec packets ctx) (index : Nat) :
    Bits.hasAny (ctx.prtSummary index).flags prtFlagComplete = true ↔
      ∀ channel < spec.channelsPerPrt,
        (ctx.prtSummary index).chRecvCount channel = spec.packetsPerChannel := by
  have all : (List.range spec.channelsPerPrt).countP (fun channel =>
      (ctx.prtSummary index).chRecvCount channel == spec.packetsPerChannel) =
        (List.range spec.channelsPerPrt).length ↔ _ := List.countP_eq_length
  rw [List.length_range] at all
  rw [progressed.complete, beq_iff_eq, progressed.readyChannels, all]
  simp only [List.mem_range, beq_iff_eq]

/-- A complete PRT has each of its packets. -/
theorem Reception.prt_whole (reception : Reception spec packets ctx)
    {index channel packetIndex : Nat}
    (complete : Bits.hasAny (ctx.prtSummary index).flags prtFlagComplete = true)
    (inside : channel < spec.channelsPerPrt) (pos : 1 ≤ packetIndex)
    (le : packetIndex ≤ spec.packetsPerChannel) :
    ∃ packet ∈ packets, packet.coord = ⟨index + 1, channel, packetIndex⟩ := by
  have counted := (reception.progressed.complete_iff index).mp complete channel inside
  rw [reception.recorded.channelCount] at counted
  exact reception.recorded.channel_whole counted pos le

private theorem foldl_max_mem (start : Nat) (values : List Nat) :
    values.foldl max start = start ∨ values.foldl max start ∈ values := by
  induction values generalizing start with
  | nil => exact .inl rfl
  | cons value rest ih =>
      rw [List.foldl_cons]
      rcases ih (max start value) with same | member
      · rw [same]
        rcases Nat.le_total start value with less | greater
        · exact .inr (by simp [Nat.max_eq_right less])
        · exact .inl (Nat.max_eq_left greater)
      · exact .inr (List.mem_cons_of_mem _ member)

theorem Recorded.observed_attained (recorded : Recorded spec packets ctx) :
    ctx.header.observedNPrt = 0 ∨ ∃ packet ∈ packets, packet.prt = ctx.header.observedNPrt := by
  have folded : ctx.header.observedNPrt = 0 ∨
      ctx.header.observedNPrt ∈ packets.map ParsedPacketView.prt := by
    rw [recorded.observed]
    exact foldl_max_mem _ _
  rcases folded with none | member
  · exact .inl none
  · obtain ⟨packet, inPackets, is⟩ := List.mem_map.mp member
    exact .inr ⟨packet, inPackets, is⟩

/-! ## Slots -/

theorem Recorded.slot_packet (recorded : Recorded spec packets ctx) (formed : spec.WellFormed)
    {packet : ParsedPacketView} (member : packet ∈ packets) {coord : SlotCoord}
    (within : coord.Within spec kCpiPrtMax) (same : packet.coord.slot spec = coord.slot spec) :
    packet.coord = coord :=
  SlotCoord.slot_inj formed (recorded.within packet member) within same

theorem Recorded.stores_packet (recorded : Recorded spec packets ctx) (formed : spec.WellFormed)
    {packet : ParsedPacketView} (member : packet ∈ packets) :
    ctx.Stores (packet.coord.slot spec) (some packet) := by
  obtain ⟨bytes, payload⟩ := Option.isSome_iff_exists.mp (recorded.filled packet member).1
  refine ⟨bytes, payload, recorded.validBytes packet member, fun offset inside => ?_⟩
  by_cases short : offset < packet.payloadLen
  · rw [if_pos short]
    exact recorded.stored packet member bytes payload offset short
  · rw [if_neg short]
    refine recorded.clear _ offset inside fun other inPackets same => ?_
    have coords := recorded.slot_packet formed inPackets (recorded.within packet member) same
    have equal : other = packet :=
      List.inj_on_of_nodup_map recorded.distinct inPackets member coords
    rw [equal]
    exact Nat.le_of_not_lt short

theorem Recorded.stores (recorded : Recorded spec packets ctx) (formed : spec.WellFormed)
    {coord : SlotCoord} (within : coord.Within spec kCpiPrtMax) :
    ctx.Stores (coord.slot spec) (packets.find? fun packet => packet.coord = coord) := by
  cases found : packets.find? fun packet => packet.coord = coord with
  | none =>
      have elsewhere : ∀ packet ∈ packets, packet.coord.slot spec ≠ coord.slot spec := by
        intro packet member same
        have different := List.find?_eq_none.mp found packet member
        simp only [decide_eq_true_eq] at different
        exact different (recorded.slot_packet formed member within same)
      exact ⟨recorded.unused _ elsewhere, fun offset inside =>
        recorded.clear _ offset inside fun packet member same =>
          absurd same (elsewhere packet member)⟩
  | some packet =>
      have here : packet.coord = coord := by simpa using List.find?_some found
      rw [← here]
      exact recorded.stores_packet formed (List.mem_of_find?_eq_some found)

theorem Recorded.validBytes_iff (recorded : Recorded spec packets ctx) (formed : spec.WellFormed)
    {coord : SlotCoord} (within : coord.Within spec kCpiPrtMax) :
    0 < ctx.slotValidBytes (coord.slot spec) ↔
      ctx.hasPacket coord.prt coord.channel coord.packetIndex = true := by
  have prt : coord.prt - 1 + 1 = coord.prt := Nat.sub_add_cancel within.prt_pos
  have packetIndex : coord.packetIndex - 1 + 1 = coord.packetIndex :=
    Nat.sub_add_cancel within.packetIndex_pos
  rw [CpiContext.hasPacket, recorded.bit_iff, prt, packetIndex]
  constructor
  · intro filled
    by_contra none
    have elsewhere : ∀ packet ∈ packets, packet.coord.slot spec ≠ coord.slot spec :=
      fun packet member same =>
        none ⟨packet, member, recorded.slot_packet formed member within same⟩
    rw [recorded.unused _ elsewhere] at filled
    exact Nat.lt_irrefl 0 filled
  · rintro ⟨packet, member, is⟩
    have here : packet.coord = coord := is
    rw [← here, recorded.validBytes packet member]
    exact (recorded.filled packet member).2

theorem Reception.consistent (reception : Reception spec packets ctx) (formed : spec.WellFormed) :
    ctx.Consistent spec where
  channelCount := reception.recorded.channelCount_popcount formed
  channelCount_le index channel := by
    rw [reception.recorded.channelCount]
    exact reception.recorded.channelPackets_le index channel
  lowBits _ _ _ := reception.recorded.bit_lt
  packetCount := reception.recorded.packetCount_sum
  received := reception.recorded.received_sum
  readyChannels := reception.progressed.readyChannels
  complete := reception.progressed.complete_iff
  readyPrt := reception.progressed.readyPrt
  observed_ge index channel bit set := by
    obtain ⟨packet, member, is⟩ := reception.recorded.bit_iff.mp set
    have prt : packet.prt = index + 1 := congrArg SlotCoord.prt is
    exact prt ▸ reception.recorded.prt_le_observed member
  observed_attained := by
    rcases reception.recorded.observed_attained with none | ⟨packet, member, prt⟩
    · exact .inl none
    · have within := reception.recorded.within packet member
      refine .inr ⟨packet.channel, packet.packetIndex - 1,
        reception.recorded.bit_iff.mpr ⟨packet, member, ?_⟩⟩
      have prtPos : 1 ≤ packet.prt := within.prt_pos
      have packetPos : 1 ≤ packet.packetIndex := within.packetIndex_pos
      rw [← prt, Nat.sub_add_cancel prtPos, Nat.sub_add_cancel packetPos]
      rfl
  validBytes _ within := reception.recorded.validBytes_iff formed within

theorem SlotCoord.slot_lt (formed : spec.WellFormed) {coord : SlotCoord}
    (within : coord.Within spec kCpiPrtMax) : coord.slot spec < kCpiMaxTotalSlots := by
  obtain ⟨prtPos, prtLe, channelLt, packetPos, packetLe⟩ := within
  have channels := formed.channels_le
  have perChannel := formed.packets_le
  have row : (coord.prt - 1) * spec.channelsPerPrt + coord.channel ≤ 255 := by
    have : (coord.prt - 1) * spec.channelsPerPrt ≤ 63 * spec.channelsPerPrt :=
      Nat.mul_le_mul_right _ (by simp only [kCpiPrtMax] at prtLe; omega)
    omega
  have packet := Nat.mul_le_mul row perChannel
  simp only [SlotCoord.slot, slotIndex, formed.u16_channels, formed.u16_packets, kCpiMaxTotalSlots,
    kCpiPrtMax, kCpiMaxSlotsPerPrt, kCpiMaxChannelCount, kCpiMaxPacketsPerChannel]
  omega

end RxTech
