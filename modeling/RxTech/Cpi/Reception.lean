import RxTech.Cpi.Slots
import RxTech.Library.Counting

/-!
# What a context has received

A context that received some packets, each coordinate once, agrees with them in
its bitmaps, its counters and its stored bytes.
-/

set_option autoImplicit false

namespace RxTech

def channelPackets (packets : List ParsedPacketView) (index channel : Nat) : Nat :=
  packets.countP fun packet => packet.prt == index + 1 && packet.channel == channel

def prtPackets (packets : List ParsedPacketView) (index : Nat) : Nat :=
  packets.countP fun packet => packet.prt == index + 1

/-- What `SlotWriter` has written for `packets`, in the order of their arrival. -/
structure Recorded (spec : ProtocolSpec) (packets : List ParsedPacketView) (ctx : CpiContext) :
    Prop where
  distinct : (packets.map ParsedPacketView.coord).Nodup
  within : ∀ packet ∈ packets, packet.coord.Within spec kCpiPrtMax
  sized : ∀ packet ∈ packets, packet.payloadLen ≤ kCpiSlotStride
  filled : ∀ packet ∈ packets, packet.payloadPtr.isSome = true ∧ 0 < packet.payloadLen
  bitmap : ∀ index channel bit, ((ctx.prtSummary index).chPktBitmap channel).testBit bit =
    decide (⟨index + 1, channel, bit + 1⟩ ∈ packets.map ParsedPacketView.coord)
  channelCount : ∀ index channel,
    (ctx.prtSummary index).chRecvCount channel = channelPackets packets index channel
  packetCount : ∀ index, (ctx.prtSummary index).recvPacketCount = prtPackets packets index
  received : ctx.header.receivedSlotCount = packets.length
  observed : ctx.header.observedNPrt = (packets.map ParsedPacketView.prt).foldl max 0
  anchor : ctx.header.firstRxTsc =
    ((packets.map ParsedPacketView.rxTsc).find? fun rxTsc => rxTsc != 0).getD 0
  validBytes : ∀ packet ∈ packets, ctx.slotValidBytes (packet.coord.slot spec) = packet.payloadLen
  stored : ∀ packet ∈ packets, ∀ bytes, packet.payloadPtr = some bytes →
    ∀ offset, offset < packet.payloadLen → ctx.slotByte (packet.coord.slot spec) offset = bytes offset
  unused : ∀ slot, (∀ packet ∈ packets, packet.coord.slot spec ≠ slot) → ctx.slotValidBytes slot = 0
  clear : ∀ slot offset, offset < kCpiSlotStride →
    (∀ packet ∈ packets, packet.coord.slot spec = slot → packet.payloadLen ≤ offset) →
    ctx.slotByte slot offset = 0

/-- What `ProgressTracker` has derived from it. -/
structure Progressed (spec : ProtocolSpec) (packets : List ParsedPacketView) (ctx : CpiContext) :
    Prop where
  readyChannels : ∀ index, (ctx.prtSummary index).readyChannelCount =
    (List.range spec.channelsPerPrt).countP fun channel =>
      (ctx.prtSummary index).chRecvCount channel == spec.packetsPerChannel
  complete : ∀ index, Bits.hasAny (ctx.prtSummary index).flags prtFlagComplete =
    ((ctx.prtSummary index).readyChannelCount == spec.channelsPerPrt)
  seenTail : ∀ index, Bits.hasAny (ctx.prtSummary index).flags prtFlagSeenTail =
    packets.any fun packet => packet.prt == index + 1 && packet.tail == spec.magicTail
  readyPrt : ctx.header.readyPrtCount = (List.range kCpiPrtMax).countP fun index =>
    Bits.hasAny (ctx.prtSummary index).flags prtFlagComplete

structure Reception (spec : ProtocolSpec) (packets : List ParsedPacketView) (ctx : CpiContext) :
    Prop where
  recorded : Recorded spec packets ctx
  progressed : Progressed spec packets ctx

/-! ## A fresh context -/

theorem Recorded.reset (spec : ProtocolSpec) (cpiId : UInt16) (poolIndex : Option PoolIndex)
    (birth : Nat) : Recorded spec [] (CpiContext.reset cpiId poolIndex birth) := by
  constructor <;> simp [CpiContext.reset, channelPackets, prtPackets, CpiContext.slotByte]

theorem Progressed.reset {spec : ProtocolSpec} (formed : spec.WellFormed) (cpiId : UInt16)
    (poolIndex : Option PoolIndex) (birth : Nat) :
    Progressed spec [] (CpiContext.reset cpiId poolIndex birth) := by
  have channels := formed.channels_pos
  have packets := formed.packets_pos
  constructor
  · intro index
    refine (List.countP_eq_zero.mpr fun channel _ => ?_).symm
    simp only [CpiContext.reset, beq_iff_eq]
    omega
  · intro index
    have nonempty : (0 : Nat) ≠ spec.channelsPerPrt := by omega
    simp [CpiContext.reset, prtFlagNone, nonempty]
  · intro index
    simp [CpiContext.reset, prtFlagNone]
  · simp [CpiContext.reset, prtFlagNone]

/-! ## Storing a packet -/

private theorem packetBit_eq {spec : ProtocolSpec} (formed : spec.WellFormed) {packetIndex : Nat}
    (le : packetIndex ≤ spec.packetsPerChannel) : packetBit packetIndex = 1 <<< (packetIndex - 1) := by
  have small : packetIndex - 1 < 16 := by
    have := formed.packets_le
    omega
  rw [packetBit, Nat.one_shiftLeft]
  exact u16_of_lt (Nat.pow_lt_pow_right (by decide) small)

theorem Recorded.bitmapHas_iff {spec : ProtocolSpec} {packets : List ParsedPacketView}
    {ctx : CpiContext} (recorded : Recorded spec packets ctx) (formed : spec.WellFormed)
    {packet : ParsedPacketView} (within : packet.coord.Within spec kCpiPrtMax) :
    ctx.bitmapHas packet = true ↔ packet.coord ∈ packets.map ParsedPacketView.coord := by
  have prt : packet.prt - 1 + 1 = packet.prt := Nat.sub_add_cancel within.prt_pos
  have packetIndex : packet.packetIndex - 1 + 1 = packet.packetIndex :=
    Nat.sub_add_cancel within.packetIndex_pos
  rw [CpiContext.bitmapHas, packetBit_eq formed (show packet.packetIndex ≤ _ from
    within.packetIndex_le), Bits.hasAny_one_shiftLeft, recorded.bitmap, prt, packetIndex,
    decide_eq_true_eq]
  rfl

/-- The bits of a bitmap are those of packets of the channel, so they fit. -/
theorem Recorded.bit_small {spec : ProtocolSpec} {packets : List ParsedPacketView}
    {ctx : CpiContext} (recorded : Recorded spec packets ctx) (formed : spec.WellFormed)
    {index channel bit : Nat}
    (set : ((ctx.prtSummary index).chPktBitmap channel).testBit bit = true) : bit < 16 := by
  rw [recorded.bitmap, decide_eq_true_eq, List.mem_map] at set
  obtain ⟨packet, member, is⟩ := set
  have le := (recorded.within packet member).packetIndex_le
  have := formed.packets_le
  rw [is] at le
  simp only at le
  omega

private theorem storePacket_bitmap {spec : ProtocolSpec} {packets : List ParsedPacketView}
    {ctx : CpiContext} (recorded : Recorded spec packets ctx) (formed : spec.WellFormed)
    {packet : ParsedPacketView} (within : packet.coord.Within spec kCpiPrtMax) (bytes : ByteView)
    (slot index channel bit : Nat) :
    (((ctx.storePacket packet bytes slot).prtSummary index).chPktBitmap channel).testBit bit =
      (((ctx.prtSummary index).chPktBitmap channel).testBit bit ||
        decide (packet.coord = ⟨index + 1, channel, bit + 1⟩)) := by
  have prtPos : 1 ≤ packet.prt := within.prt_pos
  have packetPos : 1 ≤ packet.packetIndex := within.packetIndex_pos
  have packetLe : packet.packetIndex ≤ spec.packetsPerChannel := within.packetIndex_le
  have bound := formed.packets_le
  simp only [ParsedPacketView.coord, SlotCoord.mk.injEq]
  by_cases prt : index = packet.prt - 1
  · subst prt
    by_cases same : channel = packet.channel
    · subst same
      simp only [CpiContext.storePacket, CpiContext.copyPayload, Function.update_self]
      rw [u16, Nat.testBit_mod_two_pow, packetBit_eq formed packetLe,
        Bits.testBit_or_one_shiftLeft]
      by_cases old : ((ctx.prtSummary (packet.prt - 1)).chPktBitmap packet.channel).testBit bit
      · simp [old, recorded.bit_small formed old]
      · rw [Bool.not_eq_true] at old
        have here : packet.prt = packet.prt - 1 + 1 := by omega
        rw [old, Bool.eq_iff_iff]
        simp only [← here, Bool.false_or, Bool.and_eq_true, decide_eq_true_eq, true_and]
        omega
    · simp [CpiContext.storePacket, CpiContext.copyPayload, same, Ne.symm same]
  · have different : packet.prt ≠ index + 1 := by omega
    simp [CpiContext.storePacket, CpiContext.copyPayload, prt, different]

private theorem storePacket_channelCount {packet : ParsedPacketView} (prtPos : 1 ≤ packet.prt)
    (ctx : CpiContext) (bytes : ByteView) (slot index channel : Nat) :
    ((ctx.storePacket packet bytes slot).prtSummary index).chRecvCount channel =
      (ctx.prtSummary index).chRecvCount channel +
        if packet.prt = index + 1 ∧ packet.channel = channel then 1 else 0 := by
  by_cases prt : index = packet.prt - 1
  · subst prt
    have here : packet.prt = packet.prt - 1 + 1 := by omega
    by_cases same : channel = packet.channel
    · subst same
      simp [CpiContext.storePacket, CpiContext.copyPayload, ← here]
    · simp [CpiContext.storePacket, CpiContext.copyPayload, same, Ne.symm same]
  · have different : packet.prt ≠ index + 1 := by omega
    simp [CpiContext.storePacket, CpiContext.copyPayload, prt, different]

private theorem storePacket_packetCount {packet : ParsedPacketView} (prtPos : 1 ≤ packet.prt)
    (ctx : CpiContext) (bytes : ByteView) (slot index : Nat) :
    ((ctx.storePacket packet bytes slot).prtSummary index).recvPacketCount =
      (ctx.prtSummary index).recvPacketCount + if packet.prt = index + 1 then 1 else 0 := by
  by_cases prt : index = packet.prt - 1
  · subst prt
    have here : packet.prt = packet.prt - 1 + 1 := by omega
    simp [CpiContext.storePacket, CpiContext.copyPayload, ← here]
  · have different : packet.prt ≠ index + 1 := by omega
    simp [CpiContext.storePacket, CpiContext.copyPayload, prt, different]

theorem storePacket_observed (ctx : CpiContext) (packet : ParsedPacketView) (bytes : ByteView)
    (slot : Nat) : (ctx.storePacket packet bytes slot).header.observedNPrt =
      max ctx.header.observedNPrt packet.prt := by
  change (if packet.prt > ctx.header.observedNPrt then packet.prt
    else ctx.header.observedNPrt) = _
  split <;> omega

private theorem storePacket_slotByte (ctx : CpiContext) (packet : ParsedPacketView)
    (bytes : ByteView)
    {slot other offset : Nat} (small : packet.payloadLen ≤ kCpiSlotStride)
    (inside : offset < kCpiSlotStride) :
    (ctx.storePacket packet bytes slot).slotByte other offset =
      if other = slot ∧ offset < packet.payloadLen then bytes offset
      else ctx.slotByte other offset := by
  simp only [CpiContext.storePacket, CpiContext.copyPayload, CpiContext.slotByte]
  by_cases same : other = slot
  · subst same
    by_cases short : offset < packet.payloadLen
    · rw [if_pos ⟨by omega, by omega⟩, if_pos ⟨rfl, short⟩]
      congr 1
      omega
    · rw [if_neg (by omega), if_neg (by omega)]
  · have apart : ¬ (slot * kCpiSlotStride ≤ other * kCpiSlotStride + offset ∧
        other * kCpiSlotStride + offset < slot * kCpiSlotStride + packet.payloadLen) := by
      simp only [kCpiSlotStride] at *
      omega
    rw [if_neg apart, if_neg (by omega)]

private theorem first_nonzero_concat (values : List Nat) (value : Nat) :
    ((values ++ [value]).find? fun other => other != 0).getD 0 =
      if (values.find? fun other => other != 0).getD 0 = 0 then value
      else (values.find? fun other => other != 0).getD 0 := by
  rw [List.find?_append]
  cases first : values.find? fun other => other != 0 with
  | none => by_cases zero : value = 0 <;> simp [zero]
  | some other =>
      have nonzero : other ≠ 0 := by simpa using List.find?_some first
      simp [nonzero]

private theorem storePacket_anchor (ctx : CpiContext) (packet : ParsedPacketView) (bytes : ByteView)
    (slot : Nat) :
    (ctx.storePacket packet bytes slot).header.firstRxTsc =
      if ctx.header.firstRxTsc = 0 then packet.rxTsc else ctx.header.firstRxTsc := by
  by_cases anchored : ctx.header.firstRxTsc = 0
  · by_cases zero : packet.rxTsc = 0 <;>
      simp [CpiContext.storePacket, CpiContext.copyPayload, anchored, zero]
  · simp [CpiContext.storePacket, CpiContext.copyPayload, anchored]

theorem Recorded.store {spec : ProtocolSpec} {packets : List ParsedPacketView} {ctx : CpiContext}
    (recorded : Recorded spec packets ctx) (formed : spec.WellFormed) {packet : ParsedPacketView}
    {bytes : ByteView} (payload : packet.payloadPtr = some bytes)
    (within : packet.coord.Within spec kCpiPrtMax) (pos : 0 < packet.payloadLen)
    (small : packet.payloadLen ≤ kCpiSlotStride)
    (absent : packet.coord ∉ packets.map ParsedPacketView.coord) :
    Recorded spec (packets ++ [packet]) (ctx.storePacket packet bytes (packet.coord.slot spec)) := by
  have prtPos : 1 ≤ packet.prt := within.prt_pos
  have elsewhere : ∀ old ∈ packets, old.coord.slot spec ≠ packet.coord.slot spec := by
    intro old member same
    have coords := SlotCoord.slot_inj formed (recorded.within old member) within same
    exact absent (coords ▸ List.mem_map_of_mem member)
  have sized : ∀ other ∈ packets ++ [packet], other.payloadLen ≤ kCpiSlotStride :=
    List.forall_mem_append.mpr ⟨recorded.sized, List.forall_mem_singleton.mpr small⟩
  have len : u16 packet.payloadLen = packet.payloadLen :=
    u16_of_lt (Nat.lt_of_le_of_lt small (by decide))
  exact
    { distinct := by
        rw [List.map_append, List.map_singleton]
        exact recorded.distinct.append (by simp) (by simpa [List.disjoint_singleton] using absent)
      within := List.forall_mem_append.mpr
        ⟨recorded.within, List.forall_mem_singleton.mpr within⟩
      sized := sized
      filled := List.forall_mem_append.mpr ⟨recorded.filled,
        List.forall_mem_singleton.mpr ⟨Option.isSome_of_eq_some payload, pos⟩⟩
      bitmap := fun index channel bit => by
        rw [storePacket_bitmap recorded formed within, recorded.bitmap]
        simp only [List.map_append, List.map_singleton, List.mem_append, List.mem_singleton,
          Bool.decide_or, eq_comm]
      channelCount := fun index channel => by
        rw [storePacket_channelCount prtPos, recorded.channelCount, channelPackets, channelPackets,
          List.countP_append, List.countP_singleton]
        simp
      packetCount := fun index => by
        rw [storePacket_packetCount prtPos, recorded.packetCount, prtPackets, prtPackets,
          List.countP_append, List.countP_singleton]
        simp
      received := by
        simp [CpiContext.storePacket, CpiContext.copyPayload, recorded.received]
      observed := by
        rw [List.map_append, List.map_singleton, List.foldl_append, ← recorded.observed,
          storePacket_observed]
        rfl
      anchor := by
        rw [storePacket_anchor, List.map_append, List.map_singleton, first_nonzero_concat,
          recorded.anchor]
      validBytes := by
        refine List.forall_mem_append.mpr ⟨fun old member => ?_, List.forall_mem_singleton.mpr ?_⟩
        · simp only [CpiContext.storePacket, CpiContext.copyPayload]
          rw [Function.update_of_ne (elsewhere old member)]
          exact recorded.validBytes old member
        · simp only [CpiContext.storePacket, CpiContext.copyPayload, Function.update_self, len]
      stored := by
        intro other member otherBytes is offset short
        have inside : offset < kCpiSlotStride := Nat.lt_of_lt_of_le short (sized other member)
        rw [storePacket_slotByte ctx packet bytes small inside]
        rcases List.mem_append.mp member with old | new
        · rw [if_neg fun same => elsewhere other old same.1]
          exact recorded.stored other old otherBytes is offset short
        · obtain rfl := List.mem_singleton.mp new
          obtain rfl := Option.some.inj (payload.symm.trans is)
          rw [if_pos ⟨rfl, short⟩]
      unused := by
        intro slot none
        simp only [CpiContext.storePacket, CpiContext.copyPayload]
        rw [Function.update_of_ne (none packet (by simp)).symm]
        exact recorded.unused slot fun other old => none other (by simp [old])
      clear := by
        intro slot offset inside beyond
        rw [storePacket_slotByte ctx packet bytes small inside, if_neg ?_]
        · exact recorded.clear slot offset inside fun other old => beyond other (by simp [old])
        · rintro ⟨rfl, short⟩
          exact absurd (beyond packet (by simp) rfl) (Nat.not_le_of_lt short) }

/-! ## Progress -/

/-- The coordinates of the packets of a channel. -/
def channelCoords (packets : List ParsedPacketView) (index channel : Nat) : List SlotCoord :=
  (packets.filter fun packet => packet.prt == index + 1 && packet.channel == channel).map
    ParsedPacketView.coord

/-- The coordinates that a channel can have. -/
def channelSlots (spec : ProtocolSpec) (index channel : Nat) : List SlotCoord :=
  (List.range spec.packetsPerChannel).map fun bit => ⟨index + 1, channel, bit + 1⟩

private theorem length_channelCoords (packets : List ParsedPacketView) (index channel : Nat) :
    (channelCoords packets index channel).length = channelPackets packets index channel := by
  rw [channelCoords, List.length_map, channelPackets, List.countP_eq_length_filter]

private theorem length_channelSlots (spec : ProtocolSpec) (index channel : Nat) :
    (channelSlots spec index channel).length = spec.packetsPerChannel := by
  rw [channelSlots, List.length_map, List.length_range]

theorem Recorded.channelCoords_subperm {spec : ProtocolSpec} {packets : List ParsedPacketView}
    {ctx : CpiContext} (recorded : Recorded spec packets ctx) (index channel : Nat) :
    (channelCoords packets index channel).Subperm (channelSlots spec index channel) := by
  have distinct : (channelCoords packets index channel).Nodup :=
    recorded.distinct.sublist (List.filter_sublist.map _)
  refine List.subperm_of_subset distinct fun coord member => ?_
  obtain ⟨packet, inKept, rfl⟩ := List.mem_map.mp member
  obtain ⟨inPackets, here⟩ := List.mem_filter.mp inKept
  simp only [Bool.and_eq_true, beq_iff_eq] at here
  have pos : 1 ≤ packet.packetIndex := (recorded.within packet inPackets).packetIndex_pos
  have le : packet.packetIndex ≤ _ := (recorded.within packet inPackets).packetIndex_le
  refine List.mem_map.mpr ⟨packet.packetIndex - 1, List.mem_range.mpr (by omega), ?_⟩
  simp [ParsedPacketView.coord, here, Nat.sub_add_cancel pos]

theorem Recorded.channelPackets_le {spec : ProtocolSpec} {packets : List ParsedPacketView}
    {ctx : CpiContext} (recorded : Recorded spec packets ctx) (index channel : Nat) :
    channelPackets packets index channel ≤ spec.packetsPerChannel := by
  have bounded := (recorded.channelCoords_subperm index channel).length_le
  rwa [length_channelCoords, length_channelSlots] at bounded

/-- A channel with as many packets as it can have has each of them. -/
theorem Recorded.channel_whole {spec : ProtocolSpec} {packets : List ParsedPacketView}
    {ctx : CpiContext} (recorded : Recorded spec packets ctx) {index channel packetIndex : Nat}
    (full : channelPackets packets index channel = spec.packetsPerChannel)
    (pos : 1 ≤ packetIndex) (le : packetIndex ≤ spec.packetsPerChannel) :
    ∃ packet ∈ packets, packet.coord = ⟨index + 1, channel, packetIndex⟩ := by
  have enough : (channelSlots spec index channel).length ≤
      (channelCoords packets index channel).length := by
    rw [length_channelCoords, length_channelSlots, full]
  have same := (recorded.channelCoords_subperm index channel).perm_of_length_le enough
  have slot : (⟨index + 1, channel, packetIndex⟩ : SlotCoord) ∈ channelSlots spec index channel :=
    List.mem_map.mpr ⟨packetIndex - 1, List.mem_range.mpr (by omega), by
      rw [Nat.sub_add_cancel pos]⟩
  obtain ⟨packet, kept, is⟩ := List.mem_map.mp (same.mem_iff.mpr slot)
  exact ⟨packet, (List.mem_filter.mp kept).1, is⟩

/-- Nothing of what `SlotWriter` wrote differs. -/
structure SameRecord (ctx next : CpiContext) : Prop where
  bitmap : ∀ index, (next.prtSummary index).chPktBitmap = (ctx.prtSummary index).chPktBitmap
  channelCount : ∀ index, (next.prtSummary index).chRecvCount = (ctx.prtSummary index).chRecvCount
  packetCount : ∀ index,
    (next.prtSummary index).recvPacketCount = (ctx.prtSummary index).recvPacketCount
  received : next.header.receivedSlotCount = ctx.header.receivedSlotCount
  observed : next.header.observedNPrt = ctx.header.observedNPrt
  anchor : next.header.firstRxTsc = ctx.header.firstRxTsc
  validBytes : next.slotValidBytes = ctx.slotValidBytes
  payload : next.payload = ctx.payload

theorem SameRecord.trans {first second third : CpiContext} (left : SameRecord first second)
    (right : SameRecord second third) : SameRecord first third where
  bitmap index := (right.bitmap index).trans (left.bitmap index)
  channelCount index := (right.channelCount index).trans (left.channelCount index)
  packetCount index := (right.packetCount index).trans (left.packetCount index)
  received := right.received.trans left.received
  observed := right.observed.trans left.observed
  anchor := right.anchor.trans left.anchor
  validBytes := right.validBytes.trans left.validBytes
  payload := right.payload.trans left.payload

theorem SameRecord.of_header {ctx next : CpiContext} (summary : next.prtSummary = ctx.prtSummary)
    (validBytes : next.slotValidBytes = ctx.slotValidBytes) (payload : next.payload = ctx.payload)
    (received : next.header.receivedSlotCount = ctx.header.receivedSlotCount)
    (observed : next.header.observedNPrt = ctx.header.observedNPrt)
    (anchor : next.header.firstRxTsc = ctx.header.firstRxTsc) : SameRecord ctx next where
  bitmap index := by rw [summary]
  channelCount index := by rw [summary]
  packetCount index := by rw [summary]
  received := received
  observed := observed
  anchor := anchor
  validBytes := validBytes
  payload := payload

theorem SameRecord.recorded {spec : ProtocolSpec} {packets : List ParsedPacketView}
    {ctx next : CpiContext} (same : SameRecord ctx next) (recorded : Recorded spec packets ctx) :
    Recorded spec packets next where
  distinct := recorded.distinct
  within := recorded.within
  sized := recorded.sized
  filled := recorded.filled
  bitmap index channel bit := by rw [same.bitmap, recorded.bitmap]
  channelCount index channel := by rw [same.channelCount, recorded.channelCount]
  packetCount index := by rw [same.packetCount, recorded.packetCount]
  received := same.received.trans recorded.received
  observed := same.observed.trans recorded.observed
  anchor := same.anchor.trans recorded.anchor
  validBytes := by
    rw [same.validBytes]
    exact recorded.validBytes
  stored := by
    simp only [CpiContext.slotByte, same.payload]
    exact recorded.stored
  unused := by
    rw [same.validBytes]
    exact recorded.unused
  clear := by
    simp only [CpiContext.slotByte, same.payload]
    exact recorded.clear

private theorem setSummary_sameRecord (ctx : CpiContext) {prt : Nat} {summary : PrtSummary}
    (bitmap : summary.chPktBitmap = (ctx.prtSummary (prt - 1)).chPktBitmap)
    (channelCount : summary.chRecvCount = (ctx.prtSummary (prt - 1)).chRecvCount)
    (packetCount : summary.recvPacketCount = (ctx.prtSummary (prt - 1)).recvPacketCount) :
    SameRecord ctx (ctx.setSummary prt summary) := by
  refine ⟨fun index => ?_, fun index => ?_, fun index => ?_, rfl, rfl, rfl, rfl, rfl⟩ <;>
    by_cases same : index = prt - 1 <;>
      simp [CpiContext.setSummary, same, bitmap, channelCount, packetCount]

private theorem flagged_sameRecord (ctx : CpiContext) (prt flag : Nat) :
    SameRecord ctx (ctx.setSummary prt { ctx.prtSummary (prt - 1) with
      flags := (ctx.prtSummary (prt - 1)).flags ||| flag }) :=
  setSummary_sameRecord ctx rfl rfl rfl

namespace ProgressTracker

private theorem markChannelReady_sameRecord (ctx : CpiContext) (prt channel pktPerCh : Nat) :
    SameRecord ctx (markChannelReady ctx prt channel pktPerCh) := by
  simp only [markChannelReady]
  split
  · exact setSummary_sameRecord ctx rfl rfl rfl
  · exact .of_header rfl rfl rfl rfl rfl rfl

private theorem markPrtComplete_sameRecord (ctx : CpiContext) (prt chCount : Nat) :
    SameRecord ctx (markPrtComplete ctx prt chCount) := by
  simp only [markPrtComplete]
  split
  · have same := flagged_sameRecord ctx prt prtFlagComplete
    exact ⟨same.bitmap, same.channelCount, same.packetCount, rfl, rfl, rfl, rfl, rfl⟩
  · exact .of_header rfl rfl rfl rfl rfl rfl

private theorem observeTail_sameRecord (ctx : CpiContext) (prt : Nat) :
    SameRecord ctx (observeTail ctx prt) := by
  simp only [observeTail]
  by_cases first : Bits.hasAny (ctx.prtSummary (prt - 1)).flags prtFlagSeenTail = false
  · rw [if_pos first]
    have same := flagged_sameRecord ctx prt prtFlagSeenTail
    exact ⟨same.bitmap, same.channelCount, same.packetCount, rfl, rfl, rfl, rfl, rfl⟩
  · rw [if_neg first]
    exact .of_header rfl rfl rfl rfl rfl rfl

private theorem markFullReady_sameRecord (ctx : CpiContext) :
    SameRecord ctx (markFullReady ctx) := by
  simp only [markFullReady]
  split <;> exact .of_header rfl rfl rfl rfl rfl rfl

theorem advancePrt_sameRecord (ctx : CpiContext) (prt channel chCount pktPerCh : Nat)
    (sawTail : Bool) : SameRecord ctx (advancePrt ctx prt channel chCount pktPerCh sawTail) := by
  have marked := (markChannelReady_sameRecord ctx prt channel pktPerCh).trans
    (markPrtComplete_sameRecord _ prt chCount)
  cases sawTail with
  | false => exact marked
  | true => exact marked.trans (observeTail_sameRecord _ prt)

theorem advance_sameRecord (spec : ProtocolSpec) (ctx : CpiContext) (prt channel : Nat)
    (sawTail : Bool) : SameRecord ctx (advance spec ctx prt channel sawTail) := by
  simp only [advance]
  split
  · exact .of_header rfl rfl rfl rfl rfl rfl
  · exact (advancePrt_sameRecord ..).trans (markFullReady_sameRecord _)

private theorem markChannelReady_summary (ctx : CpiContext) (prt channel pktPerCh index : Nat) :
    (markChannelReady ctx prt channel pktPerCh).prtSummary index =
      if index = prt - 1 ∧ (ctx.prtSummary index).chRecvCount channel = pktPerCh then
        { ctx.prtSummary index with
          readyChannelCount := (ctx.prtSummary index).readyChannelCount + 1 }
      else ctx.prtSummary index := by
  simp only [markChannelReady]
  by_cases here : index = prt - 1
  · subst here
    split <;> simp [CpiContext.setSummary, *]
  · split <;> simp [CpiContext.setSummary, here]

private theorem markPrtComplete_summary (ctx : CpiContext) (prt chCount index : Nat) :
    (markPrtComplete ctx prt chCount).prtSummary index =
      if index = prt - 1 ∧ (ctx.prtSummary index).readyChannelCount = chCount ∧
          Bits.hasAny (ctx.prtSummary index).flags prtFlagComplete = false then
        { ctx.prtSummary index with flags := (ctx.prtSummary index).flags ||| prtFlagComplete }
      else ctx.prtSummary index := by
  simp only [markPrtComplete]
  by_cases here : index = prt - 1
  · subst here
    split <;> simp_all [CpiContext.setSummary]
  · split <;> simp [CpiContext.setSummary, here]

private theorem observeTail_summary (ctx : CpiContext) (prt index : Nat) :
    (observeTail ctx prt).prtSummary index =
      if index = prt - 1 ∧ Bits.hasAny (ctx.prtSummary index).flags prtFlagSeenTail = false then
        { ctx.prtSummary index with flags := (ctx.prtSummary index).flags ||| prtFlagSeenTail }
      else ctx.prtSummary index := by
  simp only [observeTail]
  by_cases first : Bits.hasAny (ctx.prtSummary (prt - 1)).flags prtFlagSeenTail = false
  · rw [if_pos first]
    by_cases here : index = prt - 1 <;> simp [CpiContext.setSummary, here, first]
  · rw [if_neg first]
    by_cases here : index = prt - 1 <;> simp [here, first]

/-! ### What the steps do to one PRT -/

@[simp] theorem markChannelReady_flags (ctx : CpiContext) (prt channel pktPerCh index : Nat) :
    ((markChannelReady ctx prt channel pktPerCh).prtSummary index).flags =
      (ctx.prtSummary index).flags := by
  rw [markChannelReady_summary]
  split <;> rfl

@[simp] theorem markChannelReady_header (ctx : CpiContext) (prt channel pktPerCh : Nat) :
    (markChannelReady ctx prt channel pktPerCh).header = ctx.header := by
  simp only [markChannelReady]
  split <;> rfl

@[simp] theorem markPrtComplete_readyChannelCount (ctx : CpiContext) (prt chCount index : Nat) :
    ((markPrtComplete ctx prt chCount).prtSummary index).readyChannelCount =
      (ctx.prtSummary index).readyChannelCount := by
  rw [markPrtComplete_summary]
  split <;> rfl

private theorem markPrtComplete_complete (ctx : CpiContext) (prt chCount index : Nat) :
    Bits.hasAny ((markPrtComplete ctx prt chCount).prtSummary index).flags prtFlagComplete =
      (Bits.hasAny (ctx.prtSummary index).flags prtFlagComplete ||
        decide (index = prt - 1 ∧ (ctx.prtSummary index).readyChannelCount = chCount)) := by
  rw [markPrtComplete_summary]
  split
  · rename_i completes
    obtain ⟨rfl, ready, -⟩ := completes
    have bit : Bits.hasAny prtFlagComplete prtFlagComplete = true := by decide
    simp [Bits.hasAny_or, ready, bit]
  · rename_i other
    cases old : Bits.hasAny (ctx.prtSummary index).flags prtFlagComplete with
    | true => rfl
    | false =>
        rw [Bool.false_or, eq_comm, decide_eq_false_iff_not]
        exact fun completes => other ⟨completes.1, completes.2, old⟩

@[simp] theorem markPrtComplete_seenTail (ctx : CpiContext) (prt chCount index : Nat) :
    Bits.hasAny ((markPrtComplete ctx prt chCount).prtSummary index).flags prtFlagSeenTail =
      Bits.hasAny (ctx.prtSummary index).flags prtFlagSeenTail := by
  have bit : Bits.hasAny prtFlagComplete prtFlagSeenTail = false := by decide
  rw [markPrtComplete_summary]
  split <;> simp [Bits.hasAny_or, bit]

private theorem markPrtComplete_readyPrtCount (ctx : CpiContext) (prt chCount : Nat) :
    (markPrtComplete ctx prt chCount).header.readyPrtCount = ctx.header.readyPrtCount +
      if (ctx.prtSummary (prt - 1)).readyChannelCount = chCount ∧
        Bits.hasAny (ctx.prtSummary (prt - 1)).flags prtFlagComplete = false then 1 else 0 := by
  simp only [markPrtComplete]
  split <;> rfl

@[simp] theorem observeTail_readyChannelCount (ctx : CpiContext) (prt index : Nat) :
    ((observeTail ctx prt).prtSummary index).readyChannelCount =
      (ctx.prtSummary index).readyChannelCount := by
  rw [observeTail_summary]
  split <;> rfl

@[simp] theorem observeTail_complete (ctx : CpiContext) (prt index : Nat) :
    Bits.hasAny ((observeTail ctx prt).prtSummary index).flags prtFlagComplete =
      Bits.hasAny (ctx.prtSummary index).flags prtFlagComplete := by
  have bit : Bits.hasAny prtFlagSeenTail prtFlagComplete = false := by decide
  rw [observeTail_summary]
  split <;> simp [Bits.hasAny_or, bit]

private theorem observeTail_seenTail (ctx : CpiContext) (prt index : Nat) :
    Bits.hasAny ((observeTail ctx prt).prtSummary index).flags prtFlagSeenTail =
      (Bits.hasAny (ctx.prtSummary index).flags prtFlagSeenTail || decide (index = prt - 1)) := by
  have bit : Bits.hasAny prtFlagSeenTail prtFlagSeenTail = true := by decide
  rw [observeTail_summary]
  split
  · rename_i first
    simp [Bits.hasAny_or, bit, first]
  · rename_i other
    cases old : Bits.hasAny (ctx.prtSummary index).flags prtFlagSeenTail with
    | true => rfl
    | false =>
        rw [Bool.false_or, eq_comm, decide_eq_false_iff_not]
        exact fun here => other ⟨here, old⟩

@[simp] theorem observeTail_readyPrtCount (ctx : CpiContext) (prt : Nat) :
    (observeTail ctx prt).header.readyPrtCount = ctx.header.readyPrtCount := by
  simp only [observeTail]
  by_cases first : Bits.hasAny (ctx.prtSummary (prt - 1)).flags prtFlagSeenTail = false
  · rw [if_pos first]
    rfl
  · rw [if_neg first]

@[simp] theorem markFullReady_prtSummary (ctx : CpiContext) :
    (markFullReady ctx).prtSummary = ctx.prtSummary := by
  simp only [markFullReady]
  split <;> rfl

@[simp] theorem markFullReady_readyPrtCount (ctx : CpiContext) :
    (markFullReady ctx).header.readyPrtCount = ctx.header.readyPrtCount := by
  simp only [markFullReady]
  split <;> rfl

/-! ### All three steps -/

section AdvancePrt

variable (ctx : CpiContext) (prt channel chCount pktPerCh : Nat) (sawTail : Bool)

private theorem advancePrt_readyChannelCount (index : Nat) :
    ((advancePrt ctx prt channel chCount pktPerCh sawTail).prtSummary index).readyChannelCount =
      ((markChannelReady ctx prt channel pktPerCh).prtSummary index).readyChannelCount := by
  simp only [advancePrt]
  cases sawTail <;> simp

private theorem advancePrt_complete (index : Nat) :
    Bits.hasAny ((advancePrt ctx prt channel chCount pktPerCh sawTail).prtSummary index).flags
        prtFlagComplete =
      (Bits.hasAny (ctx.prtSummary index).flags prtFlagComplete ||
        decide (index = prt - 1 ∧
          ((markChannelReady ctx prt channel pktPerCh).prtSummary index).readyChannelCount =
            chCount)) := by
  have marked := markPrtComplete_complete (markChannelReady ctx prt channel pktPerCh) prt chCount
    index
  rw [markChannelReady_flags] at marked
  simp only [advancePrt]
  cases sawTail <;> simpa using marked

private theorem advancePrt_seenTail (index : Nat) :
    Bits.hasAny ((advancePrt ctx prt channel chCount pktPerCh sawTail).prtSummary index).flags
        prtFlagSeenTail =
      (Bits.hasAny (ctx.prtSummary index).flags prtFlagSeenTail ||
        decide (index = prt - 1 ∧ sawTail = true)) := by
  simp only [advancePrt]
  cases sawTail <;> simp [observeTail_seenTail]

private theorem advancePrt_readyPrtCount :
    (advancePrt ctx prt channel chCount pktPerCh sawTail).header.readyPrtCount =
      ctx.header.readyPrtCount +
        if ((markChannelReady ctx prt channel pktPerCh).prtSummary (prt - 1)).readyChannelCount =
            chCount ∧
          Bits.hasAny (ctx.prtSummary (prt - 1)).flags prtFlagComplete = false then 1 else 0 := by
  have counted := markPrtComplete_readyPrtCount (markChannelReady ctx prt channel pktPerCh) prt
    chCount
  rw [markChannelReady_flags, markChannelReady_header] at counted
  simp only [advancePrt]
  cases sawTail <;> simpa using counted

end AdvancePrt

theorem advance_eq {spec : ProtocolSpec} (formed : spec.WellFormed) (ctx : CpiContext)
    {packet : ParsedPacketView} (within : packet.coord.Within spec kCpiPrtMax) (sawTail : Bool) :
    advance spec ctx packet.prt packet.channel sawTail =
      markFullReady (advancePrt ctx packet.prt packet.channel spec.channelsPerPrt
        spec.packetsPerChannel sawTail) := by
  have prtPos : 1 ≤ packet.prt := within.prt_pos
  have prtLe : packet.prt ≤ kCpiPrtMax := within.prt_le
  have channelLt : packet.channel < spec.channelsPerPrt := within.channel_lt
  have channels := formed.channels_le
  simp only [advance, formed.u16_channels, formed.u16_packets]
  rw [if_neg]
  simp only [kCpiMaxChannelCount]
  omega

end ProgressTracker

/-- A packet that is new to its channel finds the channel, and so its PRT, not
yet complete. -/
theorem Recorded.channel_short {spec : ProtocolSpec} {packets : List ParsedPacketView}
    {packet : ParsedPacketView} {ctx next : CpiContext}
    (recorded : Recorded spec packets ctx) (after : Recorded spec (packets ++ [packet]) next) :
    (ctx.prtSummary (packet.prt - 1)).chRecvCount packet.channel < spec.packetsPerChannel := by
  have prtPos : 1 ≤ packet.prt := (after.within packet (by simp)).prt_pos
  have bounded := after.channelPackets_le (packet.prt - 1) packet.channel
  rw [channelPackets, List.countP_append, List.countP_singleton, if_pos (by simp; omega)] at bounded
  rw [recorded.channelCount, channelPackets]
  omega

theorem Progressed.incomplete {spec : ProtocolSpec} {packets : List ParsedPacketView}
    {ctx : CpiContext} (progressed : Progressed spec packets ctx) {index channel : Nat}
    (channelLt : channel < spec.channelsPerPrt)
    (short : (ctx.prtSummary index).chRecvCount channel < spec.packetsPerChannel) :
    Bits.hasAny (ctx.prtSummary index).flags prtFlagComplete = false := by
  rw [progressed.complete, beq_eq_false_iff_ne, progressed.readyChannels]
  intro all
  have full := List.countP_eq_length.mp (all.trans List.length_range.symm)
  have := full channel (List.mem_range.mpr channelLt)
  simp only [beq_iff_eq] at this
  omega

/-- `markChannelReady` counts the channel that the packet has just filled. -/
theorem readyChannels_step {spec : ProtocolSpec} {packets : List ParsedPacketView}
    {packet : ParsedPacketView} {ctx : CpiContext} (bytes : ByteView) (slot : Nat)
    (progressed : Progressed spec packets ctx) (within : packet.coord.Within spec kCpiPrtMax)
    (short : (ctx.prtSummary (packet.prt - 1)).chRecvCount packet.channel < spec.packetsPerChannel)
    (index : Nat) :
    let stored := ctx.storePacket packet bytes slot
    ((ProgressTracker.markChannelReady stored packet.prt packet.channel
      spec.packetsPerChannel).prtSummary index).readyChannelCount =
        (List.range spec.channelsPerPrt).countP fun channel =>
          (stored.prtSummary index).chRecvCount channel == spec.packetsPerChannel := by
  intro stored
  have prtPos : 1 ≤ packet.prt := within.prt_pos
  have channelLt : packet.channel < spec.channelsPerPrt := within.channel_lt
  have before : (stored.prtSummary index).readyChannelCount =
      (ctx.prtSummary index).readyChannelCount := by
    by_cases here : index = packet.prt - 1 <;>
      simp [stored, CpiContext.storePacket, CpiContext.copyPayload, here]
  rw [ProgressTracker.markChannelReady_summary]
  by_cases here : index = packet.prt - 1
  · subst here
    have elsewhere (channel : Nat) (other : channel ≠ packet.channel) :
        (stored.prtSummary (packet.prt - 1)).chRecvCount channel =
          (ctx.prtSummary (packet.prt - 1)).chRecvCount channel := by
      rw [storePacket_channelCount prtPos, if_neg fun same => other same.2.symm, Nat.add_zero]
    have change := Counting.countP_change
      (fun channel => (ctx.prtSummary (packet.prt - 1)).chRecvCount channel ==
        spec.packetsPerChannel)
      (fun channel => (stored.prtSummary (packet.prt - 1)).chRecvCount channel ==
        spec.packetsPerChannel)
      List.nodup_range (List.mem_range.mpr channelLt)
      (show ((ctx.prtSummary (packet.prt - 1)).chRecvCount packet.channel ==
        spec.packetsPerChannel) = false by simp; omega)
      (fun channel _ other => by rw [elsewhere channel other])
    rw [change, ← progressed.readyChannels]
    simp only [true_and, beq_iff_eq]
    split
    · exact congrArg (· + 1) before
    · exact before
  · have other : packet.prt ≠ index + 1 := by omega
    rw [if_neg fun same => here same.1, before, progressed.readyChannels]
    refine List.countP_congr fun channel _ => ?_
    rw [storePacket_channelCount prtPos, if_neg fun same => other same.1, Nat.add_zero]

private theorem storePacket_flags (ctx : CpiContext) (packet : ParsedPacketView) (bytes : ByteView)
    (slot index : Nat) : ((ctx.storePacket packet bytes slot).prtSummary index).flags =
      (ctx.prtSummary index).flags := by
  by_cases here : index = packet.prt - 1 <;>
    simp [CpiContext.storePacket, CpiContext.copyPayload, here]

theorem Progressed.store {spec : ProtocolSpec} {packets : List ParsedPacketView}
    {packet : ParsedPacketView} {ctx : CpiContext} (bytes : ByteView) (slot : Nat)
    (progressed : Progressed spec packets ctx) (formed : spec.WellFormed)
    (within : packet.coord.Within spec kCpiPrtMax)
    (short : (ctx.prtSummary (packet.prt - 1)).chRecvCount packet.channel <
      spec.packetsPerChannel) :
    Progressed spec (packets ++ [packet])
      (ProgressTracker.advance spec (ctx.storePacket packet bytes slot) packet.prt packet.channel
        (packet.tail == spec.magicTail)) := by
  have prtPos : 1 ≤ packet.prt := within.prt_pos
  have prtLe : packet.prt ≤ kCpiPrtMax := within.prt_le
  have incomplete := progressed.incomplete within.channel_lt short
  have same := ProgressTracker.advance_sameRecord spec (ctx.storePacket packet bytes slot)
    packet.prt packet.channel (packet.tail == spec.magicTail)
  have nowReady := readyChannels_step bytes slot progressed within short
  have completed (index : Nat) := ProgressTracker.advancePrt_complete
    (ctx.storePacket packet bytes slot) packet.prt packet.channel spec.channelsPerPrt
    spec.packetsPerChannel (packet.tail == spec.magicTail) index
  simp only [storePacket_flags] at completed
  rw [ProgressTracker.advance_eq formed _ within] at same ⊢
  constructor
  · intro index
    have counts := same.channelCount index
    rw [ProgressTracker.markFullReady_prtSummary] at counts ⊢
    rw [ProgressTracker.advancePrt_readyChannelCount, nowReady, counts]
  · intro index
    rw [ProgressTracker.markFullReady_prtSummary, completed,
      ProgressTracker.advancePrt_readyChannelCount]
    by_cases here : index = packet.prt - 1
    · subst here
      rw [incomplete, Bool.false_or, Bool.eq_iff_iff]
      simp
    · rw [progressed.complete, ProgressTracker.markChannelReady_summary,
        if_neg fun both => here both.1]
      simp [here, CpiContext.storePacket, CpiContext.copyPayload]
  · intro index
    rw [ProgressTracker.markFullReady_prtSummary, ProgressTracker.advancePrt_seenTail,
      storePacket_flags, progressed.seenTail, List.any_append, List.any_cons, List.any_nil,
      Bool.or_false]
    congr 1
    rw [Bool.eq_iff_iff]
    simp only [decide_eq_true_eq, Bool.and_eq_true, beq_iff_eq]
    omega
  · have inside : packet.prt - 1 < kCpiPrtMax := by omega
    have change := Counting.countP_change
      (fun index => Bits.hasAny (ctx.prtSummary index).flags prtFlagComplete)
      (fun index => Bits.hasAny ((ProgressTracker.advancePrt (ctx.storePacket packet bytes slot)
        packet.prt packet.channel spec.channelsPerPrt spec.packetsPerChannel
        (packet.tail == spec.magicTail)).prtSummary index).flags prtFlagComplete)
      List.nodup_range (List.mem_range.mpr inside) incomplete
      (fun index _ other => by rw [completed]; simp [other])
    rw [ProgressTracker.markFullReady_readyPrtCount, ProgressTracker.markFullReady_prtSummary,
      ProgressTracker.advancePrt_readyPrtCount, change, storePacket_flags, ← progressed.readyPrt,
      completed, incomplete]
    simp only [and_true, Bool.false_or, true_and, decide_eq_true_eq]
    rfl

/-- A first write and its progress extend the reception by the packet. -/
theorem Reception.store {spec : ProtocolSpec} {packets : List ParsedPacketView}
    {packet : ParsedPacketView} {ctx : CpiContext} {bytes : ByteView}
    (reception : Reception spec packets ctx) (formed : spec.WellFormed)
    (accepts : SlotWriter.Accepts spec ctx.header.expectedNPrt packet)
    (payload : packet.payloadPtr = some bytes) (absent : ctx.bitmapHas packet = false) :
    Reception spec (packets ++ [packet])
      (ProgressTracker.advance spec
        (ctx.storePacket packet bytes (SlotWriter.index spec packet)) packet.prt packet.channel
        (packet.tail == spec.magicTail)) := by
  have within := (isValidSlotCoord_iff formed).mp accepts.coord
  have new : packet.coord ∉ packets.map ParsedPacketView.coord := by
    intro member
    rw [← reception.recorded.bitmapHas_iff formed within, absent] at member
    cases member
  have recorded := reception.recorded.store formed payload within accepts.len_pos accepts.len_le new
  have short := reception.recorded.channel_short recorded
  exact ⟨(ProgressTracker.advance_sameRecord ..).recorded recorded,
    reception.progressed.store bytes _ formed within short⟩

theorem Reception.reset {spec : ProtocolSpec} (formed : spec.WellFormed) (cpiId : UInt16)
    (poolIndex : Option PoolIndex) (birth : Nat) :
    Reception spec [] (CpiContext.reset cpiId poolIndex birth) :=
  ⟨.reset spec cpiId poolIndex birth, .reset formed cpiId poolIndex birth⟩

theorem Reception.congr {spec : ProtocolSpec} {packets : List ParsedPacketView}
    {ctx next : CpiContext} (reception : Reception spec packets ctx) (same : SameRecord ctx next)
    (summary : next.prtSummary = ctx.prtSummary)
    (readyPrt : next.header.readyPrtCount = ctx.header.readyPrtCount) :
    Reception spec packets next where
  recorded := same.recorded reception.recorded
  progressed :=
    { readyChannels := by
        rw [summary]
        exact reception.progressed.readyChannels
      complete := by
        rw [summary]
        exact reception.progressed.complete
      seenTail := by
        rw [summary]
        exact reception.progressed.seenTail
      readyPrt := by
        rw [summary, readyPrt]
        exact reception.progressed.readyPrt }

end RxTech
