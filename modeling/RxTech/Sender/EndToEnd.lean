import RxTech.Core.OwnerStreams
import RxTech.Ingress.FrameArrival
import RxTech.Sender.SenderStream

/-!
# From the sender to the outputs

A run of the sender whose frames all arrive, in order, at a receiver that is configured for
them: one output for each CPI, which carries the samples that were sent.
-/

set_option autoImplicit false

namespace RxTech

open LittleEndian (encode field)

/-! ## What a payload asks of the coordinator -/

/-- Only the frame of a well-formed datagram matters. -/
theorem UdpDatagramPipeline.op?_congr (pipeline : UdpDatagramPipeline)
    {first second : UdpDatagramDesc} (formed : isMalformedDescriptor first = false)
    (formed' : isMalformedDescriptor second = false) (frame : first.udpFrame = second.udpFrame) :
    pipeline.op? first = pipeline.op? second := by
  simp only [op?, processDatagram, formed, formed', frame]
  split_ifs <;> rfl

/-- A packet that the validator passes has been parsed as data, if it is no control table. -/
theorem UdpDatagramPipeline.Passed.dataView {pipeline : UdpDatagramPipeline}
    {processed : ProcessedPacket} (passed : pipeline.Passed processed)
    (constants : pipeline.spec.FromConfig) (kind : processed.parsed.kind = .dataPacket) :
    DataView processed.udpFrame processed.parsed := by
  have outcome := PacketParser.parse_outcome constants processed.udpFrame
  rw [← passed.parsed] at outcome
  cases outcome with
  | short invalid | unknown invalid =>
      have valid := (validate_dataChecks kind passed.validated).valid
      cases invalid.symm.trans valid
  | control long magic view => cases kind.symm.trans view.kind
  | data long magic view => exact view

/-- The data packet at these coordinates, with the samples behind its header. -/
structure ParsedPacketView.IsSent (spec : ProtocolSpec) (cpi : UInt16) (coord : SlotCoord)
    (payload : List UInt8) (parsed : ParsedPacketView) : Prop where
  cpi : parsed.cpi = cpi
  placed : parsed.coord = coord
  tail : parsed.tail = senderTail spec coord.packetIndex
  payloadLen : parsed.payloadLen = payload.length - 16
  samples : parsed.payloadPtr = some fun offset => payload.getD (16 + offset) 0

/-! ## Where the wave of a sender ends -/

/-- How many slots of a CPI the wave reaches: all PRTs but the last, and the first channel
of that. -/
def waveSlots (spec : ProtocolSpec) (nPrt : Nat) : Nat :=
  (nPrt - 1) * (spec.channelsPerPrt * spec.packetsPerChannel) + spec.packetsPerChannel

section Wave

variable {spec : ProtocolSpec}

private theorem untilWaveEnd_split {first : List ParsedPacketView} {ender : ParsedPacketView}
    (rest : List ParsedPacketView)
    (calm : ∀ packet ∈ first, packet.endsWave spec spec.expectedNPrt = false)
    (ends : ender.endsWave spec spec.expectedNPrt = true) :
    untilWaveEnd spec (first ++ ender :: rest) = first ++ [ender] := by
  induction first with
  | nil => rw [List.nil_append, untilWaveEnd, if_pos ends, List.nil_append]
  | cons packet first ih =>
      obtain ⟨here, later⟩ := List.forall_mem_cons.mp calm
      rw [List.cons_append, untilWaveEnd, if_neg (ne_true_of_eq_false here), ih later,
        List.cons_append]

private theorem slotCoords_succ (spec : ProtocolSpec) (prts : Nat) : slotCoords spec (prts + 1) =
    slotCoords spec prts ++ (List.range spec.channelsPerPrt).flatMap fun channel =>
      (List.range spec.packetsPerChannel).map fun packetIndex =>
        ⟨prts + 1, channel, packetIndex + 1⟩ := by
  simp [slotCoords, List.range_succ]

/-- The last packet of the first channel in the last PRT, and the slots before it. -/
theorem slotCoords_waveEnd (formed : spec.WellFormed) {nPrt : Nat} (pos : 1 ≤ nPrt) :
    ∃ first rest, slotCoords spec nPrt = first ++ ⟨nPrt, 0, spec.packetsPerChannel⟩ :: rest ∧
      first.length + 1 = waveSlots spec nPrt ∧
      ∀ coord ∈ first, coord.prt < nPrt ∨ coord.packetIndex < spec.packetsPerChannel := by
  obtain ⟨prts, rfl⟩ := Nat.exists_eq_succ_of_ne_zero (Nat.ne_of_gt pos)
  obtain ⟨channels, channelCount⟩ :=
    Nat.exists_eq_succ_of_ne_zero (Nat.ne_of_gt formed.channels_pos)
  obtain ⟨packets, packetCount⟩ :=
    Nat.exists_eq_succ_of_ne_zero (Nat.ne_of_gt formed.packets_pos)
  have early := length_slotCoords spec prts
  have order := slotCoords_succ spec prts
  rw [channelCount, packetCount, Nat.succ_eq_add_one, Nat.succ_eq_add_one,
    @List.range_succ_eq_map channels, List.flatMap_cons, @List.range_succ packets,
    List.map_append, List.map_singleton] at order
  generalize List.flatMap _ (List.map Nat.succ (List.range channels)) = rest at order
  let begun := (List.range packets).map fun packetIndex => SlotCoord.mk (prts + 1) 0 (packetIndex + 1)
  refine ⟨slotCoords spec prts ++ begun, rest, ?_, ?_, ?_⟩
  · rw [order, packetCount, List.append_assoc, List.append_assoc]
    rfl
  · rw [List.length_append, early, List.length_map, List.length_range, waveSlots, packetCount,
      Nat.succ_sub_one]
    rfl
  · intro coord member
    rcases List.mem_append.mp member with before | last
    · exact .inl (Nat.lt_succ_of_le (mem_slotCoords.mp before).prt_le)
    · obtain ⟨packetIndex, inside, rfl⟩ := List.mem_map.mp last
      rw [packetCount]
      exact .inr (Nat.succ_lt_succ (List.mem_range.mp inside))

/-- In the sender's order a CPI is taken as far as its wave reaches. -/
theorem untilWaveEnd_sender (fixed : spec.FixedMode) {packets : List ParsedPacketView}
    (canonical : packets.map ParsedPacketView.coord = slotCoords spec spec.expectedNPrt)
    (marked : ∀ packet ∈ packets, packet.tail = senderTail spec packet.packetIndex) :
    untilWaveEnd spec packets = packets.take (waveSlots spec spec.expectedNPrt) := by
  obtain ⟨firsts, rests, order, count, before⟩ :=
    slotCoords_waveEnd fixed.toWellFormed fixed.expected_pos
  rw [order] at canonical
  obtain ⟨first, later, rfl, firstIs, laterIs⟩ := List.map_eq_append_iff.mp canonical
  obtain ⟨ender, rest, rfl, enderIs, -⟩ := List.map_eq_cons_iff.mp laterIs
  obtain ⟨prt, -, index⟩ := SlotCoord.mk.inj enderIs
  have calm : ∀ packet ∈ first, packet.endsWave spec spec.expectedNPrt = false := by
    intro packet member
    have tail := marked packet (List.mem_append_left _ member)
    have place : packet.prt < spec.expectedNPrt ∨ packet.packetIndex < spec.packetsPerChannel :=
      before packet.coord (firstIs ▸ List.mem_map_of_mem member)
    rw [ParsedPacketView.endsWave, tail, senderTail]
    rcases place with early | unmarked
    · rw [decide_eq_false (Nat.not_le.mpr early), Bool.and_false]
    · rw [if_neg (Nat.ne_of_lt unmarked), beq_eq_false_iff_ne.mpr fixed.tail_ne_zero.symm,
        Bool.false_and]
  have ends : ender.endsWave spec spec.expectedNPrt = true := by
    have tail := marked ender (List.mem_append_right _ List.mem_cons_self)
    rw [ParsedPacketView.endsWave, tail, senderTail, if_pos index, beq_self_eq_true,
      Bool.true_and, decide_eq_true_eq, prt]
  have length : (first ++ [ender]).length = waveSlots spec spec.expectedNPrt := by
    rw [← count, ← firstIs, List.length_map, List.length_append, List.length_singleton]
  rw [untilWaveEnd_split rest calm ends, List.append_cons first ender rest, List.take_left' length]

/-- The wave reaches every slot exactly if there is only one channel. -/
theorem waveSlots_whole_iff (fixed : spec.FixedMode) :
    slotTotal spec spec.expectedNPrt ≤ waveSlots spec spec.expectedNPrt ↔
      spec.channelsPerPrt = 1 := by
  have formed := fixed.toWellFormed
  obtain ⟨prts, expected⟩ := Nat.exists_eq_succ_of_ne_zero (Nat.ne_of_gt fixed.expected_pos)
  rw [slotTotal, waveSlots, expected, Nat.succ_sub_one, Nat.succ_mul, Nat.add_le_add_iff_left]
  constructor
  · intro whole
    have most : spec.channelsPerPrt ≤ 1 := by
      apply Nat.le_of_mul_le_mul_right _ formed.packets_pos
      rw [Nat.one_mul]
      exact whole
    exact Nat.le_antisymm most formed.channels_pos
  · intro single
    rw [single, Nat.one_mul]

end Wave

/-! ## What the receiver is asked for -/

/-- A sender and a receiver that keeps all its packets. -/
structure SenderArgs.Suits (args : SenderArgs) (config : RxConfig) : Prop where
  fixed : config.FixedMode
  receives : config.Receives args.udpPacketSize args.channelsPerPrt args.packetsPerChannel
  prts : config.protocolExpectedNPrt = args.prtCount
  channels : 0 < args.channelsPerPrt ∧ args.channelsPerPrt ≤ 4
  packets : 0 < args.packetsPerChannel ∧ args.packetsPerChannel ≤ 9
  size : 2048 ≤ args.udpPacketSize ∧ args.udpPacketSize ≤ 16 + kCpiSlotStride
  last : args.iqPerLastPacket = ProtocolSender.defaultIqPerLastPacket

namespace SenderArgs

variable {args : SenderArgs} {config : RxConfig} {srcIp dstIp : UInt32}

/-- What the receiver's coordinator is asked for by a payload of the sender. -/
def op? (args : SenderArgs) (srcIp dstIp : UInt32) (pipeline : UdpDatagramPipeline)
    (payload : List UInt8) : Option Op :=
  pipeline.op? ((args.udpFrame srcIp dstIp payload).datagram {})

/-- What the parser makes of a data packet. -/
def parsed (args : SenderArgs) (srcIp dstIp : UInt32) (spec : ProtocolSpec) (cpi : Nat)
    (coord : SlotCoord) : ParsedPacketView :=
  PacketParser.parse spec (args.udpFrame srcIp dstIp (args.dataBytes cpi coord))

def dataOp (args : SenderArgs) (srcIp dstIp : UInt32) (spec : ProtocolSpec) (cpi : Nat)
    (coord : SlotCoord) : Op :=
  .data (args.parsed srcIp dstIp spec cpi coord)
    (ProtocolSequenceInterpreter.interpret spec (args.parsed srcIp dstIp spec cpi coord))

/-- A data packet that the coordinator is asked for as it was sent. -/
structure Reaches (args : SenderArgs) (srcIp dstIp : UInt32) (pipeline : UdpDatagramPipeline)
    (cpi : Nat) (coord : SlotCoord) : Prop where
  asked : args.op? srcIp dstIp pipeline (args.dataBytes cpi coord) =
    some (args.dataOp srcIp dstIp pipeline.spec cpi coord)
  valid : ValidData (args.parsed srcIp dstIp pipeline.spec cpi coord)
    (ProtocolSequenceInterpreter.interpret pipeline.spec
      (args.parsed srcIp dstIp pipeline.spec cpi coord))
  fits : (args.parsed srcIp dstIp pipeline.spec cpi coord).Fits pipeline.spec
    pipeline.spec.expectedNPrt
  sent : (args.parsed srcIp dstIp pipeline.spec cpi coord).IsSent pipeline.spec (UInt16.ofNat cpi)
    coord (args.dataBytes cpi coord)

theorem op?_eq_some {pipeline : UdpDatagramPipeline} {payload : List UInt8}
    (short : payload.length ≤ 65507) {op : Op}
    (asked : args.op? srcIp dstIp pipeline payload = some op) : ∃ processed,
    pipeline.Passed processed ∧ processed.udpFrame = args.udpFrame srcIp dstIp payload ∧
      processed.op? = some op := by
  obtain ⟨processed, handed, is⟩ := Option.bind_eq_some_iff.mp asked
  have fits : (args.udpFrame srcIp dstIp payload).udpPayload.length < 2 ^ 32 :=
    Nat.lt_of_le_of_lt short (by decide)
  refine ⟨processed, UdpDatagramPipeline.processDatagram_passed handed, ?_, is⟩
  rw [UdpDatagramPipeline.processDatagram_frame handed, UdpPayloadFrame.datagram_udpFrame fits]

/-- A control table is never a data packet. -/
theorem op?_controlBytes {cpi : Nat} (room : 6 ≤ args.udpPacketSize)
    (short : args.udpPacketSize ≤ 65507) (allowedSourceIpv4Be receiverIpv4Be : Nat) :
    ∀ op ∈ args.op? srcIp dstIp (.ofConfig config allowedSourceIpv4Be receiverIpv4Be)
      (args.controlBytes cpi), op.isControl = true := by
  intro op asked
  have constants := protocolSpecFromConfig_fromConfig config
  have length : (args.controlBytes cpi).length ≤ 65507 := by
    rw [controlBytes_length room]
    exact short
  obtain ⟨processed, passed, frame, is⟩ := op?_eq_some length asked
  have decodes := passed.decodes constants
  rw [frame] at decodes
  have magic : field (args.controlBytes cpi) 0 4 = (protocolSpecFromConfig config).magicControl := by
    rw [controlBytes, List.append_assoc]
    exact LittleEndian.field_encode constants.controlFits _
  have kind := decodes.kind.trans (decodes.control magic).1
  rw [ProcessedPacket.op?, kind] at is
  cases is
  rfl

theorem reaches (suits : args.Suits config) {cpi : Nat} (early : cpi < 2 ^ 16)
    {coord : SlotCoord} (sent : coord ∈ args.coords) (allowedSourceIpv4Be receiverIpv4Be : Nat) :
    args.Reaches srcIp dstIp (.ofConfig config allowedSourceIpv4Be receiverIpv4Be) cpi coord := by
  let spec := protocolSpecFromConfig config
  let pipeline := UdpDatagramPipeline.ofConfig config allowedSourceIpv4Be receiverIpv4Be
  have constants := protocolSpecFromConfig_fromConfig config
  have formed := protocolSpecFromConfig_wellFormed config
  obtain ⟨channelsAre, packetsAre⟩ := suits.receives.counts suits.channels suits.packets
  have expected := suits.fixed.expected_le
  have prts := suits.prts
  obtain ⟨⟨prtPos, prtLe⟩, channelLt, indexPos, indexLe⟩ := mem_coords.mp sent
  have request : ProtocolSender.Request args.channelsPerPrt args.packetsPerChannel cpi
      coord.channel coord.prt coord.packetIndex :=
    ⟨suits.channels.2, suits.packets.2, early, by omega, channelLt, indexPos, indexLe⟩
  have sendable : Sendable spec coord.channel coord.prt coord.packetIndex (args.tail coord)
      (args.samples cpi coord) := by
    rw [samples, suits.last]
    exact request.sendable suits.receives suits.size.1
  have bytes : args.dataBytes cpi coord = RxTech.dataPayload spec (UInt16.ofNat cpi) coord.channel
      coord.prt coord.packetIndex (args.tail coord) (args.samples cpi coord) :=
    ProtocolSender.dataHeader_append config early ..
  have wire := sendable.wirePayload constants formed (UInt16.ofNat cpi)
  have decoded := @Sendable.decoded _ _ _ _ _ _ sendable constants formed (UInt16.ofNat cpi)
  rw [← bytes] at wire decoded
  let frame := args.udpFrame srcIp dstIp (args.dataBytes cpi coord)
  have length : (args.dataBytes cpi coord).length = args.udpPacketSize := by
    apply dataBytes_length
    rw [suits.last]
    exact Nat.le_trans (by decide) suits.size.1
  have fits : frame.udpPayload.length < 2 ^ 32 := by
    have size := suits.size.2
    change (args.dataBytes cpi coord).length < 2 ^ 32
    rw [length]
    exact Nat.lt_of_le_of_lt size (by decide)
  have same := frame.datagram_udpFrame fits {}
  have handed := @UdpDatagramPipeline.processDatagram_handed_iff pipeline _ {}
    (frame.datagram_formed {}) (suits.receives.matches _ _ _)
  rw [UdpDatagramPipeline.not_refuses_iff constants formed
    (frame.datagram {}).udpPayload_length_lt, same] at handed
  obtain ⟨processed, delivered⟩ := Option.isSome_iff_exists.mp (handed.mpr wire)
  have passed := UdpDatagramPipeline.processDatagram_passed delivered
  have framed : processed.udpFrame = frame :=
    (UdpDatagramPipeline.processDatagram_frame delivered).trans same
  have decodes := passed.decodes constants
  rw [framed] at decodes
  obtain ⟨kind, cpiIs, channelIs, prtIs, indexIs, tailIs⟩ := decoded decodes
  have view := passed.dataView constants kind
  rw [framed] at view
  have checks := validate_dataChecks kind passed.validated
  have placed : processed.parsed.coord = coord := by
    rw [ParsedPacketView.coord, prtIs, channelIs, indexIs]
  have payloadLen : processed.parsed.payloadLen = (args.dataBytes cpi coord).length - 16 :=
    view.payloadLen.trans (Nat.mod_eq_of_lt (Nat.lt_of_le_of_lt (Nat.sub_le ..) fits))
  have parsedIs : args.parsed srcIp dstIp spec cpi coord = processed.parsed := by
    rw [passed.parsed, framed]
    rfl
  have interpretedIs : ProtocolSequenceInterpreter.interpret spec processed.parsed =
      processed.interpreted := passed.interpreted.symm
  constructor
  · change args.op? srcIp dstIp pipeline (args.dataBytes cpi coord) =
      some (args.dataOp srcIp dstIp spec cpi coord)
    rw [dataOp, parsedIs, interpretedIs, op?, UdpDatagramPipeline.op?, delivered, Option.bind_some,
      ProcessedPacket.op?, decodes.kind, kind]
  · change ValidData (args.parsed srcIp dstIp spec cpi coord) (ProtocolSequenceInterpreter.interpret
      spec (args.parsed srcIp dstIp spec cpi coord))
    rw [parsedIs, interpretedIs]
    exact ⟨view.valid, kind, decodes.interpretedCpi, decodes.interpretedPrt,
      decodes.interpretedChannel⟩
  · change (args.parsed srcIp dstIp spec cpi coord).Fits spec spec.expectedNPrt
    rw [parsedIs]
    refine ⟨view.valid, kind, ?_, checks.payload, ?_, ?_⟩
    · rw [placed]
      exact ⟨prtPos, Nat.le_trans prtLe (Nat.le_of_eq prts.symm), channelsAre ▸ channelLt, indexPos,
        packetsAre ▸ indexLe⟩
    · rw [payloadLen, length]
      have size := suits.size.1
      omega
    · rw [payloadLen, length]
      have size := suits.size.2
      omega
  · change (args.parsed srcIp dstIp spec cpi coord).IsSent spec (UInt16.ofNat cpi) coord
      (args.dataBytes cpi coord)
    rw [parsedIs]
    refine ⟨cpiIs, placed, ?_, payloadLen, view.payload⟩
    rw [tailIs, tail, senderTail, packetsAre]
    rfl

/-! ## The data packets of a CPI -/

def block (args : SenderArgs) (srcIp dstIp : UInt32) (spec : ProtocolSpec) (cpi : Nat) : List Op :=
  args.coords.map (args.dataOp srcIp dstIp spec cpi)

private theorem packetsOf_block (spec : ProtocolSpec) (cpi : Nat) :
    packetsOf (args.block srcIp dstIp spec cpi) =
      args.coords.map (args.parsed srcIp dstIp spec cpi) := by
  rw [packetsOf, block, List.filterMap_map]
  exact congrFun List.filterMap_eq_map _

theorem Suits.coords (suits : args.Suits config) :
    args.coords = slotCoords (protocolSpecFromConfig config) config.protocolExpectedNPrt := by
  obtain ⟨channelsAre, packetsAre⟩ := suits.receives.counts suits.channels suits.packets
  rw [suits.prts, coords_eq channelsAre packetsAre]

private theorem block_stream (suits : args.Suits config) {cpi : Nat} (early : cpi < 2 ^ 16) :
    CpiStream (protocolSpecFromConfig config) (UInt16.ofNat cpi)
      (args.block srcIp dstIp (protocolSpecFromConfig config) cpi) where
  belongs op member := by
    obtain ⟨coord, sent, rfl⟩ := List.mem_map.mp member
    have reached := @reaches args config srcIp dstIp suits cpi early coord sent 0 0
    exact .packet reached.valid reached.sent.cpi reached.fits
  coords := by
    have placed : ((packetsOf (args.block srcIp dstIp (protocolSpecFromConfig config) cpi)).map
        ParsedPacketView.coord) = args.coords := by
      rw [packetsOf_block, List.map_map]
      refine (List.map_congr_left fun coord sent => ?_).trans (List.map_id _)
      exact (@reaches args config srcIp dstIp suits cpi early coord sent 0 0).sent.placed
    rw [placed, suits.coords]
    exact .refl _

/-- Without the control tables a run of the sender is one CPI after the other. -/
theorem payloads_ops (suits : args.Suits config) (encodable : args.Encodable srcIp dstIp)
    (allowedSourceIpv4Be receiverIpv4Be : Nat) :
    ((args.cpis.flatMap args.cpiPayloads).filterMap (args.op? srcIp dstIp
      (.ofConfig config allowedSourceIpv4Be receiverIpv4Be))).filter (fun op => !op.isControl) =
        (args.cpis.map (args.block srcIp dstIp (protocolSpecFromConfig config))).flatten := by
  rw [List.filterMap_flatMap, List.filter_flatMap, List.flatMap_def]
  refine congrArg List.flatten (List.map_congr_left fun cpi member => ?_)
  rw [cpiPayloads, List.filterMap_append, List.filter_append]
  have tables : ((args.controlPayloads cpi).filterMap (args.op? srcIp dstIp
      (.ofConfig config allowedSourceIpv4Be receiverIpv4Be))).filter
        (fun op => !op.isControl) = [] := by
    refine List.filter_eq_nil_iff.mpr fun op asked => ?_
    obtain ⟨payload, sent, is⟩ := List.mem_filterMap.mp asked
    rw [mem_controlPayloads sent] at is
    have size := suits.size.1
    rw [op?_controlBytes (Nat.le_trans (by decide) size) encodable.short allowedSourceIpv4Be
      receiverIpv4Be op is]
    decide
  have packets : (args.coords.map (args.dataBytes cpi)).filterMap (args.op? srcIp dstIp
      (.ofConfig config allowedSourceIpv4Be receiverIpv4Be)) =
        args.block srcIp dstIp (protocolSpecFromConfig config) cpi := by
    rw [List.filterMap_map, block, ← List.filterMap_eq_map]
    refine List.filterMap_congr fun coord sent => ?_
    exact (reaches suits (encodable.early member) sent allowedSourceIpv4Be receiverIpv4Be).asked
  rw [tables, packets, List.nil_append, List.filter_eq_self]
  intro op inside
  obtain ⟨coord, -, rfl⟩ := List.mem_map.mp inside
  rfl

private theorem blocks_stream (suits : args.Suits config) (encodable : args.Encodable srcIp dstIp) :
    Stream (protocolSpecFromConfig config) (UInt16.ofNat args.cpiStart)
      (args.cpis.map (args.block srcIp dstIp (protocolSpecFromConfig config))) := by
  intro index ops found
  rw [List.getElem?_map, Option.map_eq_some_iff] at found
  obtain ⟨cpi, at_index, rfl⟩ := found
  obtain ⟨inside, is⟩ := List.getElem?_eq_some_iff.mp at_index
  simp only [cpis, List.getElem_range', Nat.one_mul] at is
  have early := encodable.early (List.mem_of_getElem? at_index)
  rw [← UInt16.ofNat_add, is]
  exact block_stream suits early

/-! ## The outputs -/

/-- How many slots of a CPI the wave of the sender reaches. -/
def takenSlots (args : SenderArgs) : Nat :=
  (args.prtCount - 1) * (args.channelsPerPrt * args.packetsPerChannel) + args.packetsPerChannel

/-- An output with the samples of a CPI, as far as its wave reaches. -/
structure Delivered (args : SenderArgs) (spec : ProtocolSpec) (cpi : Nat)
    (contents : CpiContents) : Prop where
  cpiId : contents.cpiId = UInt16.ofNat cpi
  complete : contents.decision = .completeOk ↔ args.channelsPerPrt = 1
  received : contents.receivedSlotCount = args.takenSlots
  missing : contents.missingSlotCount = args.coords.length - args.takenSlots
  samples : ∀ coord ∈ args.coords.take args.takenSlots, ∀ offset < args.udpPacketSize - 16,
    contents.slotByte (coord.slot spec) offset = (args.dataBytes cpi coord).getD (16 + offset) 0

private theorem isSent (suits : args.Suits config) {cpi : Nat} (early : cpi < 2 ^ 16)
    {coord : SlotCoord} (sent : coord ∈ args.coords) :
    (args.parsed srcIp dstIp (protocolSpecFromConfig config) cpi coord).IsSent
      (protocolSpecFromConfig config) (UInt16.ofNat cpi) coord (args.dataBytes cpi coord) :=
  (@reaches args config srcIp dstIp suits cpi early coord sent 0 0).sent

theorem Suits.waveSlots (suits : args.Suits config) :
    waveSlots (protocolSpecFromConfig config) config.protocolExpectedNPrt = args.takenSlots := by
  obtain ⟨channelsAre, packetsAre⟩ := suits.receives.counts suits.channels suits.packets
  rw [RxTech.waveSlots, takenSlots, suits.prts, channelsAre, packetsAre]

/-- What a receiver takes of a CPI of the sender. -/
theorem untilWaveEnd_block (suits : args.Suits config) {cpi : Nat} (early : cpi < 2 ^ 16) :
    untilWaveEnd (protocolSpecFromConfig config)
        (packetsOf (args.block srcIp dstIp (protocolSpecFromConfig config) cpi)) =
      (args.coords.take args.takenSlots).map
        (args.parsed srcIp dstIp (protocolSpecFromConfig config) cpi) := by
  have fixed := suits.fixed.protocol
  have count := suits.waveSlots
  have order := suits.coords
  have expected : config.protocolExpectedNPrt = (protocolSpecFromConfig config).expectedNPrt := rfl
  have sent {coord : SlotCoord} (member : coord ∈ args.coords) :=
    @isSent args config srcIp dstIp suits cpi early coord member
  rw [expected] at count order
  generalize protocolSpecFromConfig config = spec at fixed count order sent ⊢
  have placed {coord : SlotCoord} (member : coord ∈ args.coords) :
      (args.parsed srcIp dstIp spec cpi coord).coord = coord := (sent member).placed
  rw [packetsOf_block, untilWaveEnd_sender fixed, count, List.map_take]
  · rw [List.map_map, ← order]
    exact (List.map_congr_left fun coord member => placed member).trans (List.map_id _)
  · intro packet inside
    obtain ⟨coord, member, rfl⟩ := List.mem_map.mp inside
    have index : (args.parsed srcIp dstIp spec cpi coord).packetIndex = coord.packetIndex :=
      congrArg SlotCoord.packetIndex (placed member)
    rw [index]
    exact (sent member).tail

private theorem takenSlots_le (suits : args.Suits config) :
    args.takenSlots ≤ args.coords.length := by
  have fixed := suits.fixed.protocol
  obtain ⟨first, rest, order, count, -⟩ :=
    slotCoords_waveEnd fixed.toWellFormed fixed.expected_pos
  have expected : (protocolSpecFromConfig config).expectedNPrt = config.protocolExpectedNPrt := rfl
  rw [expected] at order count
  rw [← suits.waveSlots, ← count, suits.coords, order, List.length_append, List.length_cons]
  exact Nat.add_le_add_left (Nat.le_add_left ..) _

theorem delivered (suits : args.Suits config) {cpi : Nat} (early : cpi < 2 ^ 16)
    {production : Production}
    (outcome : CpiOutcome (protocolSpecFromConfig config) (UInt16.ofNat cpi)
      (packetsOf (args.block srcIp dstIp (protocolSpecFromConfig config) cpi)) production) :
    args.Delivered (protocolSpecFromConfig config) cpi production.contents := by
  obtain ⟨channelsAre, -⟩ := suits.receives.counts suits.channels suits.packets
  have taken := @untilWaveEnd_block args config srcIp dstIp suits cpi early
  have total : slotTotal (protocolSpecFromConfig config) config.protocolExpectedNPrt =
      args.coords.length := by
    rw [suits.coords, length_slotCoords]
    rfl
  have whole := waveSlots_whole_iff suits.fixed.protocol
  have expected : (protocolSpecFromConfig config).expectedNPrt = config.protocolExpectedNPrt := rfl
  obtain ⟨reports, complete⟩ := outcome
  rw [taken] at reports complete
  rw [expected, suits.waveSlots, channelsAre] at whole
  have count : ((args.coords.take args.takenSlots).map
      (args.parsed srcIp dstIp (protocolSpecFromConfig config) cpi)).length = args.takenSlots := by
    rw [List.length_map, List.length_take_of_le (takenSlots_le suits)]
  rw [count, expected] at complete
  constructor
  · exact reports.cpiId
  · exact complete.trans whole
  · exact reports.received.trans count
  · have missing := reports.missing
    rw [count, expected, total] at missing
    exact missing
  · intro coord member offset inside
    have sent := @isSent args config srcIp dstIp suits cpi early coord (List.mem_of_mem_take member)
    have last : ProtocolSender.headerSize + args.iqPerLastPacket * ProtocolSender.iqBytes ≤
        args.udpPacketSize := by
      rw [suits.last]
      exact Nat.le_trans (by decide) suits.size.1
    have short : offset < (args.dataBytes cpi coord).length - 16 := by
      rw [dataBytes_length last]
      exact inside
    rw [← sent.payloadLen] at short
    have stored := reports.reception.recorded.stored _ (List.mem_map_of_mem member) _ sent.samples
      offset short
    rw [sent.placed] at stored
    exact stored

end SenderArgs

/-! ## A run -/

section Run

variable {args : SenderArgs} {config : RxConfig} {srcIp dstIp : UInt32}

/-- What the buffers with the sender's frames ask of the coordinator. -/
theorem arrivals_ops {payloads frames : List (List UInt8)} {mbufs : List RxMbuf}
    (wrapped : List.Forall₂ (ProtocolSender.Wraps args srcIp dstIp) payloads frames)
    (carried : List.Forall₂ RxMbuf.Carries mbufs frames) (localIpBe : Nat)
    (pipeline : UdpDatagramPipeline) :
    (mbufs.filterMap (·.extractUdpDatagram localIpBe)).filterMap pipeline.op? =
      payloads.filterMap (args.op? srcIp dstIp pipeline) := by
  induction wrapped generalizing mbufs with
  | nil =>
      cases carried
      rfl
  | @cons payload frame payloads frames wraps wrapped ih =>
      cases carried with
      | @cons mbuf _ mbufs _ carries carried =>
          obtain ⟨header, rfl, sized, clear, read⟩ := wraps
          obtain ⟨datagram, extracted, formed, framed⟩ := carries.extracts sized clear localIpBe
          have fits : (args.udpFrame srcIp dstIp payload).udpPayload.length < 2 ^ 32 :=
            Nat.lt_of_le_of_lt (Nat.le_add_left ..) sized.fits
          have same : pipeline.op? datagram = args.op? srcIp dstIp pipeline payload := by
            apply pipeline.op?_congr formed (UdpPayloadFrame.datagram_formed _ _)
            rw [framed, read, UdpPayloadFrame.datagram_udpFrame fits]
          have first : (mbuf :: mbufs).filterMap (·.extractUdpDatagram localIpBe) =
              datagram :: mbufs.filterMap (·.extractUdpDatagram localIpBe) :=
            List.filterMap_cons_some extracted
          rw [first, List.filterMap_cons, List.filterMap_cons, same, ih carried]

/-- A stream that is taken as the sender sends it. -/
theorem StreamResult.delivered (suits : args.Suits config)
    (encodable : args.Encodable srcIp dstIp) {s next : System}
    (result : StreamResult (protocolSpecFromConfig config) (UInt16.ofNat args.cpiStart)
      (args.cpis.map (args.block srcIp dstIp (protocolSpecFromConfig config))) s next) :
    List.Forall₂ (args.Delivered (protocolSpecFromConfig config)) args.cpis
      (outputContents next.windowLog) := by
  have length : args.cpis.length = (outputContents next.windowLog).length := by
    rw [outputContents, List.length_map, result.length, List.length_map]
  refine List.forall₂_iff_get.mpr ⟨length, fun index inside kept => ?_⟩
  have member : args.cpis[index] ∈ args.cpis := List.getElem_mem inside
  have cpi : args.cpis[index] = args.cpiStart + index := by
    simp only [SenderArgs.cpis, List.getElem_range', Nat.one_mul]
  have found : (args.cpis.map (args.block srcIp dstIp (protocolSpecFromConfig config)))[index]? =
      some (args.block srcIp dstIp (protocolSpecFromConfig config) args.cpis[index]) := by
    rw [List.getElem?_map, List.getElem?_eq_getElem inside, Option.map_some]
  have made : index < (productions next.windowLog).length := by
    rw [outputContents, List.length_map] at kept
    exact kept
  have outcome := result.outcome index _ _ found (List.getElem?_eq_getElem made)
  rw [← UInt16.ofNat_add, ← cpi] at outcome
  have delivered := SenderArgs.delivered suits (encodable.early member) outcome
  simp only [List.get_eq_getElem, outputContents, List.getElem_map]
  exact delivered

end Run

/-- The sender gets through. If its frames arrive in order at a receiver that keeps them, in
whatever bursts, and no acquire fails, one output is made for each CPI, whether it is pushed or
dropped: it carries the samples that were sent, up to the end of the first channel in the last
PRT, and is complete exactly if there is only one channel. -/
theorem sender_stream_delivered (config : RxConfig) (args : SenderArgs) (srcIp dstIp : UInt32)
    (encodable : args.Encodable srcIp dstIp) (suits : args.Suits config)
    (allowedSourceIpv4Be receiverIpv4Be : Nat) (consumerSchedule clock : List Nat)
    (localIpBe : Nat) (localMac : Vector UInt8 6) (maxBurst : Nat)
    (polls : List (RxPoll (List RxMbuf))) :
    let sender := ProtocolSender.sendProtocolStream args
    let ingress : DpdkIngress := { localIpBe, localMac }
    let loop := (OwnerLoop.mainLoopOn (DpdkIngress.calls maxBurst)
      (.ofConfig config allowedSourceIpv4Be receiverIpv4Be) polls ingress
      (OwnerLoop.start config consumerSchedule clock)).2.shutdown
    sender.2 = none ∧
      (List.Forall₂ RxMbuf.Carries (ingress.bursts maxBurst polls).flatten sender.1.sent →
        loop.system.metrics.poolExhaustionCount = 0 →
        List.Forall₂ (args.Delivered (protocolSpecFromConfig config)) args.cpis
          (outputContents loop.system.windowLog)) := by
  intro sender ingress loop
  obtain ⟨frames, sends, wrapped⟩ := ProtocolSender.sendProtocolStream_sends encodable
  have done : sender = (({} : ProtocolSender.SenderState).after frames, none) := sends
  have sent : sender.1.sent = frames := congrArg (fun sender => sender.1.sent) done
  refine ⟨congrArg Prod.snd done, fun carried unexhausted => ?_⟩
  rw [sent] at carried
  have run : loop = OwnerLoop.run config allowedSourceIpv4Be receiverIpv4Be consumerSchedule clock
      (polls.map (ingress.received maxBurst)) := OwnerLoop.mainLoopOn_run ..
  have started : ingress.started = true := rfl
  have ops : ((datagramsReceived (polls.map (ingress.received maxBurst))).filterMap
      (UdpDatagramPipeline.ofConfig config allowedSourceIpv4Be receiverIpv4Be).op?).filter
        (fun op => !op.isControl) =
      (args.cpis.map (args.block srcIp dstIp (protocolSpecFromConfig config))).flatten := by
    rw [DpdkIngress.datagramsReceived_polls started, arrivals_ops wrapped carried]
    exact SenderArgs.payloads_ops suits encodable allowedSourceIpv4Be receiverIpv4Be
  rw [run] at unexhausted ⊢
  obtain ⟨next, result, contents⟩ := OwnerLoop.run_streams suits.fixed
    (SenderArgs.blocks_stream suits encodable) allowedSourceIpv4Be receiverIpv4Be
    consumerSchedule clock ops unexhausted
  rw [contents]
  exact result.delivered suits encodable

/-- Two CPIs of two packets, each with its control table. -/
def pairArgs : SenderArgs where
  dstMac := .replicate 6 2
  srcMac := .replicate 6 3
  channelsPerPrt := 1
  packetsPerChannel := 2

private theorem pairArgs_encodable : pairArgs.Encodable 0xAC140BDE 0xAC140B64 := by
  constructor <;> decide +kernel

/-- A receiver for pairs that can lend few contexts. -/
def smallRingConfig : RxConfig := { pairConfig with outputRingCapacity := 14 }

private theorem pairArgs_suits : pairArgs.Suits smallRingConfig :=
  ⟨⟨rfl, by decide, by decide⟩, ⟨rfl, rfl, rfl, rfl, rfl, rfl⟩, rfl, by decide, by decide,
    by decide, rfl⟩

theorem sender_stream_delivered_pairs :
    (ProtocolSender.sendProtocolStream pairArgs).2 = none ∧
      List.Forall₂ (pairArgs.Delivered (protocolSpecFromConfig smallRingConfig)) pairArgs.cpis
        (outputContents (OwnerLoop.mainLoopOn (DpdkIngress.calls 32)
          (.ofConfig smallRingConfig 0 0)
          ((ProtocolSender.sendProtocolStream pairArgs).1.sent.map RxPoll.ofFrame)
          { localIpBe := 0, localMac := .replicate 6 2 }
          (OwnerLoop.start smallRingConfig [] [])).2.shutdown.system.windowLog) := by
  have fits : ∀ frame ∈ (ProtocolSender.sendProtocolStream pairArgs).1.sent,
      frame.length < 2 ^ 32 := by
    intro frame sent
    rw [ProtocolSender.sendProtocolStream_lengths pairArgs_encodable frame sent]
    decide
  generalize polled : (ProtocolSender.sendProtocolStream pairArgs).1.sent.map RxPoll.ofFrame = polls
  obtain ⟨done, delivers⟩ := sender_stream_delivered smallRingConfig pairArgs _ _
    pairArgs_encodable pairArgs_suits 0 0 [] [] 0 (.replicate 6 2) 32 polls
  refine ⟨done, delivers ?_ ?_⟩
  · rw [← polled]
    exact DpdkIngress.bursts_ofFrames rfl (by decide) fits
  · have counted (loop : OwnerLoop) : loop.system.metrics.poolExhaustionCount =
        loop.exhaustions := rfl
    rw [OwnerLoop.mainLoopOn_run, counted]
    exact @OwnerLoop.run_unexhausted smallRingConfig (by decide) 0 0 [] [] _

end RxTech
