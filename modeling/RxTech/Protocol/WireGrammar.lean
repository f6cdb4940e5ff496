import RxTech.Library.LittleEndian
import RxTech.Protocol.DatagramProperties

/-!
# The wire grammar

The payloads that a sender may put on the wire, as a grammar over byte strings,
and the pipeline's decisions in terms of it.
-/

set_option autoImplicit false

namespace RxTech

open LittleEndian (field encode)

/-- A data payload. Behind its last I/Q sample the last packet of a channel is
padded with zeros. -/
structure DataPayload (spec : ProtocolSpec) (payload : List UInt8) : Prop where
  magic : field payload 0 4 = spec.magicData
  channel : field payload 6 2 < spec.channelsPerPrt
  packetIndex_pos : 1 ≤ field payload 10 2
  packetIndex_le : field payload 10 2 ≤ spec.packetsPerChannel
  tail : field payload 12 4 = 0 ∨ field payload 12 4 = spec.magicTail
  marked : field payload 12 4 = spec.magicTail → field payload 10 2 = spec.packetsPerChannel
  padding : field payload 10 2 = spec.packetsPerChannel →
    1904 ≤ payload.length - 16 ∧ ∀ byte ∈ payload.drop (16 + 1904), byte = 0

structure WirePayload (spec : ProtocolSpec) (payload : List UInt8) : Prop where
  length : payload.length = 16 + (spec.udpPacketSize - 16)
  kind : field payload 0 4 = spec.magicControl ∨ DataPayload spec payload

/-- What the pipeline reads from a payload. A control payload has no channel, packet
index and tail; the bytes that hold them in a data payload are ignored. -/
structure ProcessedPacket.Decodes (spec : ProtocolSpec) (processed : ProcessedPacket)
    (payload : List UInt8) : Prop where
  kind : processed.interpreted.kind = processed.parsed.kind
  cpi : processed.parsed.cpi.toNat = field payload 4 2
  interpretedCpi : processed.interpreted.cpi = processed.parsed.cpi
  interpretedChannel : processed.interpreted.channel = processed.parsed.channel
  interpretedPrt : processed.interpreted.prt = processed.parsed.prt
  interpretedIndex : processed.interpreted.packetIndex = processed.parsed.packetIndex
  data : field payload 0 4 = spec.magicData →
    processed.parsed.kind = .dataPacket ∧ processed.parsed.channel = field payload 6 2 ∧
      processed.parsed.prt = field payload 8 2 ∧
      processed.parsed.packetIndex = field payload 10 2 ∧
      processed.parsed.tail = field payload 12 4
  control : field payload 0 4 = spec.magicControl →
    processed.parsed.kind = .controlTable ∧ processed.parsed.channel = 0 ∧
      processed.parsed.packetIndex = 0 ∧ processed.parsed.tail = 0

/-! ## Reading fields -/

private theorem readU16Le_data (frame : UdpPayloadFrame) {offset : Nat}
    (inside : offset + 2 ≤ frame.udpPayload.length) :
    readU16Le frame.data offset = field frame.udpPayload offset 2 := by
  rw [LittleEndian.field_succ (by omega), LittleEndian.field_succ (by omega),
    LittleEndian.field_zero]
  simp only [readU16Le, UdpPayloadFrame.data]
  omega

private theorem readU32Le_data (frame : UdpPayloadFrame) {offset : Nat}
    (inside : offset + 4 ≤ frame.udpPayload.length) :
    readU32Le frame.data offset = field frame.udpPayload offset 4 := by
  rw [LittleEndian.field_succ (by omega), LittleEndian.field_succ (by omega),
    LittleEndian.field_succ (by omega), LittleEndian.field_succ (by omega),
    LittleEndian.field_zero]
  simp only [readU32Le, UdpPayloadFrame.data, Nat.add_assoc, Nat.reduceAdd]
  omega

variable {spec : ProtocolSpec} {frame : UdpPayloadFrame}

/-- The constants of a specification made from a configuration. -/
structure ProtocolSpec.FromConfig (spec : ProtocolSpec) : Prop where
  magics : spec.magicData ≠ spec.magicControl
  controlFits : spec.magicControl < 256 ^ 4
  dataFits : spec.magicData < 256 ^ 4
  tailFits : spec.magicTail < 256 ^ 4
  headerSize : spec.packetHeaderSize = 16
  dataSize : spec.packetDataSize = spec.udpPacketSize - 16
  controlSize : spec.controlTableSize = spec.udpPacketSize
  lastPacket : spec.iqPerLastPacket * bytesPerIq = 1904

theorem protocolSpecFromConfig_fromConfig (config : RxConfig) :
    (protocolSpecFromConfig config).FromConfig := by
  constructor <;> simp only [protocolSpecFromConfig]
  · decide
  · decide
  · decide
  · decide
  · split <;> omega
  · decide

/-- The parsed view of a control payload. -/
structure ControlView (frame : UdpPayloadFrame) (parsed : ParsedPacketView) : Prop where
  valid : parsed.valid = true
  kind : parsed.kind = .controlTable
  cpi : parsed.cpi.toNat = field frame.udpPayload 4 2
  channel : parsed.channel = 0
  prt : parsed.prt = 0
  packetIndex : parsed.packetIndex = 0
  tail : parsed.tail = 0
  payload : parsed.payloadPtr.isSome = true
  payloadLen : parsed.payloadLen = u32 (frame.udpPayload.length - 16)

/-- The parsed view of a data payload. -/
structure DataView (frame : UdpPayloadFrame) (parsed : ParsedPacketView) : Prop where
  valid : parsed.valid = true
  kind : parsed.kind = .dataPacket
  cpi : parsed.cpi.toNat = field frame.udpPayload 4 2
  channel : parsed.channel = field frame.udpPayload 6 2
  prt : parsed.prt = field frame.udpPayload 8 2
  packetIndex : parsed.packetIndex = field frame.udpPayload 10 2
  tail : parsed.tail = field frame.udpPayload 12 4
  payload : parsed.payloadPtr = some fun offset => frame.data (16 + offset)
  payloadLen : parsed.payloadLen = u32 (frame.udpPayload.length - 16)

/-- What the parser makes of a frame, by its length and magic. -/
inductive ParseOutcome (spec : ProtocolSpec) (frame : UdpPayloadFrame) (parsed : ParsedPacketView) :
    Prop where
  | short (invalid : parsed.valid = false) (short : frame.udpPayload.length < 16)
  | unknown (invalid : parsed.valid = false)
      (noControl : field frame.udpPayload 0 4 ≠ spec.magicControl)
      (noData : field frame.udpPayload 0 4 ≠ spec.magicData)
  | control (long : 16 ≤ frame.udpPayload.length)
      (magic : field frame.udpPayload 0 4 = spec.magicControl) (view : ControlView frame parsed)
  | data (long : 16 ≤ frame.udpPayload.length)
      (magic : field frame.udpPayload 0 4 = spec.magicData) (view : DataView frame parsed)

theorem PacketParser.parse_outcome (constants : spec.FromConfig) (frame : UdpPayloadFrame) :
    ParseOutcome spec frame (PacketParser.parse spec frame) := by
  simp only [PacketParser.parse, constants.headerSize]
  split
  · rename_i short
    exact .short rfl short
  rename_i long
  have long : 16 ≤ frame.udpPayload.length := Nat.le_of_not_lt long
  have cpi : (UInt16.ofNat (readU16Le frame.data 4)).toNat = field frame.udpPayload 4 2 := by
    rw [readU16Le_data frame (by omega)]
    exact UInt16.toNat_ofNat_of_lt' (LittleEndian.field_lt frame.udpPayload 4 2)
  split
  · rename_i magic
    rw [readU32Le_data frame (by omega)] at magic
    exact .control long magic ⟨rfl, rfl, cpi, rfl, rfl, rfl, rfl, rfl, rfl⟩
  rename_i noControl
  rw [readU32Le_data frame (by omega)] at noControl
  split
  · rename_i magic
    rw [readU32Le_data frame (by omega)] at magic
    exact .data long magic ⟨rfl, rfl, cpi, readU16Le_data frame (by omega),
      readU16Le_data frame (by omega), readU16Le_data frame (by omega),
      readU32Le_data frame (by omega), rfl, rfl⟩
  · rename_i noData
    rw [readU32Le_data frame (by omega)] at noData
    exact .unknown rfl noControl noData

/-! ## Acceptance -/

private theorem paddingIsZero_iff {bytes : ByteView} {used len : Nat} :
    paddingIsZero bytes used len = true ↔
      ∀ offset, used ≤ offset → offset < len → bytes offset = 0 := by
  simp only [paddingIsZero, List.all_eq_true, List.mem_range, decide_eq_true_eq]
  constructor
  · intro zeros offset behind inside
    have zero := zeros (offset - used) (by omega)
    rwa [Nat.add_sub_cancel' behind] at zero
  · intro zeros index inside
    exact zeros (used + index) (by omega) (by omega)

theorem UdpPayloadFrame.data_eq (frame : UdpPayloadFrame) {offset : Nat}
    (inside : offset < frame.udpPayload.length) : frame.data offset = frame.udpPayload[offset] := by
  rw [data, List.getD_eq_getElem?_getD, List.getElem?_eq_getElem inside, Option.getD_some]

private theorem padding_iff (frame : UdpPayloadFrame) :
    paddingIsZero (fun offset => frame.data (16 + offset)) 1904 (frame.udpPayload.length - 16) =
        true ↔
      ∀ byte ∈ frame.udpPayload.drop (16 + 1904), byte = 0 := by
  rw [paddingIsZero_iff]
  constructor
  · intro zeros byte member
    obtain ⟨index, inside, rfl⟩ := List.mem_iff_getElem.mp member
    rw [List.length_drop] at inside
    have zero := zeros (1904 + index) (by omega) (by omega)
    rw [frame.data_eq (by omega)] at zero
    simpa only [List.getElem_drop, Nat.add_assoc] using zero
  · intro zeros offset behind inside
    have bound : offset - 1904 < (frame.udpPayload.drop (16 + 1904)).length := by
      rw [List.length_drop]
      omega
    have here : 16 + 1904 + (offset - 1904) = 16 + offset := by omega
    have zero := zeros _ (List.getElem_mem bound)
    rw [frame.data_eq (by omega)]
    simpa only [List.getElem_drop, here] using zero

theorem UdpDatagramPipeline.Refuses.of_invalid {pipeline : UdpDatagramPipeline}
    (invalid : (PacketParser.parse pipeline.spec frame).valid = false) :
    pipeline.Refuses frame :=
  .inl (by simp only [PacketValidator.validate, invalid, if_true])

theorem ControlView.accepted_iff {parsed : ParsedPacketView} (constants : spec.FromConfig)
    (fits : frame.udpPayload.length < 2 ^ 32) (long : 16 ≤ frame.udpPayload.length)
    (view : ControlView frame parsed) :
    (PacketValidator.validate spec parsed).ok = true ↔
      frame.udpPayload.length = 16 + (spec.udpPacketSize - 16) := by
  have bodyLen : u32 (frame.udpPayload.length - 16) = frame.udpPayload.length - 16 :=
    Nat.mod_eq_of_lt (by omega)
  rw [validate_control view.valid view.kind view.payload, view.payloadLen, bodyLen]
  simp only [controlTablePayloadLen, constants.controlSize, constants.headerSize]
  split <;> omega

theorem DataView.checks_iff {parsed : ParsedPacketView} (constants : spec.FromConfig)
    (formed : spec.WellFormed) (fits : frame.udpPayload.length < 2 ^ 32)
    (long : 16 ≤ frame.udpPayload.length)
    (magic : field frame.udpPayload 0 4 = spec.magicData) (view : DataView frame parsed) :
    DataChecks spec parsed ∧ (parsed.packetIndex = spec.packetsPerChannel →
      1904 ≤ parsed.payloadLen ∧
        paddingIsZero (fun offset => frame.data (16 + offset)) 1904 parsed.payloadLen = true) ↔
      frame.udpPayload.length = 16 + (spec.udpPacketSize - 16) ∧
        DataPayload spec frame.udpPayload := by
  have bodyLen : u32 (frame.udpPayload.length - 16) = frame.udpPayload.length - 16 :=
    Nat.mod_eq_of_lt (by omega)
  have payloadLen : parsed.payloadLen = frame.udpPayload.length - 16 := view.payloadLen.trans bodyLen
  rw [payloadLen, padding_iff]
  constructor
  · rintro ⟨checks, padded⟩
    have sized := checks.payloadLen
    rw [payloadLen, constants.dataSize] at sized
    have marked : parsed.tail = spec.magicTail → parsed.packetIndex = spec.packetsPerChannel := by
      intro marked
      rcases checks.tail with unmarked | ⟨-, last⟩
      · exact absurd (marked.symm.trans unmarked) formed.tail_ne_zero
      · exact last
    have tail := checks.tail.imp_right And.left
    have channel := checks.channel
    have positive := checks.packetIndex_pos
    have bounded := checks.packetIndex_le
    rw [view.packetIndex] at positive bounded padded marked
    rw [view.tail] at tail marked
    rw [view.channel] at channel
    exact ⟨by omega, magic, channel, positive, bounded, tail, marked, padded⟩
  · rintro ⟨sized, grammar⟩
    have tail := grammar.tail.imp_right fun marked => And.intro marked (grammar.marked marked)
    have channel := grammar.channel
    have positive := grammar.packetIndex_pos
    have bounded := grammar.packetIndex_le
    have padded := grammar.padding
    rw [← view.packetIndex] at positive bounded padded tail
    rw [← view.tail] at tail
    rw [← view.channel] at channel
    have payload : parsed.payloadPtr.isSome = true := by
      rw [view.payload]
      rfl
    have dataSize : parsed.payloadLen = spec.packetDataSize := by
      rw [payloadLen, constants.dataSize]
      omega
    exact ⟨⟨view.valid, channel, positive, bounded, payload, dataSize, tail⟩, padded⟩

theorem DataView.accepted_iff {parsed : ParsedPacketView} (constants : spec.FromConfig)
    (formed : spec.WellFormed) (fits : frame.udpPayload.length < 2 ^ 32)
    (long : 16 ≤ frame.udpPayload.length) (magic : field frame.udpPayload 0 4 = spec.magicData)
    (view : DataView frame parsed) :
    (PacketValidator.validate spec parsed).ok = true ∧
        (ProtocolSequenceInterpreter.interpret spec parsed).valid = true ↔
      frame.udpPayload.length = 16 + (spec.udpPacketSize - 16) ∧
        DataPayload spec frame.udpPayload := by
  rw [← view.checks_iff constants formed fits long magic, ← constants.lastPacket]
  constructor
  · rintro ⟨validated, accepted⟩
    have checks := validate_dataChecks view.kind validated
    exact ⟨checks, (interpret_data checks view.kind view.payload).mp accepted⟩
  · rintro ⟨checks, padded⟩
    exact ⟨checks.validated formed view.kind,
      (interpret_data checks view.kind view.payload).mpr padded⟩

/-- The pipeline refuses a frame unless the grammar has its payload. -/
theorem UdpDatagramPipeline.not_refuses_iff {pipeline : UdpDatagramPipeline}
    (constants : pipeline.spec.FromConfig) (formed : pipeline.spec.WellFormed)
    (fits : frame.udpPayload.length < 2 ^ 32) :
    ¬ pipeline.Refuses frame ↔ WirePayload pipeline.spec frame.udpPayload := by
  have outcome := PacketParser.parse_outcome constants frame
  have ofInvalid : (PacketParser.parse pipeline.spec frame).valid = false →
      pipeline.Refuses frame := .of_invalid
  simp only [Refuses] at ofInvalid ⊢
  generalize PacketParser.parse pipeline.spec frame = parsed at outcome ofInvalid ⊢
  cases outcome with
  | short invalid short =>
      refine iff_of_false (not_not.mpr (ofInvalid invalid)) fun grammar => ?_
      have length := grammar.length
      omega
  | unknown invalid noControl noData =>
      refine iff_of_false (not_not.mpr (ofInvalid invalid)) fun grammar => ?_
      exact grammar.kind.elim noControl fun data => noData data.magic
  | control long magic view =>
      rw [not_or, Bool.not_eq_false, Bool.not_eq_false, view.accepted_iff constants fits long,
        interpret_control view.valid view.kind]
      exact ⟨fun accepted => ⟨accepted.1, .inl magic⟩, fun grammar => ⟨grammar.length, rfl⟩⟩
  | data long magic view =>
      have noControl : ¬ field frame.udpPayload 0 4 = pipeline.spec.magicControl :=
        fun other => constants.magics (magic.symm.trans other)
      rw [not_or, Bool.not_eq_false, Bool.not_eq_false,
        view.accepted_iff constants formed fits long magic]
      constructor
      · exact fun accepted => ⟨accepted.1, .inr accepted.2⟩
      · exact fun grammar => ⟨grammar.length, grammar.kind.resolve_left noControl⟩

theorem UdpDatagramPipeline.Passed.decodes {pipeline : UdpDatagramPipeline}
    {processed : ProcessedPacket} (passed : pipeline.Passed processed)
    (constants : pipeline.spec.FromConfig) :
    processed.Decodes pipeline.spec processed.udpFrame.udpPayload := by
  have kind := passed.kind
  obtain ⟨parsed, validated, interpreted, accepted⟩ := passed
  have outcome := PacketParser.parse_outcome constants processed.udpFrame
  rw [← parsed] at outcome
  cases outcome with
  | short invalid | unknown invalid =>
      simp only [PacketValidator.validate, invalid, if_true] at validated
      cases validated
  | control long magic view =>
      have noData : field processed.udpFrame.udpPayload 0 4 ≠ pipeline.spec.magicData :=
        fun other => constants.magics (other.symm.trans magic)
      rw [interpret_control view.valid view.kind] at interpreted
      refine ⟨kind, view.cpi, ?_, ?_, ?_, ?_, fun data => absurd data noData, fun _ =>
        ⟨view.kind, view.channel, view.packetIndex, view.tail⟩⟩
      · rw [interpreted]
      · rw [interpreted, view.channel]
      · rw [interpreted, view.prt]
      · rw [interpreted, view.packetIndex]
  | data long magic view =>
      have noControl : field processed.udpFrame.udpPayload 0 4 ≠ pipeline.spec.magicControl :=
        fun other => constants.magics (magic.symm.trans other)
      rw [interpreted] at accepted
      obtain ⟨cpi, prt, channel, packetIndex⟩ := interpret_fields view.kind accepted
      rw [← interpreted] at cpi prt channel packetIndex
      exact ⟨kind, view.cpi, cpi, channel, prt, packetIndex, fun _ =>
        ⟨view.kind, view.channel, view.prt, view.packetIndex, view.tail⟩,
        fun control => absurd control noControl⟩

theorem UdpDatagramPipeline.Delivers.wirePayload {pipeline : UdpDatagramPipeline}
    {processed : ProcessedPacket} (delivers : pipeline.Delivers processed)
    (constants : pipeline.spec.FromConfig) (formed : pipeline.spec.WellFormed) :
    WirePayload pipeline.spec processed.udpFrame.udpPayload ∧
      processed.udpFrame.udpPayload.length < 2 ^ 32 := by
  have passes := delivers.passed.not_refuses
  obtain ⟨datagram, metrics, handed⟩ := delivers
  have fits := datagram.udpPayload_length_lt
  rw [← processDatagram_frame handed] at fits
  exact ⟨(not_refuses_iff constants formed fits).mp passes, fits⟩

theorem UdpDatagramDesc.wellFormed {datagram : UdpDatagramDesc}
    (present : datagram.payloadLen > 0 → datagram.payloadData.isSome = true) :
    isMalformedDescriptor datagram = false := by
  simp only [isMalformedDescriptor, Bool.and_eq_false_iff, decide_eq_false_iff_not]
  by_cases nonempty : datagram.payloadLen > 0
  · have some := present nonempty
    exact .inr (by rw [← Option.not_isSome, some]; rfl)
  · exact .inl nonempty

/-! ## Sending -/

/-- A datagram with the given payload. -/
def UdpDatagramDesc.ofPayload (payload : List UInt8) : UdpDatagramDesc where
  payloadData := some fun offset => payload.getD offset 0
  payloadLen := UInt32.ofNat payload.length

theorem UdpDatagramDesc.ofPayload_udpPayload {payload : List UInt8}
    (fits : payload.length < 2 ^ 32) : (ofPayload payload).udpFrame.udpPayload = payload := by
  have length : (UInt32.ofNat payload.length).toNat = payload.length :=
    UInt32.toNat_ofNat_of_lt' fits
  simp only [udpFrame, ofPayload, Option.elim_some, length]
  refine List.ext_getElem (by simp) fun index inRange inside => ?_
  rw [List.getElem_map, List.getElem_range, List.getD_eq_getElem?_getD,
    List.getElem?_eq_getElem inside, Option.getD_some]

/-- A datagram with the given payload that the filter lets through. -/
def UdpDatagramPipeline.datagramOf (pipeline : UdpDatagramPipeline) (payload : List UInt8) :
    UdpDatagramDesc :=
  { UdpDatagramDesc.ofPayload payload with
    srcIpv4Be := pipeline.allowedSourceIpv4Be
    dstIpv4Be := pipeline.receiverIpv4Be
    dstPort := u16 pipeline.config.allowedDestPort }

/-- Every payload of the grammar can be sent so that it is handed over. -/
theorem UdpDatagramPipeline.delivers_wirePayload {pipeline : UdpDatagramPipeline}
    (constants : pipeline.spec.FromConfig) (formed : pipeline.spec.WellFormed)
    {payload : List UInt8} (wire : WirePayload pipeline.spec payload)
    (fits : payload.length < 2 ^ 32) :
    ∃ processed, pipeline.Delivers processed ∧ processed.udpFrame.udpPayload = payload := by
  have carried : (pipeline.datagramOf payload).udpFrame.udpPayload = payload :=
    UdpDatagramDesc.ofPayload_udpPayload fits
  have descriptor : isMalformedDescriptor (pipeline.datagramOf payload) = false :=
    UdpDatagramDesc.wellFormed fun _ => rfl
  have matching : pipeline.matchesPacketFilter (pipeline.datagramOf payload).udpFrame = true := by
    simp [matchesPacketFilter, UdpDatagramDesc.udpFrame, datagramOf]
  have handed := processDatagram_handed_iff {} descriptor matching
  rw [not_refuses_iff constants formed (UdpDatagramDesc.udpPayload_length_lt _), carried] at handed
  obtain ⟨processed, delivered⟩ := Option.isSome_iff_exists.mp (handed.mpr wire)
  refine ⟨processed, ⟨_, _, delivered⟩, ?_⟩
  rw [processDatagram_frame delivered, carried]

/-- A control payload; the receiver does not interpret its body. -/
def controlPayload (spec : ProtocolSpec) (cpi : UInt16) (body : List UInt8) : List UInt8 :=
  encode 4 spec.magicControl ++ (encode 2 cpi.toNat ++ body)

def dataPayload (spec : ProtocolSpec) (cpi : UInt16) (channel prt packetIndex tail : Nat)
    (body : List UInt8) : List UInt8 :=
  encode 4 spec.magicData ++ (encode 2 cpi.toNat ++ (encode 2 channel ++ (encode 2 prt ++
    (encode 2 packetIndex ++ (encode 4 tail ++ body)))))

private theorem dataPayload_length (spec : ProtocolSpec) (cpi : UInt16)
    (channel prt packetIndex tail : Nat) (body : List UInt8) :
    (dataPayload spec cpi channel prt packetIndex tail body).length = 16 + body.length := by
  simp only [dataPayload, List.length_append, LittleEndian.encode_length]
  omega

theorem controlPayload_wirePayload {spec : ProtocolSpec} (constants : spec.FromConfig)
    (cpi : UInt16) {body : List UInt8} (sized : body.length = 10 + (spec.udpPacketSize - 16)) :
    WirePayload spec (controlPayload spec cpi body) ∧
      field (controlPayload spec cpi body) 4 2 = cpi.toNat := by
  have behind := LittleEndian.field_encode_append 4 spec.magicControl
    (encode 2 cpi.toNat ++ body) 0 2
  refine ⟨⟨?_, .inl (LittleEndian.field_encode constants.controlFits _)⟩, ?_⟩
  · simp only [controlPayload, List.length_append, LittleEndian.encode_length]
    omega
  · exact behind.trans (LittleEndian.field_encode cpi.toNat_lt body)

/-- The fields of an encoded data payload. -/
structure DataPayload.Carries (payload : List UInt8) (cpi : UInt16)
    (channel prt packetIndex tail : Nat) : Prop where
  cpi : field payload 4 2 = cpi.toNat
  channel : field payload 6 2 = channel
  prt : field payload 8 2 = prt
  packetIndex : field payload 10 2 = packetIndex
  tail : field payload 12 4 = tail

private theorem dataPayload_carries (spec : ProtocolSpec) (cpi : UInt16)
    {channel prt packetIndex tail : Nat} (channelFits : channel < 256 ^ 2)
    (prtFits : prt < 256 ^ 2) (indexFits : packetIndex < 256 ^ 2) (tailFits : tail < 256 ^ 4)
    (body : List UInt8) :
    DataPayload.Carries (dataPayload spec cpi channel prt packetIndex tail body) cpi channel prt
      packetIndex tail := by
  have skip := LittleEndian.field_encode_append
  constructor
  · exact (skip 4 _ _ 0 2).trans (LittleEndian.field_encode cpi.toNat_lt _)
  · exact (skip 4 _ _ 2 2).trans ((skip 2 _ _ 0 2).trans (LittleEndian.field_encode channelFits _))
  · exact (skip 4 _ _ 4 2).trans ((skip 2 _ _ 2 2).trans ((skip 2 _ _ 0 2).trans
      (LittleEndian.field_encode prtFits _)))
  · exact (skip 4 _ _ 6 2).trans ((skip 2 _ _ 4 2).trans ((skip 2 _ _ 2 2).trans
      ((skip 2 _ _ 0 2).trans (LittleEndian.field_encode indexFits _))))
  · exact (skip 4 _ _ 8 4).trans ((skip 2 _ _ 6 4).trans ((skip 2 _ _ 4 4).trans
      ((skip 2 _ _ 2 4).trans ((skip 2 _ _ 0 4).trans (LittleEndian.field_encode tailFits _)))))

/-- What a sender has to respect for its data packet to be accepted. -/
structure Sendable (spec : ProtocolSpec) (channel prt packetIndex tail : Nat)
    (body : List UInt8) : Prop where
  channel : channel < spec.channelsPerPrt
  prt : prt < 256 ^ 2
  packetIndex_pos : 1 ≤ packetIndex
  packetIndex_le : packetIndex ≤ spec.packetsPerChannel
  tail : tail = 0 ∨ tail = spec.magicTail ∧ packetIndex = spec.packetsPerChannel
  sized : body.length = spec.udpPacketSize - 16
  padding : packetIndex = spec.packetsPerChannel →
    1904 ≤ body.length ∧ ∀ byte ∈ body.drop 1904, byte = 0

theorem Sendable.carries {spec : ProtocolSpec} {channel prt packetIndex tail : Nat}
    {body : List UInt8} (sendable : Sendable spec channel prt packetIndex tail body)
    (constants : spec.FromConfig) (formed : spec.WellFormed) (cpi : UInt16) :
    DataPayload.Carries (dataPayload spec cpi channel prt packetIndex tail body) cpi channel prt
      packetIndex tail := by
  have channels := formed.channels_le
  have packets := formed.packets_le
  have channelOk := sendable.channel
  have indexOk := sendable.packetIndex_le
  have tailFits : tail < 256 ^ 4 := by
    rcases sendable.tail with rfl | ⟨rfl, -⟩
    · decide
    · exact constants.tailFits
  exact dataPayload_carries spec cpi (by omega) sendable.prt (by omega) tailFits body

theorem Sendable.wirePayload {spec : ProtocolSpec} {channel prt packetIndex tail : Nat}
    {body : List UInt8} (sendable : Sendable spec channel prt packetIndex tail body)
    (constants : spec.FromConfig) (formed : spec.WellFormed) (cpi : UInt16) :
    WirePayload spec (dataPayload spec cpi channel prt packetIndex tail body) := by
  have carries := sendable.carries constants formed cpi
  have length := dataPayload_length spec cpi channel prt packetIndex tail body
  have behind : (dataPayload spec cpi channel prt packetIndex tail body).drop (16 + 1904) =
      body.drop 1904 := by
    have skip := LittleEndian.drop_encode_append
    exact (skip 4 _ _ 1916).trans ((skip 2 _ _ 1914).trans ((skip 2 _ _ 1912).trans
      ((skip 2 _ _ 1910).trans ((skip 2 _ _ 1908).trans (skip 4 _ _ 1904)))))
  refine ⟨by rw [length, sendable.sized], .inr ⟨?_, ?_, ?_, ?_, ?_, ?_, ?_⟩⟩
  · exact LittleEndian.field_encode constants.dataFits _
  · rw [carries.channel]
    exact sendable.channel
  · rw [carries.packetIndex]
    exact sendable.packetIndex_pos
  · rw [carries.packetIndex]
    exact sendable.packetIndex_le
  · rw [carries.tail]
    exact sendable.tail.imp_right And.left
  · rw [carries.tail, carries.packetIndex]
    intro marked
    rcases sendable.tail with unmarked | ⟨-, last⟩
    · exact absurd (marked.symm.trans unmarked) formed.tail_ne_zero
    · exact last
  · rw [carries.packetIndex, behind, length, Nat.add_sub_cancel_left]
    exact sendable.padding

/-- The fields of a packet that was sent are read again. -/
theorem Sendable.decoded {spec : ProtocolSpec} {channel prt packetIndex tail : Nat}
    {body : List UInt8} (sendable : Sendable spec channel prt packetIndex tail body)
    (constants : spec.FromConfig) (formed : spec.WellFormed) (cpi : UInt16)
    {processed : ProcessedPacket}
    (decodes : processed.Decodes spec (dataPayload spec cpi channel prt packetIndex tail body)) :
    processed.parsed.kind = .dataPacket ∧ processed.parsed.cpi = cpi ∧
      processed.parsed.channel = channel ∧ processed.parsed.prt = prt ∧
      processed.parsed.packetIndex = packetIndex ∧ processed.parsed.tail = tail := by
  have carries := sendable.carries constants formed cpi
  obtain ⟨kind, channelIs, prtIs, indexIs, tailIs⟩ :=
    decodes.data (LittleEndian.field_encode constants.dataFits _)
  exact ⟨kind, UInt16.toNat_inj.mp (decodes.cpi.trans carries.cpi), channelIs.trans carries.channel,
    prtIs.trans carries.prt, indexIs.trans carries.packetIndex, tailIs.trans carries.tail⟩

/-- Past the filter, the pipeline hands over exactly the payloads of the grammar,
reports each datagram once, and decodes what it hands over. -/
theorem process_datagram_accepts_grammar (config : RxConfig)
    (allowedSourceIpv4Be receiverIpv4Be : Nat) (datagram : UdpDatagramDesc)
    (metrics : MetricsCollector)
    (wellFormed : datagram.payloadLen > 0 → datagram.payloadData.isSome = true)
    (matching : (UdpDatagramPipeline.ofConfig config allowedSourceIpv4Be
      receiverIpv4Be).matchesPacketFilter datagram.udpFrame = true) :
    let spec := protocolSpecFromConfig config
    let payload := datagram.udpFrame.udpPayload
    let result := (UdpDatagramPipeline.ofConfig config allowedSourceIpv4Be
      receiverIpv4Be).processDatagram datagram metrics
    (result.2.2.isSome = true ↔ WirePayload spec payload) ∧
      (∀ processed, result.2.2 = some processed →
        processed.Decodes spec payload ∧
          result.2.1 = metrics.onValidPacket processed.interpreted.kind) ∧
      (result.2.2 = none → ∃ reason, reason ≠ .none ∧ result.2.1 = metrics.onReject reason) := by
  have constants := protocolSpecFromConfig_fromConfig config
  have formed := protocolSpecFromConfig_wellFormed config
  have descriptor := UdpDatagramDesc.wellFormed wellFormed
  have handed := UdpDatagramPipeline.processDatagram_handed_iff metrics descriptor matching
  rw [UdpDatagramPipeline.not_refuses_iff constants formed datagram.udpPayload_length_lt] at handed
  have outcome := UdpDatagramPipeline.processDatagram_outcome
    (.ofConfig config allowedSourceIpv4Be receiverIpv4Be) datagram metrics
  generalize UdpDatagramPipeline.processDatagram _ datagram metrics = result at outcome handed ⊢
  refine ⟨handed, ?_⟩
  cases outcome with
  | malformed malformed => cases malformed.symm.trans descriptor
  | filtered filtered => cases matching.symm.trans filtered
  | rejected stats reason counted named refuses =>
      exact ⟨fun _ impossible => (nomatch impossible), fun _ => ⟨reason, named, rfl⟩⟩
  | handed stats processed counted frame passed =>
      refine ⟨?_, fun impossible => (nomatch impossible)⟩
      rintro _ ⟨⟩
      have decodes := passed.decodes constants
      rw [frame] at decodes
      exact ⟨decodes, rfl⟩

/-- The shortest payload that leaves room for a body. -/
def smallConfig : RxConfig := { protocolUdpPacketSize := 17 }

/-- A control payload with 5 where a data payload has its channel. -/
def channelledControl : UdpDatagramDesc :=
  .ofPayload (controlPayload (protocolSpecFromConfig smallConfig) 1 (5 :: List.replicate 10 0))

/-- The bytes behind the CPI of a control payload are not delivered. -/
theorem control_fields_not_delivered :
    let pipeline := UdpDatagramPipeline.ofConfig smallConfig 0 0
    let processed := (pipeline.processDatagram channelledControl {}).2.2
    (channelledControl.payloadLen > 0 → channelledControl.payloadData.isSome = true) ∧
      pipeline.matchesPacketFilter channelledControl.udpFrame = true ∧
      processed.map (fun processed => processed.parsed.channel) = some 0 ∧
      field channelledControl.udpFrame.udpPayload 6 2 = 5 := by
  decide +kernel

/-- A data payload of one byte, on channel 1. -/
def firstData : UdpDatagramDesc :=
  .ofPayload (dataPayload (protocolSpecFromConfig smallConfig) 7 1 2 3 0 [42])

theorem process_datagram_accepts_grammar_data :
    let spec := protocolSpecFromConfig smallConfig
    let payload := firstData.udpFrame.udpPayload
    let result := (UdpDatagramPipeline.ofConfig smallConfig 0 0).processDatagram firstData {}
    DataPayload spec payload ∧ WirePayload spec payload ∧
      ∃ processed, result.2.2 = some processed ∧ processed.Decodes spec payload ∧
        processed.parsed.channel = 1 := by
  intro spec payload result
  have accepted : result.2.2.isSome = true := by decide +kernel
  obtain ⟨accepts, decodes, -⟩ := process_datagram_accepts_grammar smallConfig 0 0 firstData {}
    (by decide) (by decide +kernel)
  obtain ⟨processed, handed⟩ := Option.isSome_iff_exists.mp accepted
  obtain ⟨decoded, -⟩ := decodes processed handed
  have wire := accepts.mp accepted
  have magic : field payload 0 4 = spec.magicData := by decide +kernel
  refine ⟨wire.kind.resolve_left ?_, wire, processed, handed, decoded, ?_⟩
  · rw [magic]
    decide +kernel
  · rw [(decoded.data magic).2.1]
    decide +kernel

end RxTech
