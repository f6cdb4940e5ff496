import RxTech.Cpi.Slots
import RxTech.Protocol.WireGrammar
import RxTech.Runtime.RxConfig

/-!
# Validating the configuration

`validate_config`, and what an accepted configuration says about the slots: the packet
size is only compared with zero.
-/

set_option autoImplicit false

namespace RxTech

/-- A condition that is refused, with the message. -/
abbrev ConfigCheck := Bool × String

/-- The message of the first check that fires. -/
def firstError (checks : List ConfigCheck) : String :=
  ((checks.find? Prod.fst).map Prod.snd).getD ""

def effectiveCaptureOutputDir (config : FullRxConfig) : String :=
  if config.captureOutputDir = "" then config.outputDir else config.captureOutputDir

def kMaxUdpPort : Nat := 65535

namespace ValidateConfig

variable (config : FullRxConfig)

def socketChecks : List ConfigCheck :=
  let rawSocketBindPort :=
    if config.socketBindPort ≠ 0 then config.socketBindPort else config.allowedDestPort
  [(effectiveSocketBindIp config = "",
      "backend=socket 时，socket_bind_ip 或 receiver_ipv4 不能为空"),
    (config.socketBindPort > kMaxUdpPort,
      "backend=socket 时，socket_bind_port 必须小于或等于 65535"),
    (rawSocketBindPort = 0 ∨ effectiveSocketBindPort config = 0,
      "backend=socket 时，socket_bind_port 或 allowed_dest_port 必须大于 0"),
    (config.socketBindIp ≠ "" ∧ config.socketBindIp ≠ "0.0.0.0" ∧ config.receiverIpv4 ≠ "" ∧
        config.socketBindIp ≠ config.receiverIpv4,
      "backend=socket 时，socket_bind_ip 与 receiver_ipv4 不能冲突；如需任意地址绑定请使用 0.0.0.0"),
    (config.socketBindPort ≠ 0 ∧ config.allowedDestPort ≠ 0 ∧
        config.socketBindPort ≠ config.allowedDestPort,
      "backend=socket 时，socket_bind_port 与 allowed_dest_port 不能冲突"),
    (config.socketRcvbufBytes = 0, "backend=socket 时，socket_rcvbuf_bytes 必须大于 0")]

def captureChecks : List ConfigCheck :=
  [(effectiveCaptureOutputDir config = "", "启用数据捕获时，capture_output_dir 不能为空"),
    (config.captureIndexFilename = "", "启用数据捕获时，capture_index_filename 不能为空"),
    (config.captureDataFilename = "", "启用数据捕获时，capture_data_filename 不能为空")]

def rawRecordChecks : List ConfigCheck :=
  [(config.rawRecordOutputDir = "", "启用原始记录时，raw_record_output_dir 不能为空"),
    (config.rawRecordFilePrefix = "", "启用原始记录时，raw_record_file_prefix 不能为空"),
    (config.rawRecordRingSlots = 0, "raw_record_ring_slots 必须大于 0"),
    (config.rawRecordWriterBatchSize = 0, "raw_record_writer_batch_size 必须大于 0"),
    (config.rawRecordMaxFrameBytes = 0, "raw_record_max_frame_bytes 必须大于 0"),
    (config.rawRecordSegmentBytes = 0, "raw_record_segment_bytes 必须大于 0"),
    (config.rawRecordMaxTotalBytes = 0, "raw_record_max_total_bytes 必须大于 0"),
    (config.rawRecordSegmentBytes > config.rawRecordMaxTotalBytes,
      "raw_record_segment_bytes 必须小于或等于 raw_record_max_total_bytes")]

def protocolChecks : List ConfigCheck :=
  [(config.logOutput = "file" ∧ config.logFilePath = "",
      "当日志输出模式为 file 时，log_file_path 不能为空"),
    (config.protocolUdpPacketSize = 0, "protocol_udp_packet_size 必须大于 0"),
    (config.protocolChannelsPerPrt = 0, "protocol_channels_per_prt 必须大于 0"),
    (config.protocolPacketsPerChannel = 0, "protocol_packets_per_channel 必须大于 0")]

/-- All checks in order; those of a block are made only if it is switched on. -/
def checks : List ConfigCheck :=
  let portChecks : List ConfigCheck :=
    [(config.allowedDestPort > kMaxUdpPort, "allowed_dest_port 必须小于或等于 65535")]
  portChecks ++
    (if config.backendName = "socket" then socketChecks config else []) ++
    (if config.captureEnabled then captureChecks config else []) ++
    (if config.rawRecordEnabled then rawRecordChecks config else []) ++ protocolChecks config

end ValidateConfig

/-- `validate_config`; an empty text is no error. -/
def validateConfig (config : FullRxConfig) : String := firstError (ValidateConfig.checks config)

theorem ValidateConfig.message_ne_empty (config : FullRxConfig) :
    ∀ check ∈ checks config, check.2 ≠ "" := by
  have socket : ∀ check ∈ socketChecks config, check.2 ≠ "" := by simp [socketChecks]
  have capture : ∀ check ∈ captureChecks config, check.2 ≠ "" := by simp [captureChecks]
  have rawRecord : ∀ check ∈ rawRecordChecks config, check.2 ≠ "" := by simp [rawRecordChecks]
  have protocol : ∀ check ∈ protocolChecks config, check.2 ≠ "" := by simp [protocolChecks]
  have switched (on : Bool) {block : List ConfigCheck} (messages : ∀ check ∈ block, check.2 ≠ "") :
      ∀ check ∈ (if on then block else []), check.2 ≠ "" := by
    cases on with
    | true => exact messages
    | false => simp
  intro check member
  simp only [checks, List.mem_append, List.mem_singleton] at member
  rcases member with (((rfl | inSocket) | inCapture) | inRecord) | inProtocol
  · simp
  · exact switched (config.backendName = "socket") socket check (by simpa using inSocket)
  · exact switched config.captureEnabled capture check inCapture
  · exact switched config.rawRecordEnabled rawRecord check inRecord
  · exact protocol check inProtocol

/-- A configuration is accepted exactly if no check fires. -/
theorem validateConfig_eq_empty_iff (config : FullRxConfig) :
    validateConfig config = "" ↔ ∀ check ∈ ValidateConfig.checks config, check.1 = false := by
  rw [validateConfig, firstError]
  constructor
  · intro empty check member
    cases found : (ValidateConfig.checks config).find? Prod.fst with
    | none => simpa using List.find?_eq_none.mp found check member
    | some fired =>
        rw [found] at empty
        have member := List.mem_of_find?_eq_some found
        exact absurd empty (ValidateConfig.message_ne_empty config fired member)
  · intro silent
    have none : (ValidateConfig.checks config).find? Prod.fst = none :=
      List.find?_eq_none.mpr fun check member fires => by simp [silent check member] at fires
    rw [none]
    rfl

/-! ## Slots that can be received -/

/-- Some payload with these coordinates passes the parser, the validator and the
interpreter, and is stored in a context as it is acquired. -/
def SlotCoord.Receivable (spec : ProtocolSpec) (coord : SlotCoord) : Prop :=
  ∃ frame : UdpPayloadFrame,
    let parsed := PacketParser.parse spec frame
    parsed.kind = .dataPacket ∧ parsed.coord = coord ∧
      (PacketValidator.validate spec parsed).ok = true ∧
      (ProtocolSequenceInterpreter.interpret spec parsed).valid = true ∧
      ∀ cpiId poolIndex birth,
        (SlotWriter.write spec (CpiContext.reset cpiId poolIndex birth) parsed).2.firstWrite = true

section Receivable

variable {spec : ProtocolSpec}

/-- A packet that is accepted is stored in a new context. -/
theorem SlotWriter.write_reset {parsed : ParsedPacketView}
    (accepts : SlotWriter.Accepts spec 0 parsed) (cpiId : UInt16) (poolIndex : Option PoolIndex)
    (birth : Nat) :
    (SlotWriter.write spec (CpiContext.reset cpiId poolIndex birth) parsed).2.firstWrite = true := by
  have outcome := SlotWriter.write_outcome spec (CpiContext.reset cpiId poolIndex birth) parsed
  generalize SlotWriter.write spec (CpiContext.reset cpiId poolIndex birth) parsed = result at outcome
  cases outcome with
  | rejected reason declines => exact absurd accepts declines
  | duplicate _ present => simp [CpiContext.bitmapHas, CpiContext.reset, Bits.hasAny] at present
  | stored bytes payload accepts absent => rfl

theorem SlotWriter.accepts_of_firstWrite {ctx : CpiContext} {parsed : ParsedPacketView}
    (stored : (SlotWriter.write spec ctx parsed).2.firstWrite = true) :
    SlotWriter.Accepts spec ctx.header.expectedNPrt parsed := by
  have outcome := SlotWriter.write_outcome spec ctx parsed
  generalize SlotWriter.write spec ctx parsed = result at outcome stored
  cases outcome with
  | rejected reason declines => cases stored
  | duplicate _ present => cases stored
  | stored bytes payload accepts absent => exact accepts

/-- A body of zeros for any coordinates. -/
theorem sendable_zeros {coord : SlotCoord}
    (within : coord.Within spec kCpiPrtMax) (room : 1920 ≤ spec.udpPacketSize) :
    Sendable spec coord.channel coord.prt coord.packetIndex 0
      (List.replicate (spec.udpPacketSize - 16) 0) := by
  have prt := within.prt_le
  have length : (List.replicate (spec.udpPacketSize - 16) (0 : UInt8)).length =
      spec.udpPacketSize - 16 := List.length_replicate
  have small : kCpiPrtMax < 256 ^ 2 := by decide
  refine ⟨within.channel_lt, by omega, within.packetIndex_pos, within.packetIndex_le, .inl rfl,
    length, fun _ => ⟨by omega, fun byte member => ?_⟩⟩
  exact List.eq_of_mem_replicate (List.mem_of_mem_drop member)

end Receivable

/-- Every coordinate of an accepted size is received. -/
theorem SlotCoord.Within.receivable (config : RxConfig) {coord : SlotCoord}
    (within : coord.Within (protocolSpecFromConfig config) kCpiPrtMax)
    (room : 1920 ≤ config.protocolUdpPacketSize) (fits : config.protocolUdpPacketSize ≤ 2064) :
    coord.Receivable (protocolSpecFromConfig config) := by
  have constants := protocolSpecFromConfig_fromConfig config
  have formed := protocolSpecFromConfig_wellFormed config
  have size : (protocolSpecFromConfig config).udpPacketSize = config.protocolUdpPacketSize := rfl
  have sendable := sendable_zeros within room
  have wire := sendable.wirePayload constants formed 0
  have length := wire.length
  have spec : (UdpDatagramPipeline.ofConfig config 0 0).spec = protocolSpecFromConfig config := rfl
  obtain ⟨processed, delivers, carried⟩ :=
    @UdpDatagramPipeline.delivers_wirePayload (UdpDatagramPipeline.ofConfig config 0 0) constants
      formed _ wire (by omega)
  obtain ⟨parsed, validated, interpreted, accepted⟩ := delivers.passed
  have decodes := delivers.passed.decodes constants
  rw [carried] at decodes
  obtain ⟨kind, -, channel, prt, packetIndex, -⟩ := sendable.decoded constants formed 0 decodes
  have checks := validate_dataChecks kind validated
  rw [spec] at parsed interpreted validated checks
  have payloadLen := checks.payloadLen
  rw [constants.dataSize, size] at payloadLen
  have coordIs : processed.parsed.coord = coord := by
    simp only [ParsedPacketView.coord, channel, prt, packetIndex]
  refine ⟨processed.udpFrame, ?_⟩
  rw [← parsed]
  refine ⟨kind, coordIs, validated, interpreted ▸ accepted, SlotWriter.write_reset ?_⟩
  refine ⟨checks.valid, kind, (isValidSlotCoord_iff formed).mpr (coordIs ▸ within), .inl rfl,
    checks.payload, by omega, ?_⟩
  rw [payloadLen, kCpiSlotStride]
  omega

/-- The last packet of a channel bounds the size on both sides. -/
theorem SlotCoord.Receivable.sized (config : RxConfig) {coord : SlotCoord}
    (last : coord.packetIndex = (protocolSpecFromConfig config).packetsPerChannel)
    (receivable : coord.Receivable (protocolSpecFromConfig config)) :
    1920 ≤ config.protocolUdpPacketSize ∧ config.protocolUdpPacketSize ≤ 2064 := by
  have constants := protocolSpecFromConfig_fromConfig config
  have size : (protocolSpecFromConfig config).udpPacketSize = config.protocolUdpPacketSize := rfl
  obtain ⟨frame, kind, coordIs, validated, accepted, stored⟩ := receivable
  have checks := validate_dataChecks kind validated
  have payloadLen := checks.payloadLen
  obtain ⟨bytes, payload⟩ := Option.isSome_iff_exists.mp checks.payload
  have isLast : (PacketParser.parse (protocolSpecFromConfig config) frame).packetIndex =
      (protocolSpecFromConfig config).packetsPerChannel :=
    (congrArg SlotCoord.packetIndex coordIs).trans last
  have used := ((interpret_data checks kind payload).mp accepted isLast).1
  have bounded := (SlotWriter.accepts_of_firstWrite (stored 0 none 0)).len_le
  rw [constants.dataSize, size] at payloadLen
  rw [constants.lastPacket] at used
  rw [kCpiSlotStride] at bounded
  omega

/-- An accepted configuration can receive every slot exactly if its packet size leaves room
for the samples of a last packet and fits a slot. -/
theorem validateConfig_receivable_iff (config : FullRxConfig) :
    (validateConfig config = "" → ∀ coord : SlotCoord,
        coord.Within (protocolSpecFromConfig config.toRxConfig) kCpiPrtMax →
          coord.Receivable (protocolSpecFromConfig config.toRxConfig)) ↔
      (validateConfig config = "" →
        1920 ≤ config.protocolUdpPacketSize ∧ config.protocolUdpPacketSize ≤ 2064) := by
  have formed := protocolSpecFromConfig_wellFormed config.toRxConfig
  constructor
  · intro every accepted
    have small : 1 ≤ kCpiPrtMax := by decide
    refine SlotCoord.Receivable.sized config.toRxConfig rfl (every accepted
      ⟨1, 0, (protocolSpecFromConfig config.toRxConfig).packetsPerChannel⟩ ?_)
    exact ⟨Nat.le_refl 1, small, formed.channels_pos, formed.packets_pos, Nat.le_refl _⟩
  · intro sized accepted coord within
    exact SlotCoord.Within.receivable config.toRxConfig within (sized accepted).1
      (sized accepted).2

/-- A packet size of 4096 is accepted, and no packet is ever stored. -/
theorem validateConfig_accepts_oversized :
    let config : FullRxConfig := { loadDefaultConfig with protocolUdpPacketSize := 4096 }
    validateConfig config = "" ∧
      ¬ ∀ coord : SlotCoord, coord.Within (protocolSpecFromConfig config.toRxConfig) kCpiPrtMax →
        coord.Receivable (protocolSpecFromConfig config.toRxConfig) := by
  refine ⟨by decide, fun every => ?_⟩
  have sized := SlotCoord.Receivable.sized _ rfl (every ⟨1, 0, 9⟩
    ⟨by decide, by decide, by decide, by decide, by decide⟩)
  revert sized
  decide

end RxTech
