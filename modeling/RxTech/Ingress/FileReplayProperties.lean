import RxTech.Ingress.FileReplayBackend
import RxTech.Protocol.PacketOutcome

/-!
# File replay against the packet pipeline

A served descriptor carries the built frame, but no payload, addresses and ports. The
datagram pipeline reads the latter only.
-/

set_option autoImplicit false

namespace RxTech

namespace FileReplayBackend

/-! ## Served datagrams -/

/-- A datagram that describes one of the frames. -/
def Describes (frames : List (List UInt8)) (datagram : UdpDatagramDesc) : Prop :=
  ∃ frameIndex frame ts, frames[frameIndex]? = some frame ∧
    datagram = describe frame frameIndex ts

private theorem fillBurst_describes (ts room : Nat) (backend : FileReplayBackend) :
    (fillBurst ts room backend).1.frames = backend.frames ∧
      ∀ datagram ∈ (fillBurst ts room backend).2, Describes backend.frames datagram := by
  induction room generalizing backend with
  | zero => exact ⟨rfl, fun datagram member => by cases member⟩
  | succ room ih =>
      cases present : backend.frames[backend.cursor]? with
      | none =>
          simp only [fillBurst, present]
          exact ⟨trivial, fun datagram member => by cases member⟩
      | some frame =>
          simp only [fillBurst, present]
          refine ⟨(ih _).1, fun datagram member => ?_⟩
          cases member with
          | head => exact ⟨_, _, ts, present, rfl⟩
          | tail _ later =>
              have described := (ih _).2 datagram later
              exact described

private theorem rewind_frames (backend : FileReplayBackend) :
    backend.rewind.frames = backend.frames := by
  simp only [rewind]
  split
  · rfl
  split
  · rfl
  · rfl

private theorem recvBurst_describes (backend : FileReplayBackend) (maxBurst : UInt32) (ts : Nat) :
    (backend.recvBurst maxBurst ts).1.frames = backend.frames ∧
      ∀ datagram ∈ (backend.recvBurst maxBurst ts).2, Describes backend.frames datagram := by
  have same := backend.rewind_frames
  simp only [recvBurst]
  split
  · exact ⟨rfl, fun datagram member => by cases member⟩
  split
  · exact ⟨same, fun datagram member => by cases member⟩
  · have filled := fillBurst_describes ts maxBurst.toNat backend.rewind
    rwa [same] at filled

private theorem step_frames (call : Call) (backend : FileReplayBackend) :
    (step call backend).frames = backend.frames := by
  cases call with
  | recvBurst maxBurst ts => exact (recvBurst_describes backend maxBurst ts).1
  | shutdown => rfl

private theorem served_describes (calls : List Call) (backend : FileReplayBackend) :
    ∀ datagram ∈ backend.served calls, Describes backend.frames datagram := by
  intro datagram member
  obtain ⟨burst, answered, inside⟩ := List.mem_flatten.mp member
  have preserved (state : FileReplayBackend) (call : Call) (same : state.frames = backend.frames) :
      (step call state).frames = backend.frames := (step_frames call state).trans same
  have described : ∀ state call, state.frames = backend.frames →
      ∀ given ∈ FileReplayBackend.burst call state,
        ∀ datagram ∈ given, Describes backend.frames datagram := by
    intro state call same given answered
    cases call with
    | recvBurst maxBurst ts =>
        cases answered
        exact same ▸ (recvBurst_describes state maxBurst ts).2
    | shutdown => cases answered
  exact Machine.answers_forall preserved described calls rfl burst answered datagram inside

/-! ## Built frames -/

private theorem buildFrames_get {fcfg : FrameConfig} {entries : List (Except String (List UInt8))}
    {seq : UInt16} {index : Nat} {frame : List UInt8}
    (built : (buildFrames fcfg entries seq).1[index]? = some frame) :
    ∃ payload, entries[index]? = some (.ok payload) ∧
      frame = buildEthFrame payload fcfg (seq + UInt16.ofNat index) := by
  induction entries generalizing seq index with
  | nil => simp [buildFrames] at built
  | cons entry rest ih =>
      cases entry with
      | error what => simp [buildFrames] at built
      | ok payload =>
          cases index with
          | zero =>
              refine ⟨payload, rfl, ?_⟩
              have same : buildEthFrame payload fcfg seq = frame := Option.some.inj built
              have stays : seq + UInt16.ofNat 0 = seq := UInt16.add_zero ..
              rw [← same, stays]
          | succ index =>
              obtain ⟨later, inside, same⟩ := ih built
              refine ⟨later, inside, same.trans ?_⟩
              rw [UInt16.add_assoc, UInt16.ofNat_add index 1, UInt16.add_comm 1]
              rfl

private theorem init_get {opts : FileReplayOptions} {config : RxConfig}
    {entries : List (Except String (List UInt8))} {index : Nat} {frame : List UInt8}
    (built : ((ofOptions opts).init config (.ok entries)).1.frames[index]? = some frame) :
    ∃ payload, entries[index]? = some (.ok payload) ∧
      frame = buildEthFrame payload (opts.frameConfig config) (UInt16.ofNat index) := by
  cases entries with
  | nil => simp [init, ofOptions] at built
  | cons entry rest =>
      obtain ⟨payload, inside, same⟩ := @buildFrames_get _ _ 0 _ _ built
      rw [UInt16.zero_add] at same
      exact ⟨payload, inside, same⟩

/-! ## Filtering -/

private theorem describe_formed (frame : List UInt8) (frameIndex ts : Nat) :
    isMalformedDescriptor (describe frame frameIndex ts) = false := rfl

/-- No byte of the frame reaches the datagram pipeline. -/
theorem describe_udpFrame (frame : List UInt8) (frameIndex ts : Nat) :
    (describe frame frameIndex ts).udpFrame = ⟨[], 0, 0, 0, 0⟩ := rfl

end FileReplayBackend

theorem WirePayload.nonempty {spec : ProtocolSpec} : ¬ WirePayload spec [] := by
  intro wire
  have length := wire.length
  rw [List.length_nil] at length
  omega

/-- A blank frame against another one; it is never delivered. -/
theorem UdpDatagramPipeline.Decides.blank_eq_iff {pipeline : UdpDatagramPipeline}
    {frame : UdpPayloadFrame} {blankOutcome outcome : PacketOutcome}
    (blank : pipeline.Decides ⟨[], 0, 0, 0, 0⟩ blankOutcome)
    (decides : pipeline.Decides frame outcome) :
    (blankOutcome = outcome ↔
      (pipeline.matchesPacketFilter frame = false ∧
        ¬ pipeline.matchesPacketFilter ⟨[], 0, 0, 0, 0⟩ = true) ∨
      (pipeline.matchesPacketFilter ⟨[], 0, 0, 0, 0⟩ = true ∧
        ¬ pipeline.matchesPacketFilter frame = false ∧
        ¬ WirePayload pipeline.spec frame.udpPayload)) ∧
      ∀ delivered, blankOutcome ≠ .accepted delivered := by
  cases blank with
  | accepted _ wire => exact absurd wire WirePayload.nonempty
  | filtered unmatched =>
      cases decides with
      | filtered filtered => simp [unmatched, filtered]
      | rejected matching refused => simp [unmatched, matching]
      | accepted matching wire => simp [unmatched, matching]
  | rejected passed empty =>
      cases decides with
      | filtered filtered => simp [passed, filtered]
      | rejected matching refused => simp [passed, matching, refused]
      | accepted matching wire => simp [passed, matching, wire]

namespace FileReplayOptions

/-- An option gives the frames another address or port than the filter asks for. -/
def Redirects (opts : FileReplayOptions) (sourceBe receiverBe : UInt32) (port : Nat) : Prop :=
  (opts.srcIpv4Be ≠ 0 ∧ opts.srcIpv4Be ≠ sourceBe) ∨
    (opts.dstIpv4Be ≠ 0 ∧ opts.dstIpv4Be ≠ receiverBe) ∨
    (opts.dstPort ≠ 0 ∧ port ≠ 0 ∧ opts.dstPort.toNat ≠ port)

instance (opts : FileReplayOptions) (sourceBe receiverBe : UInt32) (port : Nat) :
    Decidable (opts.Redirects sourceBe receiverBe port) :=
  inferInstanceAs (Decidable (_ ∨ _ ∨ _))

variable {opts : FileReplayOptions} {config : RxConfig} {sourceBe receiverBe : UInt32}

private theorem frameConfig_source (source : DottedQuad config.allowedSourceIpv4 sourceBe) :
    (opts.frameConfig config).srcIpv4Be =
      if opts.srcIpv4Be ≠ 0 then opts.srcIpv4Be else sourceBe := by
  simp only [frameConfig, if_pos source.nonempty, source.scanned, Option.getD_some]

private theorem frameConfig_receiver (receiver : DottedQuad config.receiverIpv4 receiverBe) :
    (opts.frameConfig config).dstIpv4Be =
      if opts.dstIpv4Be ≠ 0 then opts.dstIpv4Be else receiverBe := by
  simp only [frameConfig, if_pos receiver.nonempty, receiver.scanned, Option.getD_some]

end FileReplayOptions

section Filtering

variable {config : RxConfig} {sourceBe receiverBe : UInt32}

private theorem fromConfig_matches (source : DottedQuad config.allowedSourceIpv4 sourceBe)
    (receiver : DottedQuad config.receiverIpv4 receiverBe) (port : config.allowedDestPort < 2 ^ 16)
    (frame : UdpPayloadFrame) :
    (UdpDatagramPipeline.fromConfig config).matchesPacketFilter frame = true ↔
      frame.sourceIpv4Be = sourceBe.toNat ∧ frame.destIpv4Be = receiverBe.toNat ∧
        (config.allowedDestPort = 0 ∨ frame.destPort = config.allowedDestPort) := by
  have addresses : (UdpDatagramPipeline.fromConfig config).allowedSourceIpv4Be = sourceBe.toNat ∧
      (UdpDatagramPipeline.fromConfig config).receiverIpv4Be = receiverBe.toNat :=
    ⟨source.parsed, receiver.parsed⟩
  have configured : (UdpDatagramPipeline.fromConfig config).config = config := rfl
  simp only [UdpDatagramPipeline.matchesPacketFilter, addresses, configured, u16_of_lt port]
  have named := And.intro source.nonempty receiver.nonempty
  grind

/-- A frame without addresses and ports passes a filter that asks for zero only. -/
theorem blank_matches (source : DottedQuad config.allowedSourceIpv4 sourceBe)
    (receiver : DottedQuad config.receiverIpv4 receiverBe) (port : config.allowedDestPort < 2 ^ 16) :
    (UdpDatagramPipeline.fromConfig config).matchesPacketFilter ⟨[], 0, 0, 0, 0⟩ = true ↔
      sourceBe = 0 ∧ receiverBe = 0 ∧ config.allowedDestPort = 0 := by
  rw [fromConfig_matches source receiver port, ← UInt32.toNat_inj, ← UInt32.toNat_inj]
  change 0 = _ ∧ 0 = _ ∧ (_ ∨ 0 = _) ↔ _ = 0 ∧ _ = 0 ∧ _
  omega

private theorem built_matches (source : DottedQuad config.allowedSourceIpv4 sourceBe)
    (receiver : DottedQuad config.receiverIpv4 receiverBe) (port : config.allowedDestPort < 2 ^ 16)
    (opts : FileReplayOptions) (payload : List UInt8) :
    (UdpDatagramPipeline.fromConfig config).matchesPacketFilter
        ((opts.frameConfig config).udpFrame payload) = true ↔
      ¬ opts.Redirects sourceBe receiverBe config.allowedDestPort := by
  have portBe : (UInt16.ofNat config.allowedDestPort).toNat = config.allowedDestPort :=
    UInt16.toNat_ofNat_of_lt' port
  rw [fromConfig_matches source receiver port]
  simp only [FrameConfig.udpFrame, FileReplayOptions.frameConfig_source source,
    FileReplayOptions.frameConfig_receiver receiver, UInt32.toNat_inj]
  have destPort : (opts.frameConfig config).dstPort.toNat =
      if opts.dstPort ≠ 0 then opts.dstPort.toNat else config.allowedDestPort := by
    simp only [FileReplayOptions.frameConfig]
    split
    · rfl
    · exact portBe
  simp only [destPort, FileReplayOptions.Redirects]
  grind

end Filtering

/-! ## Parity -/

/-- The served datagram and the frame built for its entry have the same outcome exactly
if options lead both past the filter, or if the filter asks for zero only, no option
says otherwise and the payload is no protocol packet. Nothing is ever delivered. -/
theorem file_replay_parity_iff (opts : FileReplayOptions) (config : RxConfig)
    (entries : List (Except String (List UInt8)))
    (short : ∀ payload, Except.ok payload ∈ entries → payload.length ≤ 65507)
    (sourceBe receiverBe : UInt32) (source : DottedQuad config.allowedSourceIpv4 sourceBe)
    (receiver : DottedQuad config.receiverIpv4 receiverBe) (port : config.allowedDestPort < 2 ^ 16)
    (calls : List FileReplayBackend.Call) (datagram : UdpDatagramDesc)
    (served : datagram ∈ FileReplayBackend.served calls
      (FileReplayBackend.init (.ofOptions opts) config (.ok entries)).1)
    (assembler : UdpPayloadAssembler) (metrics : MetricsCollector) :
    ∃ payload, entries[datagram.cookie]? = some (.ok payload) ∧
      let pipeline := UdpDatagramPipeline.fromConfig config
      let frame := buildEthFrame payload (opts.frameConfig config) (UInt16.ofNat datagram.cookie)
      let blank := sourceBe = 0 ∧ receiverBe = 0 ∧ config.allowedDestPort = 0
      let redirected := opts.Redirects sourceBe receiverBe config.allowedDestPort
      (some (pipeline.outcome datagram metrics) =
          PacketPipeline.outcome ⟨assembler, pipeline⟩ (.ofBytes frame) metrics ↔
        (redirected ∧ ¬ blank) ∨
          (blank ∧ ¬ redirected ∧ ¬ WirePayload pipeline.spec payload)) ∧
      ∀ delivered, pipeline.outcome datagram metrics ≠ .accepted delivered := by
  obtain ⟨frameIndex, frame, ts, present, rfl⟩ :=
    FileReplayBackend.served_describes calls _ datagram served
  obtain ⟨payload, inside, rfl⟩ := FileReplayBackend.init_get present
  refine ⟨payload, inside, ?_⟩
  have fits := short payload (List.mem_of_getElem? inside)
  have constants : (UdpDatagramPipeline.fromConfig config).spec.FromConfig :=
    protocolSpecFromConfig_fromConfig config
  have formed : (UdpDatagramPipeline.fromConfig config).spec.WellFormed :=
    protocolSpecFromConfig_wellFormed config
  have blank := blank_matches source receiver port
  have redirects := built_matches source receiver port opts payload
  obtain ⟨builtOutcome, built, builtDecides⟩ := PacketPipeline.outcome_decides constants formed
    assembler (buildEthFrame_unfragmented payload (opts.frameConfig config)
      (UInt16.ofNat frameIndex)) (buildEthFrame_reads fits _ _)
    (Nat.lt_of_le_of_lt fits (by decide)) metrics
  have servedDecides := UdpDatagramPipeline.outcome_decides constants formed
    (FileReplayBackend.describe_formed (buildEthFrame payload (opts.frameConfig config)
      (UInt16.ofNat frameIndex)) frameIndex ts) metrics
  rw [FileReplayBackend.describe_udpFrame] at servedDecides
  dsimp only
  rw [show (FileReplayBackend.describe _ frameIndex ts).cookie = frameIndex from rfl, built,
    Option.some_inj]
  generalize UdpDatagramPipeline.outcome _ _ metrics = servedOutcome at servedDecides ⊢
  have redirected : opts.Redirects sourceBe receiverBe config.allowedDestPort ↔
      (UdpDatagramPipeline.fromConfig config).matchesPacketFilter
        ((opts.frameConfig config).udpFrame payload) = false := by
    rw [← Bool.not_eq_true, redirects, not_not]
  rw [← blank, redirected]
  exact servedDecides.blank_eq_iff builtDecides

/-! ## A replay with a filter -/

def replayConfig : RxConfig where
  receiverIpv4 := "172.20.11.100"
  allowedSourceIpv4 := "172.20.11.222"
  allowedDestPort := 9999
  protocolExpectedNPrt := 50
  protocolDynamicPrtEnabled := false

def replayPayload : List UInt8 :=
  controlPayload (protocolSpecFromConfig replayConfig) 1 (List.replicate 2042 0)

def replayFrame : List UInt8 :=
  buildEthFrame replayPayload (FileReplayOptions.frameConfig {} replayConfig) 0

private theorem replayPayload_wirePayload :
    WirePayload (protocolSpecFromConfig replayConfig) replayPayload :=
  (controlPayload_wirePayload (protocolSpecFromConfig_fromConfig replayConfig) 1
    List.length_replicate).1

private theorem replayPayload_short : replayPayload.length ≤ 65507 := by
  rw [replayPayload_wirePayload.length]
  decide

private theorem replaySource : DottedQuad replayConfig.allowedSourceIpv4 0xAC140BDE :=
  ⟨['1', '7', '2'], ['2', '0'], ['1', '1'], ['2', '2', '2'],
    .of_all (by simp) rfl (by decide), .of_all (by simp) rfl (by decide),
    .of_all (by simp) rfl (by decide), .of_all (by simp) rfl (by decide), rfl, rfl⟩

private theorem replayReceiver : DottedQuad replayConfig.receiverIpv4 0xAC140B64 :=
  ⟨['1', '7', '2'], ['2', '0'], ['1', '1'], ['1', '0', '0'],
    .of_all (by simp) rfl (by decide), .of_all (by simp) rfl (by decide),
    .of_all (by simp) rfl (by decide), .of_all (by simp) rfl (by decide), rfl, rfl⟩

private theorem replay_served :
    FileReplayBackend.describe replayFrame 0 7 ∈ FileReplayBackend.served [.recvBurst 1 7]
      (FileReplayBackend.init (.ofOptions {}) replayConfig (.ok [.ok replayPayload])).1 :=
  List.mem_cons_self

theorem file_replay_parity_iff_control :
    ∃ payload, ([.ok replayPayload] : List (Except String (List UInt8)))[0]? =
        some (.ok payload) ∧
      let pipeline := UdpDatagramPipeline.fromConfig replayConfig
      let datagram := FileReplayBackend.describe replayFrame 0 7
      let frame := buildEthFrame payload (FileReplayOptions.frameConfig {} replayConfig) 0
      let blank := (0xAC140BDE : UInt32) = 0 ∧ (0xAC140B64 : UInt32) = 0 ∧
        replayConfig.allowedDestPort = 0
      let redirected := FileReplayOptions.Redirects {} 0xAC140BDE 0xAC140B64
        replayConfig.allowedDestPort
      (some (pipeline.outcome datagram {}) =
          PacketPipeline.outcome ⟨{}, pipeline⟩ (.ofBytes frame) {} ↔
        (redirected ∧ ¬ blank) ∨
          (blank ∧ ¬ redirected ∧ ¬ WirePayload pipeline.spec payload)) ∧
      ∀ delivered, pipeline.outcome datagram {} ≠ .accepted delivered :=
  file_replay_parity_iff {} replayConfig [.ok replayPayload]
    (by
      intro payload member
      cases List.mem_singleton.mp member
      exact replayPayload_short)
    _ _ replaySource replayReceiver (by decide) [.recvBurst 1 7] _ replay_served {} {}

/-- Behind a filter a control table is filtered when it is replayed, and its frame is
delivered by the packet pipeline. -/
theorem file_replay_filters_control :
    let pipeline := UdpDatagramPipeline.fromConfig replayConfig
    let datagram := FileReplayBackend.describe replayFrame 0 7
    datagram ∈ FileReplayBackend.served [.recvBurst 1 7]
        (FileReplayBackend.init (.ofOptions {}) replayConfig (.ok [.ok replayPayload])).1 ∧
      WirePayload pipeline.spec replayPayload ∧ replayPayload.length ≤ 65507 ∧
      pipeline.outcome datagram {} = .filtered ∧
      PacketPipeline.outcome ⟨{}, pipeline⟩ (.ofBytes replayFrame) {} =
        some (.accepted ((FileReplayOptions.frameConfig {} replayConfig).udpFrame replayPayload)) := by
  have constants : (UdpDatagramPipeline.fromConfig replayConfig).spec.FromConfig :=
    protocolSpecFromConfig_fromConfig replayConfig
  have formed : (UdpDatagramPipeline.fromConfig replayConfig).spec.WellFormed :=
    protocolSpecFromConfig_wellFormed replayConfig
  refine ⟨replay_served, replayPayload_wirePayload, replayPayload_short, ?_, ?_⟩
  · have blank := blank_matches replaySource replayReceiver (by decide)
    have unmatched := Bool.of_not_eq_true (blank.not.mpr (by decide))
    exact (UdpDatagramPipeline.outcome_decides constants formed
      (FileReplayBackend.describe_formed replayFrame 0 7) {}).eq_filtered unmatched
  · have matching := (built_matches replaySource replayReceiver (by decide) {} replayPayload).mpr
      (by decide)
    obtain ⟨outcome, built, decides⟩ := PacketPipeline.outcome_decides constants formed {}
      (buildEthFrame_unfragmented replayPayload (FileReplayOptions.frameConfig {} replayConfig) 0)
      (buildEthFrame_reads replayPayload_short _ _)
      (Nat.lt_of_le_of_lt replayPayload_short (by decide)) {}
    rw [replayFrame, built, decides.eq_accepted matching replayPayload_wirePayload]

end RxTech
