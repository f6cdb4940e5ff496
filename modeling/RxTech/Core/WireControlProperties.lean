import RxTech.Core.OwnerLoopProperties
import RxTech.Core.RejectionProperties
import RxTech.Core.Staging
import RxTech.Protocol.WireGrammar

/-!
# Control tables from the wire

The parser leaves the PRT count of a control table at 0, so no control table that
comes from the wire ever binds a context.
-/

set_option autoImplicit false

namespace RxTech

/-- A control packet that the parser has read announces no PRT count. -/
theorem PacketParser.parse_unannounced {spec : ProtocolSpec} (constants : spec.FromConfig)
    {frame : UdpPayloadFrame} (valid : ValidControl (PacketParser.parse spec frame)) :
    (PacketParser.parse spec frame).prt = 0 := by
  obtain ⟨isValid, kind⟩ := valid
  have outcome := PacketParser.parse_outcome constants frame
  cases outcome with
  | short invalid | unknown invalid => cases isValid.symm.trans invalid
  | control long magic view => exact view.prt
  | data long magic view => cases kind.symm.trans view.kind

private theorem makeControlSnapshot_unannounced (spec : ProtocolSpec) {parsed : ParsedPacketView}
    (unannounced : parsed.prt = 0) :
    (makeControlSnapshot parsed spec).bindSource ≠ .control := by
  have illegal : ¬ (parsed.prt ≥ 1 ∧ parsed.prt ≤ maxSupportedNPrt spec) := by omega
  simp only [makeControlSnapshot]
  rw [if_neg illegal, ite_self]
  exact BindSource.noConfusion

private theorem selectOpenSnapshot_uncontrolled (cpiId : UInt16) (spec : ProtocolSpec)
    {staged : ControlSnapshot} (uncontrolled : staged.bindSource ≠ .control) :
    (selectOpenSnapshot cpiId spec staged).bindSource ≠ .control := by
  unfold selectOpenSnapshot
  split
  · exact BindSource.noConfusion
  split
  · exact uncontrolled
  · exact BindSource.noConfusion

private theorem mergeControlSnapshot_uncontrolled {ctx : CpiContext} {candidate : ControlSnapshot}
    (bound : ctx.control.bindSource ≠ .control) (uncontrolled : candidate.bindSource ≠ .control) :
    (mergeControlSnapshot ctx candidate).control.bindSource ≠ .control := by
  unfold mergeControlSnapshot
  simp only
  split_ifs <;> first
    | exact bound
    | (rw [bindControlSnapshot_control]; exact uncontrolled)

namespace Windows

/-- No control table has bound a context or waits to bind one. -/
structure Uncontrolled (w : Windows) : Prop where
  staged : w.currentControl.bindSource ≠ .control
  active : ∀ ctx, w.active = some ctx → ctx.control.bindSource ≠ .control
  previous : ∀ ctx, w.previous = some ctx → ctx.control.bindSource ≠ .control
  logged : ∀ event ∈ w.log, event.ctx.control.bindSource ≠ .control

variable {spec : ProtocolSpec} {w : Windows}

private theorem uncontrolled_append {log events : List WindowEvent}
    (logged : ∀ event ∈ log, event.ctx.control.bindSource ≠ .control)
    (own : ∀ event ∈ events, event.ctx.control.bindSource ≠ .control) :
    ∀ event ∈ log ++ events, event.ctx.control.bindSource ≠ .control := by
  intro event member
  rcases List.mem_append.mp member with old | new
  · exact logged event old
  · exact own event new

theorem Uncontrolled.holds (uncontrolled : w.Uncontrolled) {ctx : CpiContext}
    (holds : w.Holds ctx) : ctx.control.bindSource ≠ .control := by
  rcases holds with active | previous
  · exact uncontrolled.active ctx active
  · exact uncontrolled.previous ctx previous

theorem Uncontrolled.carry {before after : Windows} (uncontrolled : before.Uncontrolled)
    (carries : Carries before after) : after.Uncontrolled := by
  have same {ctx old : CpiContext} (holds : before.Holds old) (label : ctx.label = old.label) :
      ctx.control.bindSource ≠ .control := by
    have control : ctx.control = old.control := congrArg (fun label => label.2.2) label
    rw [control]
    exact uncontrolled.holds holds
  refine ⟨?_, fun ctx active => ?_, fun ctx previous => ?_, ?_⟩
  · rw [carries.control]
    exact uncontrolled.staged
  · obtain ⟨old, holds, label⟩ := carries.holds (.inl active)
    exact same holds label
  · obtain ⟨old, holds, label⟩ := carries.holds (.inr previous)
    exact same holds label
  · obtain ⟨events, log, about⟩ := carries.events
    rw [log]
    refine uncontrolled_append uncontrolled.logged fun event member => ?_
    obtain ⟨old, holds, label⟩ := (about event member).window
    exact same holds label

private theorem move_uncontrolled (formed : spec.WellFormed) {op : Op}
    {start before after : Windows}
    (unannounced : ∀ parsed, op = .control parsed → ValidControl parsed → parsed.prt = 0)
    (sound : before.Sound spec) (move : Move spec op start before after)
    (uncontrolled : before.Uncontrolled) : after.Uncontrolled := by
  have binds := move.binds formed sound
  obtain ⟨staged, active, previous, logged⟩ := id uncontrolled
  cases binds with
  | carried carries => exact uncontrolled.carry carries
  | staged parsed control valid =>
      exact ⟨makeControlSnapshot_unannounced spec (unannounced parsed control valid), active,
        previous, logged⟩
  | reboundActive ctx parsed control valid isActive =>
      have merged := mergeControlSnapshot_uncontrolled (active ctx isActive)
        (makeControlSnapshot_unannounced spec (unannounced parsed control valid))
      refine ⟨merged, ?_, previous, uncontrolled_append logged (List.forall_mem_singleton.mpr merged)⟩
      rintro _ ⟨⟩
      exact merged
  | reboundPrevious ctx parsed control valid isPrevious =>
      have merged := mergeControlSnapshot_uncontrolled (previous ctx isPrevious)
        (makeControlSnapshot_unannounced spec (unannounced parsed control valid))
      refine ⟨staged, active, ?_, uncontrolled_append logged (List.forall_mem_singleton.mpr merged)⟩
      rintro _ ⟨⟩
      exact merged
  | opened index parsed packet data opens =>
      have selected := selectOpenSnapshot_uncontrolled parsed.cpi spec staged
      have own : (before.openedCtx spec parsed.cpi index).control.bindSource ≠ .control := by
        rw [openedCtx_control]
        exact selected
      refine ⟨selected, ?_, previous, uncontrolled_append logged (List.forall_mem_singleton.mpr own)⟩
      rintro _ ⟨⟩
      exact own

private theorem fresh_uncontrolled (pipeline : Option OutputPipeline)
    (consumerSchedule clock : List Nat) :
    (System.fresh pipeline consumerSchedule clock).windows.Uncontrolled where
  staged := BindSource.noConfusion
  active _ impossible := nomatch impossible
  previous _ impossible := nomatch impossible
  logged _ member := nomatch member

end Windows

/-- Control tables come from the wire. -/
def Op.FromWire (spec : ProtocolSpec) : Op → Prop
  | .control parsed => ∃ frame, parsed = PacketParser.parse spec frame
  | .data parsed packet => ValidData parsed packet
  | .timeout _ | .drainRecycle | .consumer | .shutdown => True

theorem Op.FromWire.valid {spec : ProtocolSpec} {op : Op} (fromWire : op.FromWire spec) :
    op.Valid := by
  cases op with
  | data => exact fromWire
  | control | timeout | drainRecycle | consumer | shutdown => trivial

/-- Whatever else the coordinator is asked for, control tables from the wire bind
nothing. -/
theorem System.run_uncontrolled {spec : ProtocolSpec} (formed : spec.WellFormed)
    (constants : spec.FromConfig) {ops : List Op} (fromWire : ∀ op ∈ ops, op.FromWire spec)
    {s : System} (owned : s.Owned) (sound : s.windows.Sound spec)
    (uncontrolled : s.windows.Uncontrolled) :
    (Machine.run (System.step spec) ops s).windows.Uncontrolled := by
  have run := Windows.run_preserves formed
    (fun op start before after _ (met : op.FromWire spec) sound move holds => by
      refine Windows.move_uncontrolled formed ?_ sound move holds
      rintro parsed rfl control
      obtain ⟨frame, rfl⟩ := met
      exact PacketParser.parse_unannounced constants control)
    owned sound uncontrolled (fun op member => (fromWire op member).valid)
    (Machine.along_of_labels fromWire)
  exact run.2

theorem Op.Delivered.fromWire {spec : ProtocolSpec} {op : Op} (delivered : op.Delivered spec) :
    op.FromWire spec := by
  cases delivered with
  | control frame => exact ⟨frame, rfl⟩
  | data frame packet checked => exact checked.data
  | timeout | drainRecycle => trivial

private theorem uncontrolled_kept {spec : ProtocolSpec} (formed : spec.WellFormed)
    (constants : spec.FromConfig) :
    Kept spec fun s => s.Owned ∧ s.windows.Sound spec ∧ s.windows.Uncontrolled where
  step s op delivered holds := by
    obtain ⟨owned, sound, uncontrolled⟩ := holds
    have fromWire : ∀ other ∈ [op], other.FromWire spec :=
      List.forall_mem_singleton.mpr delivered.fromWire
    exact ⟨System.run_owned spec [op] owned,
      Windows.run_sound formed owned sound fun other member => (fromWire other member).valid,
      System.run_uncontrolled formed constants fromWire owned sound uncontrolled⟩
  status s metrics runStatus runError backpressure holds :=
    ⟨holds.1.congr rfl rfl rfl rfl rfl rfl backpressure, holds.2⟩

/-- However it runs, the owner loop never holds or records a context that a control
table has bound. -/
theorem owner_loop_never_binds_control (config : RxConfig)
    (allowedSourceIpv4Be receiverIpv4Be : Nat) (consumerSchedule clock : List Nat)
    (received : List Received) :
    (OwnerLoop.mainLoop (.ofConfig config allowedSourceIpv4Be receiverIpv4Be) received
      (OwnerLoop.start config consumerSchedule clock)).system.windows.Uncontrolled := by
  have formed := protocolSpecFromConfig_wellFormed config
  have constants := protocolSpecFromConfig_fromConfig config
  have start := System.ofConfig_owned config consumerSchedule clock
  have sound : (System.ofConfig config consumerSchedule clock).windows.Sound
      (protocolSpecFromConfig config) := Windows.fresh_sound none consumerSchedule clock
  have uncontrolled : (System.ofConfig config consumerSchedule clock).windows.Uncontrolled :=
    Windows.fresh_uncontrolled none consumerSchedule clock
  have kept : Kept (UdpDatagramPipeline.ofConfig config allowedSourceIpv4Be receiverIpv4Be).spec
    _ := uncontrolled_kept formed constants
  obtain ⟨-, -, never⟩ := @OwnerLoop.mainLoop_kept _ _ kept received
    (OwnerLoop.start config consumerSchedule clock) ⟨start, sound, uncontrolled⟩
  exact never

/-! ## The first packet after a control table -/

/-- A new coordinator after one control packet. -/
structure Announced (spec : ProtocolSpec) (s : System) : Prop where
  owned : s.Owned
  sound : s.windows.Sound spec
  uncontrolled : s.windows.Uncontrolled
  inactive : s.activeCtxIndex = none
  nothingClosed : s.closedRing = .fresh
  nothingLent : s.unreturned = []

theorem Announced.start (config : RxConfig) (consumerSchedule clock : List Nat)
    (frame : UdpPayloadFrame) :
    let spec := protocolSpecFromConfig config
    Announced spec ((System.ofConfig config consumerSchedule clock).processControlPacket spec
      (PacketParser.parse spec frame)) := by
  intro spec
  have formed := protocolSpecFromConfig_wellFormed config
  have constants := protocolSpecFromConfig_fromConfig config
  have owned := System.ofConfig_owned config consumerSchedule clock
  have sound : (System.ofConfig config consumerSchedule clock).windows.Sound spec :=
    Windows.fresh_sound none consumerSchedule clock
  have uncontrolled : (System.ofConfig config consumerSchedule clock).windows.Uncontrolled :=
    Windows.fresh_uncontrolled none consumerSchedule clock
  have fromWire : ∀ op ∈ [Op.control (PacketParser.parse spec frame)], op.FromWire spec :=
    List.forall_mem_singleton.mpr ⟨frame, rfl⟩
  refine ⟨System.run_owned spec [.control _] owned,
    Windows.run_sound formed owned sound fun op member => (fromWire op member).valid,
    System.run_uncontrolled formed constants fromWire owned sound uncontrolled, ?_, ?_, ?_⟩
  all_goals
    simp only [System.processControlPacket]
    split <;> rfl

/-- The first data packet is stored exactly if a slot can hold it. -/
theorem Announced.accepts_iff {spec : ProtocolSpec} (formed : spec.WellFormed) {s : System}
    (announced : Announced spec s) {parsed : ParsedPacketView} {packet : InterpretedPacketView}
    (checked : Checked spec parsed packet) :
    (s.processDataPacket spec parsed packet).2 = true ↔ s.windows.Storable spec parsed := by
  have unknown : s.closedRing.contains parsed.cpi = false := by
    rw [announced.nothingClosed]
    rfl
  have free : s.unreturned.length < 15 := by
    rw [announced.nothingLent]
    decide
  exact System.processDataPacket_first formed announced.owned announced.sound announced.inactive
    unknown free checked

theorem Announced.uncontrolled_after {spec : ProtocolSpec} (formed : spec.WellFormed)
    (constants : spec.FromConfig) {s : System} (announced : Announced spec s)
    {parsed : ParsedPacketView} {packet : InterpretedPacketView} (data : ValidData parsed packet)
    {ctx : CpiContext}
    (active : (s.processDataPacket spec parsed packet).1.activeCtx = some ctx) :
    ctx.control.bindSource ≠ .control := by
  have fromWire : ∀ op ∈ [Op.data parsed packet], op.FromWire spec :=
    List.forall_mem_singleton.mpr data
  exact (System.run_uncontrolled formed constants fromWire announced.owned announced.sound
    announced.uncontrolled).active ctx active

/-- No data packet fits into a slot of a context. -/
def NothingStorable (config : RxConfig) : Prop :=
  config.protocolUdpPacketSize ≤ 16 ∨
    (2064 < config.protocolUdpPacketSize ∧ config.protocolUdpPacketSize < 2 ^ 32) ∨
    ((protocolSpecFromConfig config).packetsPerChannel = 1 ∧ config.protocolUdpPacketSize < 1920)

/-- A control payload from the wire such that the first data packet of `cpi` that is
accepted after it leaves the active context bound by it, with `nPrt` PRTs. -/
def BindsFromWire (pipeline : UdpDatagramPipeline) (s : System) (cpi : UInt16) (nPrt : Nat) :
    Prop :=
  ∃ control, pipeline.Delivers control ∧ control.parsed.kind = .controlTable ∧
    ∀ data, pipeline.Delivers data → data.parsed.kind = .dataPacket → data.parsed.cpi = cpi →
      let result := (s.processControlPacket pipeline.spec control.parsed).processDataPacket
        pipeline.spec data.parsed data.interpreted
      result.2 = true → ∃ ctx, result.1.activeCtx = some ctx ∧
        ctx.control.bindSource = .control ∧ ctx.control.nPrt = nPrt

private theorem udpPacketSize_eq (config : RxConfig) :
    (protocolSpecFromConfig config).udpPacketSize = config.protocolUdpPacketSize := rfl

private theorem control_deliverable (config : RxConfig) (allowedSourceIpv4Be receiverIpv4Be : Nat)
    (small : config.protocolUdpPacketSize < 2 ^ 32) :
    let pipeline := UdpDatagramPipeline.ofConfig config allowedSourceIpv4Be receiverIpv4Be
    ∃ control, pipeline.Delivers control ∧ control.parsed.kind = .controlTable := by
  intro pipeline
  have constants : pipeline.spec.FromConfig := protocolSpecFromConfig_fromConfig config
  have formed : pipeline.spec.WellFormed := protocolSpecFromConfig_wellFormed config
  have sized : (List.replicate (10 + (config.protocolUdpPacketSize - 16)) (0 : UInt8)).length =
      10 + (pipeline.spec.udpPacketSize - 16) := List.length_replicate
  obtain ⟨wire, -⟩ := controlPayload_wirePayload constants 0 sized
  have length := wire.length
  have size : pipeline.spec.udpPacketSize = config.protocolUdpPacketSize := rfl
  obtain ⟨control, delivers, carried⟩ :=
    UdpDatagramPipeline.delivers_wirePayload constants formed wire (by omega)
  have decodes := delivers.passed.decodes constants
  rw [carried] at decodes
  exact ⟨control, delivers, (decodes.control (LittleEndian.field_encode constants.controlFits _)).1⟩

/-- Unless nothing fits into a slot, there is a first data packet for every CPI that
fits. -/
theorem storable_deliverable (config : RxConfig) (allowedSourceIpv4Be receiverIpv4Be : Nat)
    (small : config.protocolUdpPacketSize < 2 ^ 32) (storable : ¬ NothingStorable config)
    (cpi : UInt16) (w : Windows) :
    let pipeline := UdpDatagramPipeline.ofConfig config allowedSourceIpv4Be receiverIpv4Be
    ∃ data, pipeline.Delivers data ∧ data.parsed.kind = .dataPacket ∧ data.parsed.cpi = cpi ∧
      w.Storable pipeline.spec data.parsed := by
  intro pipeline
  have constants : pipeline.spec.FromConfig := protocolSpecFromConfig_fromConfig config
  have formed : pipeline.spec.WellFormed := protocolSpecFromConfig_wellFormed config
  have size : pipeline.spec.udpPacketSize = config.protocolUdpPacketSize := rfl
  have packets : (protocolSpecFromConfig config).packetsPerChannel =
    pipeline.spec.packetsPerChannel := rfl
  simp only [NothingStorable, packets, not_or, not_and, Nat.not_le, Nat.not_lt] at storable
  obtain ⟨long, short, room⟩ := storable
  let body : List UInt8 := List.replicate (config.protocolUdpPacketSize - 16) 0
  have bodyLen : body.length = config.protocolUdpPacketSize - 16 := List.length_replicate
  have sendable : Sendable pipeline.spec 0 1 1 0 body := by
    refine ⟨formed.channels_pos, by decide, Nat.le_refl 1, formed.packets_pos, .inl rfl, bodyLen, ?_⟩
    intro single
    refine ⟨by have := room single.symm; omega, fun byte member => ?_⟩
    exact List.eq_of_mem_replicate (List.mem_of_mem_drop member)
  have wire := sendable.wirePayload constants formed cpi
  have length := wire.length
  obtain ⟨data, delivers, carried⟩ :=
    UdpDatagramPipeline.delivers_wirePayload constants formed wire (by omega)
  have decodes := delivers.passed.decodes constants
  rw [carried] at decodes
  obtain ⟨kind, cpiIs, -, onePrt, -⟩ := sendable.decoded constants formed cpi decodes
  have checks := validate_dataChecks kind delivers.passed.validated
  have payloadLen := checks.payloadLen
  rw [constants.dataSize, size] at payloadLen
  have fits : 2064 < config.protocolUdpPacketSize → False := fun large =>
    absurd small (Nat.not_lt.mpr (short large))
  refine ⟨data, delivers, kind, cpiIs, ?_, ?_, ?_, ?_, ?_⟩
  · omega
  · rw [onePrt]
    decide
  · omega
  · omega
  · have stride : kCpiSlotStride = 2048 := rfl
    omega

private theorem nothing_accepted (config : RxConfig) (allowedSourceIpv4Be receiverIpv4Be : Nat)
    (nothing : NothingStorable config) {w : Windows} {data : ProcessedPacket}
    (delivers : (UdpDatagramPipeline.ofConfig config allowedSourceIpv4Be receiverIpv4Be).Delivers
      data) (kind : data.parsed.kind = .dataPacket) :
    ¬ w.Storable (protocolSpecFromConfig config) data.parsed := by
  intro storable
  have constants := protocolSpecFromConfig_fromConfig config
  have passed := delivers.passed
  have checks : DataChecks (protocolSpecFromConfig config) data.parsed :=
    validate_dataChecks kind passed.validated
  have payloadLen := checks.payloadLen
  rw [constants.dataSize, udpPacketSize_eq] at payloadLen
  have positive := storable.len_pos
  have bounded := storable.len_le
  have stride : kCpiSlotStride = 2048 := rfl
  rcases nothing with empty | ⟨large, -⟩ | ⟨single, short⟩
  · omega
  · omega
  · obtain ⟨bytes, payload⟩ := Option.isSome_iff_exists.mp checks.payload
    have accepted := passed.accepted
    rw [passed.interpreted] at accepted
    have last : data.parsed.packetIndex = (protocolSpecFromConfig config).packetsPerChannel := by
      have := checks.packetIndex_pos
      have := checks.packetIndex_le
      omega
    obtain ⟨padded, -⟩ := (interpret_data checks kind payload).mp accepted last
    rw [constants.lastPacket] at padded
    omega

variable {config : RxConfig} {allowedSourceIpv4Be receiverIpv4Be : Nat}
  {consumerSchedule clock : List Nat} {cpi : UInt16} {nPrt : Nat}

theorem Announced.of_wire (consumerSchedule clock : List Nat) {control : ProcessedPacket}
    (delivers : (UdpDatagramPipeline.ofConfig config allowedSourceIpv4Be receiverIpv4Be).Delivers
      control) :
    Announced (protocolSpecFromConfig config)
      ((System.ofConfig config consumerSchedule clock).processControlPacket
        (protocolSpecFromConfig config) control.parsed) := by
  rw [delivers.passed.parsed]
  exact .start config consumerSchedule clock control.udpFrame

private theorem nothingStorable_of_binds
    (binds : BindsFromWire (.ofConfig config allowedSourceIpv4Be receiverIpv4Be)
      (System.ofConfig config consumerSchedule clock) cpi nPrt) : NothingStorable config := by
  have formed := protocolSpecFromConfig_wellFormed config
  have constants := protocolSpecFromConfig_fromConfig config
  obtain ⟨control, delivers, kind, binds⟩ := binds
  by_contra storable
  have small : config.protocolUdpPacketSize < 2 ^ 32 := by
    obtain ⟨wire, fits⟩ := delivers.wirePayload constants formed
    have length := wire.length
    have size : (UdpDatagramPipeline.ofConfig config allowedSourceIpv4Be
      receiverIpv4Be).spec.udpPacketSize = config.protocolUdpPacketSize := rfl
    omega
  obtain ⟨data, dataDelivers, dataKind, same, fits⟩ := storable_deliverable config
    allowedSourceIpv4Be receiverIpv4Be small storable cpi _
  have announced := Announced.of_wire consumerSchedule clock delivers
  have checked := dataDelivers.passed.checked dataKind
  have accepted := (announced.accepts_iff formed checked).mpr fits
  obtain ⟨ctx, active, source, -⟩ := binds data dataDelivers dataKind same accepted
  exact announced.uncontrolled_after formed constants checked.data active source

private theorem binds_of_nothingStorable (nothing : NothingStorable config) :
    BindsFromWire (.ofConfig config allowedSourceIpv4Be receiverIpv4Be)
      (System.ofConfig config consumerSchedule clock) cpi nPrt := by
  have formed := protocolSpecFromConfig_wellFormed config
  have small : config.protocolUdpPacketSize < 2 ^ 32 := by
    rcases nothing with empty | ⟨-, small⟩ | ⟨-, short⟩ <;> omega
  obtain ⟨control, delivers, kind⟩ := control_deliverable config allowedSourceIpv4Be
    receiverIpv4Be small
  refine ⟨control, delivers, kind, fun data dataDelivers dataKind _ accepted => ?_⟩
  have checked := dataDelivers.passed.checked dataKind
  have announced := Announced.of_wire consumerSchedule clock delivers
  have fits := (announced.accepts_iff formed checked).mp accepted
  exact absurd fits (nothing_accepted config _ _ nothing dataDelivers dataKind)

/-- A control table from the wire never binds a context: the first data packet after
it is bound otherwise, unless no data packet can be accepted at all. -/
theorem dynamic_prt_from_wire_iff (config : RxConfig) (allowedSourceIpv4Be receiverIpv4Be : Nat)
    (consumerSchedule clock : List Nat) (cpi : UInt16) (nPrt : Nat) :
    BindsFromWire (.ofConfig config allowedSourceIpv4Be receiverIpv4Be)
        (System.ofConfig config consumerSchedule clock) cpi nPrt ↔
      NothingStorable config :=
  ⟨nothingStorable_of_binds, binds_of_nothingStorable⟩

/-- With the default configuration no control payload announces 20 PRTs for CPI 1. -/
theorem default_config_never_binds :
    let config : RxConfig := {}
    config.protocolDynamicPrtEnabled = true ∧ 17 ≤ config.protocolUdpPacketSize ∧
      20 ≤ min config.protocolMaxNPrt 64 ∧
      ¬ BindsFromWire (.ofConfig config 0 0) (System.ofConfig config [] []) 1 20 := by
  refine ⟨rfl, by decide, by decide, fun binds => ?_⟩
  have nothing := nothingStorable_of_binds binds
  revert nothing
  unfold NothingStorable
  decide

end RxTech
