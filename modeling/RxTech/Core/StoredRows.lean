import RxTech.Core.RejectionProperties
import RxTech.Core.TimeoutCut
import RxTech.Core.VerificationProperties
import RxTech.Sidecar.FinalSummary
import RxTech.Core.OwnerLoopProperties

/-!
# Stored packets and the index stream

Every packet that a context has stored is a row of the index stream, over whole runs of
the owner loop.
-/

set_option autoImplicit false

namespace RxTech

namespace Windows

variable {spec : ProtocolSpec} {w : Windows} {parsed : ParsedPacketView}
  {packet : InterpretedPacketView}

/-- No packet is stored that was not stored before. -/
def StoresNothing (w next : Windows) : Prop :=
  ∀ stored ctx, .stored stored ctx ∈ next.log → .stored stored ctx ∈ w.log

theorem StoresNothing.trans {middle next : Windows} (first : StoresNothing w middle)
    (second : StoresNothing middle next) : StoresNothing w next :=
  fun stored ctx member => first stored ctx (second stored ctx member)

private theorem storesNothing_of_log {next : Windows} (same : next.log = w.log) :
    StoresNothing w next := by
  intro stored ctx member
  rwa [same] at member

private theorem storesNothing_of_event {next : Windows} {event : WindowEvent}
    (log : next.log = w.log ++ [event]) (other : event.storedBirth = none) :
    StoresNothing w next := by
  intro stored ctx member
  rw [log] at member
  rcases List.mem_append.mp member with old | new
  · exact old
  · rw [← List.mem_singleton.mp new] at other
    cases other

private theorem close_storesNothing (w : Windows) (ctx : CpiContext) (trigger : Nat)
    (closing : Closing) :
    StoresNothing w (w.close ctx trigger closing) := by
  unfold close
  cases CpiFinalizer.tryFinalize ctx trigger closing.sealTsc with
  | none => exact storesNothing_of_event rfl rfl
  | some result =>
      cases closing.delivery with
      | detached => exact storesNothing_of_event rfl rfl
      | pushed | dropped => exact storesNothing_of_event rfl rfl

private theorem closePrevious_storesNothing (w : Windows) (trigger : Nat) (closing : Closing) :
    StoresNothing w (w.closePrevious trigger closing) := by
  unfold closePrevious
  cases w.previous with
  | none => exact storesNothing_of_log rfl
  | some ctx => exact w.close_storesNothing ctx trigger closing

/-- The window that was opened for the packet is the active one. -/
theorem openAndWrite_rejected {acquired : Option PoolIndex} {closing : Closing}
    (rejected : (w.openAndWrite spec parsed packet acquired closing).2 = false) :
    StoresNothing w (w.openAndWrite spec parsed packet acquired closing).1 := by
  cases acquired with
  | none => exact storesNothing_of_log rfl
  | some index =>
      have opened : StoresNothing w (w.openWindow spec packet.cpi index) :=
        storesNothing_of_event rfl rfl
      have active : (w.openWindow spec packet.cpi index).active =
        some (w.openedCtx spec packet.cpi index) := rfl
      exact opened.trans (storesNothing_of_log (writeActive_intact active rejected).log)

private theorem admitPacket_rejected {ctx : CpiContext} (active : w.active = some ctx)
    {choices : Choices}
    (rejected : (w.admitPacket spec ctx parsed packet choices).2 = false) :
    StoresNothing w (w.admitPacket spec ctx parsed packet choices).1 := by
  revert rejected
  unfold admitPacket
  cases CpiAdmission.judge parsed ctx.header.cpiId w.closedRing with
  | writeActive =>
      intro rejected
      exact storesNothing_of_log (writeActive_intact active rejected).log
  | triggerCpiSwitch =>
      intro rejected
      have closed := w.closePrevious_storesNothing triggerCpiSwitch choices.previousClosing
      exact closed.trans (openAndWrite_rejected rejected)
  | lateToClosed | drop =>
      intro rejected
      exact storesNothing_of_log (writeLate_intact rejected).log

/-- A rejected packet is not stored, whatever else it does to the windows. -/
theorem processData_rejected {choices : Choices}
    (rejected : (w.processData spec parsed packet choices).2 = false) :
    StoresNothing w (w.processData spec parsed packet choices).1 := by
  revert rejected
  unfold processData
  cases active : w.active with
  | some ctx => exact admitPacket_rejected active
  | none =>
      simp only
      split
      · exact fun _ => storesNothing_of_log rfl
      · cases choices.acquired with
        | none => exact fun _ => storesNothing_of_log rfl
        | some index =>
            intro rejected
            have opened : StoresNothing w (w.openWindow spec packet.cpi index) :=
              storesNothing_of_event rfl rfl
            exact opened.trans (admitPacket_rejected rfl rejected)

/-- A packet that was not stored before is the data packet that the operation is about. -/
def StoresOnly (op : Op) (w next : Windows) : Prop :=
  ∀ stored ctx, .stored stored ctx ∈ next.log →
    .stored stored ctx ∈ w.log ∨ ∃ interpreted, op = .data stored interpreted

theorem StoresOnly.move (formed : spec.WellFormed) {op : Op} {start before after : Windows}
    (sound : before.Sound spec) (move : Move spec op start before after)
    (only : StoresOnly op w before) : StoresOnly op w after := by
  intro stored ctx member
  rcases move.stored_origin formed sound member with old | new
  · exact only stored ctx old
  · exact .inr new

end Windows

/-! ## One operation -/

/-- What is known of a coordinator and of the contexts that its outputs were made from. -/
structure System.Vouched (spec : ProtocolSpec) (s : System) : Prop where
  owned : s.Owned
  sound : s.windows.Sound spec
  archives : s.windows.Archives spec
  reads : s.windows.ReadsOff spec

namespace System

variable {spec : ProtocolSpec} {s : System}

private theorem ofConfig_vouched (config : RxConfig) (consumerSchedule clock : List Nat) :
    (System.ofConfig config consumerSchedule clock).Vouched (protocolSpecFromConfig config) where
  owned := ofConfig_owned config consumerSchedule clock
  sound := Windows.fresh_sound none consumerSchedule clock
  archives _ _ _ member := nomatch member
  reads _ _ _ member := nomatch member

theorem Vouched.step (vouched : s.Vouched spec) (formed : spec.WellFormed) {op : Op}
    (valid : op.Valid) : (s.step spec op).Vouched spec := by
  obtain ⟨sound, archives, reads⟩ := Windows.op_preserves formed
    (fun _ _ _ sound move (holds : Windows.Archives spec _ ∧ Windows.ReadsOff spec _) =>
      ⟨Windows.Archives.move formed sound move holds.1,
        Windows.ReadsOff.move formed sound move holds.2⟩)
    vouched.owned vouched.sound ⟨vouched.archives, vouched.reads⟩ valid
  exact ⟨run_owned spec [op] vouched.owned, sound, archives, reads⟩

private theorem vouched_kept (formed : spec.WellFormed) : Kept spec (Vouched spec) where
  step _ _ delivered vouched := vouched.step formed delivered.valid
  status _ _ _ _ backpressure vouched :=
    { vouched with owned := vouched.owned.congr rfl rfl rfl rfl rfl rfl backpressure }

/-- What an operation stores is the data packet it is about. -/
theorem Vouched.step_stores (vouched : s.Vouched spec) (formed : spec.WellFormed) {op : Op}
    (valid : op.Valid) : Windows.StoresOnly op s.windows (s.step spec op).windows := by
  have start : Windows.StoresOnly op s.windows s.windows := fun _ _ old => .inl old
  have stepped := Windows.op_preserves formed
    (fun _ _ _ sound move holds => Windows.StoresOnly.move formed sound move holds)
    vouched.owned vouched.sound start valid
  exact stepped.2

/-- A data packet that is not accepted is not stored. -/
theorem Vouched.rejected (vouched : s.Vouched spec) {parsed : ParsedPacketView}
    {packet : InterpretedPacketView}
    (rejected : (s.processDataPacket spec parsed packet).2 = false) :
    Windows.StoresNothing s.windows (s.processDataPacket spec parsed packet).1.windows := by
  obtain ⟨choices, failures, refines, -⟩ :=
    processDataPacket_refines spec vouched.owned parsed packet
  rw [refines.windows]
  exact Windows.processData_rejected (refines.verdict.symm.trans rejected)

end System

/-! ## The index stream -/

namespace Windows

/-- Every stored packet has a row, as a data packet. -/
def Indexed (rows : List IndexRow) (w : Windows) : Prop :=
  ∀ stored ctx, .stored stored ctx ∈ w.log →
    ∃ row ∈ rows, row.packetKind = .dataPacket ∧ row.cpi = stored.cpi ∧ row.coord = stored.coord

theorem Indexed.grow {rows others : List IndexRow} {w next : Windows} (indexed : w.Indexed rows)
    (more : rows ⊆ others) (nothing : StoresNothing w next) : next.Indexed others := by
  intro stored ctx member
  obtain ⟨row, here, is⟩ := indexed stored ctx (nothing stored ctx member)
  exact ⟨row, more here, is⟩

theorem StoresOnly.nothing {op : Op} {w next : Windows} (only : StoresOnly op w next)
    (other : ∀ parsed packet, op ≠ .data parsed packet) : StoresNothing w next := by
  intro stored ctx member
  rcases only stored ctx member with old | ⟨interpreted, data⟩
  · exact old
  · exact absurd data (other stored interpreted)

end Windows

namespace OwnerLoop

variable {pipeline : UdpDatagramPipeline} {spec : ProtocolSpec} {loop : OwnerLoop}

/-- What carries a run: the coordinator is vouched for, and the index stream has what its
contexts stored. -/
structure Indexes (spec : ProtocolSpec) (loop : OwnerLoop) : Prop where
  vouched : loop.system.Vouched spec
  indexed : loop.system.windows.Indexed loop.artifacts.indexStream

private theorem start_indexes (config : RxConfig) (consumerSchedule clock : List Nat) :
    (start config consumerSchedule clock).Indexes (protocolSpecFromConfig config) where
  vouched := System.ofConfig_vouched config consumerSchedule clock
  indexed _ _ member := nomatch member

theorem Indexes.step (indexes : loop.Indexes spec) (formed : spec.WellFormed) (op : Op)
    (valid : op.Valid) (other : ∀ parsed packet, op ≠ .data parsed packet) :
    Indexes spec { loop with system := loop.system.step spec op } where
  vouched := indexes.vouched.step formed valid
  indexed := indexes.indexed.grow (List.Subset.refl _)
    ((indexes.vouched.step_stores formed valid).nothing other)

theorem Indexes.capture (indexes : loop.Indexes spec) (processed : ProcessedPacket) :
    (loop.capture processed).Indexes spec where
  vouched := indexes.vouched
  indexed := indexes.indexed.grow (List.subset_append_left _ _) fun _ _ member => member

/-- The row that is captured is the one of the packet that was stored. -/
theorem Indexes.onDataPacket (indexes : loop.Indexes pipeline.spec)
    (formed : pipeline.spec.WellFormed) {processed : ProcessedPacket}
    (passed : pipeline.Passed processed) (kind : processed.interpreted.kind = .dataPacket) :
    (loop.onPacket pipeline.spec processed).Indexes pipeline.spec := by
  have checked := passed.checked (passed.kind.symm.trans kind)
  have vouched := onPacket_kept (System.vouched_kept formed) passed indexes.vouched
  refine ⟨vouched, ?_⟩
  have stores : Windows.StoresOnly (.data processed.parsed processed.interpreted) loop.system.windows
      (loop.onDataPacket pipeline.spec processed).1.system.windows :=
    indexes.vouched.step_stores formed checked.data
  simp only [onPacket, kind]
  cases accepted : (loop.onDataPacket pipeline.spec processed).2 with
  | false =>
      have rejected : Windows.StoresNothing loop.system.windows
          (loop.onDataPacket pipeline.spec processed).1.system.windows :=
        indexes.vouched.rejected accepted
      exact indexes.indexed.grow (List.Subset.refl _) rejected
  | true =>
      intro stored ctx member
      rcases stores stored ctx member with old | ⟨interpreted, data⟩
      · obtain ⟨row, here, is⟩ := indexes.indexed stored ctx old
        exact ⟨row, List.mem_append_left _ here, is⟩
      · cases data
        have valid := checked.accepted
        rw [checked.interpreted] at valid
        obtain ⟨cpi, prt, channel, packetIndex⟩ := interpret_fields checked.kind valid
        rw [← checked.interpreted] at cpi prt channel packetIndex
        refine ⟨processed.indexRow, List.mem_append_right _ (List.mem_singleton.mpr rfl), kind, cpi, ?_⟩
        exact congr (congrArg₂ SlotCoord.mk prt channel) packetIndex

private theorem indexes_maintained (formed : pipeline.spec.WellFormed) :
    Maintained pipeline (Indexes pipeline.spec) where
  packet loop processed passed indexes := by
    cases kind : processed.interpreted.kind with
    | dataPacket => exact indexes.onDataPacket formed passed kind
    | unknown =>
        simp only [onPacket, kind]
        exact indexes.capture processed
    | controlTable =>
        have stepped := indexes.step formed (.control processed.parsed) trivial (by simp)
        have captured := stepped.capture processed
        simp only [onPacket, kind]
        exact captured
  drained _ indexes := indexes.step formed .drainRecycle trivial (by simp)
  checked _ nowNs indexes := indexes.step formed (.timeout nowNs) trivial (by simp)
  status _ _ _ _ _ backpressure indexes :=
    ⟨(System.vouched_kept formed).status _ _ _ _ backpressure indexes.vouched, indexes.indexed⟩

theorem Indexes.interfere (indexes : loop.Indexes spec) :
    Indexes spec { loop with system := loop.system.interfere } := by
  obtain ⟨vouched, indexed⟩ := indexes
  obtain ⟨joined, windows⟩ := (System.interfere_settles vouched.owned.linked).advances vouched.owned
  refine ⟨⟨joined.owned, ?_, ?_, ?_⟩, ?_⟩
  · exact windows ▸ vouched.sound
  · exact windows ▸ vouched.archives
  · exact windows ▸ vouched.reads
  · exact windows ▸ indexed

theorem Indexes.shutdown (indexes : loop.Indexes pipeline.spec)
    (formed : pipeline.spec.WellFormed) : loop.shutdown.Indexes pipeline.spec := by
  have finalized := indexes.step formed .shutdown Op.shutdown_valid (by simp)
  have degraded := (indexes_maintained formed).degradeRunStatus finalized
  exact degraded.interfere.step formed .drainRecycle trivial (by simp)

/-- After every run the outputs are vouched for and stored packets are rows. -/
theorem run_indexes (config : RxConfig) (allowedSourceIpv4Be receiverIpv4Be : Nat)
    (consumerSchedule clock : List Nat) (received : List Received) :
    (run config allowedSourceIpv4Be receiverIpv4Be consumerSchedule clock received).Indexes
      (protocolSpecFromConfig config) := by
  have formed := protocolSpecFromConfig_wellFormed config
  let pipeline := UdpDatagramPipeline.ofConfig config allowedSourceIpv4Be receiverIpv4Be
  have maintained : Maintained pipeline (Indexes pipeline.spec) := indexes_maintained formed
  exact (maintained.mainLoop received (start_indexes config consumerSchedule clock)).shutdown formed

end OwnerLoop

end RxTech
