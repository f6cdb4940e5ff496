import RxTech.Core.WindowMoves
import RxTech.Core.StepRefinement
import RxTech.Cpi.Filling

/-!
# Streams in fixed mode

What the windows do with one CPI after the other: a CPI is taken up to the
packet that fills it or ends its wave, makes one output, and the rest of it is
rejected.
-/

set_option autoImplicit false

namespace RxTech

/-- Fixed mode with an expected number of PRTs that a context has room for. -/
structure ProtocolSpec.FixedMode (spec : ProtocolSpec) : Prop extends spec.WellFormed where
  static : spec.dynamicPrtEnabled = false
  expected_pos : 1 ≤ spec.expectedNPrt
  expected_le : spec.expectedNPrt ≤ kCpiPrtMax

/-- What an output was made from, and what became of it. -/
structure Production where
  output : CpiOutput
  ctx : CpiContext
  delivery : Delivery

def WindowEvent.production : WindowEvent → Option Production
  | .produced output ctx delivery => some ⟨output, ctx, delivery⟩
  | .opened _ | .stored _ _ | .rebound _ | .discarded _ => none

/-- The outputs in the order in which they were made. -/
def productions (log : List WindowEvent) : List Production := log.filterMap WindowEvent.production

private theorem productions_append (first second : List WindowEvent) :
    productions (first ++ second) = productions first ++ productions second :=
  List.filterMap_append

theorem mem_productions {log : List WindowEvent} {production : Production}
    (member : production ∈ productions log) :
    .produced production.output production.ctx production.delivery ∈ log := by
  obtain ⟨event, logged, is⟩ := List.mem_filterMap.mp member
  cases event with
  | produced output ctx delivery =>
      cases is
      exact logged
  | opened | stored | rebound | discarded => cases is

private theorem deliveries_eq_countP (delivery : Delivery) (log : List WindowEvent) :
    deliveries delivery log =
      (productions log).countP fun production => production.delivery == delivery := by
  rw [productions, List.countP_filterMap, deliveries]
  refine List.countP_congr fun event _ => ?_
  cases event <;> simp [WindowEvent.delivery, WindowEvent.production]

namespace Windows

/-- Between two CPIs, after `closed`. -/
structure Idle (closed : List UInt16) (w : Windows) : Prop where
  active : w.active = none
  previous : w.previous = none
  ring : RecentClosedRing.Holds w.closedRing closed

/-- While the packets of `cpi` arrive, after `closed`: none yet, or `packets`. -/
inductive Taking (spec : ProtocolSpec) (closed : List UInt16) (cpi : UInt16) :
    List ParsedPacketView → Windows → Prop where
  | waiting {w : Windows} (idle : w.Idle closed) (unknown : cpi ∉ closed.recent 8) :
      Taking spec closed cpi [] w
  | filling {w : Windows} {packets : List ParsedPacketView} (ctx : CpiContext)
      (active : w.active = some ctx) (previous : w.previous = none)
      (ring : RecentClosedRing.Holds w.closedRing closed)
      (filling : Filling spec cpi spec.expectedNPrt packets ctx) : Taking spec closed cpi packets w

/-- The CPI ended with the last of `packets`, and made one output. -/
structure Ended (spec : ProtocolSpec) (closed : List UInt16) (cpi : UInt16)
    (packets : List ParsedPacketView) (produced : List Production) (delivery : Delivery)
    (w : Windows) : Prop where
  idle : w.Idle (closed ++ [cpi])
  made : ∃ output ctx, productions w.log = produced ++ [⟨output, ctx, delivery⟩] ∧
    Reports spec cpi spec.expectedNPrt packets ctx output ∧
    (output.decision = .completeOk ↔ slotTotal spec spec.expectedNPrt ≤ packets.length)

variable {spec : ProtocolSpec} {closed : List UInt16} {cpi : UInt16}
  {packets : List ParsedPacketView} {parsed : ParsedPacketView} {packet : InterpretedPacketView}

private theorem numbered_reports {w : Windows} {ctx : CpiContext} {output : CpiOutput} {nPrt : Nat}
    (reports : Reports spec cpi nPrt packets ctx output) (delivery : Delivery) :
    Reports spec cpi nPrt packets ctx (w.numbered output delivery) ∧
      (w.numbered output delivery).decision = output.decision := by
  cases delivery with
  | detached => exact ⟨reports, rfl⟩
  | pushed | dropped =>
      exact ⟨⟨reports.cpiId, reports.received, reports.missing, reports.once, reports.ready,
        reports.reception⟩, rfl⟩

/-- A window that closes on a write is complete exactly if it is full. -/
theorem decide?_closing (readyPrtCount : Nat) {bits : Nat}
    (closes : Bits.hasAny bits System.finalizeMask = true) :
    ∃ decision, CpiFinalizer.decide? readyPrtCount (bits &&& System.finalizeMask) = some decision ∧
      (decision = .completeOk ↔ Bits.hasAny bits triggerFullReady = true) := by
  refine ⟨_, decide?_of_mask readyPrtCount closes, ?_⟩
  cases Bits.hasAny bits triggerFullReady with
  | true => simp
  | false =>
      simp only [Bool.false_eq_true, if_false, iff_false]
      split <;> simp

/-- Whether `parsed` ends the CPI that has received `packets`. -/
def endsCpi (spec : ProtocolSpec) (packets : List ParsedPacketView) (parsed : ParsedPacketView) :
    Bool :=
  decide (slotTotal spec spec.expectedNPrt ≤ packets.length + 1) ||
    parsed.endsWave spec spec.expectedNPrt

/-- What the next packet of a CPI leads to. -/
structure Takes (spec : ProtocolSpec) (closed : List UInt16) (cpi : UInt16)
    (packets : List ParsedPacketView) (parsed : ParsedPacketView) (w : Windows)
    (delivery : Delivery) (result : Windows × Bool) : Prop where
  accepted : result.2 = true
  verdicts : result.1.verdicts = w.verdicts
  ends : endsCpi spec packets parsed = true →
    Ended spec closed cpi (packets ++ [parsed]) (productions w.log) delivery result.1
  goesOn : endsCpi spec packets parsed = false →
    Taking spec closed cpi (packets ++ [parsed]) result.1 ∧
      productions result.1.log = productions w.log

private theorem writeActive_taking (fixed : spec.FixedMode) {w : Windows} {ctx : CpiContext}
    (previous : w.previous = none) (ring : RecentClosedRing.Holds w.closedRing closed)
    (filling : Filling spec cpi spec.expectedNPrt packets ctx) (valid : ValidData parsed packet)
    (fits : parsed.Fits spec spec.expectedNPrt)
    (absent : parsed.coord ∉ packets.map ParsedPacketView.coord) (closing : Closing) :
    Takes spec closed cpi packets parsed w closing.delivery
      (w.writeActive spec ctx parsed packet closing) := by
  obtain ⟨bytes, payload⟩ := Option.isSome_iff_exists.mp fits.payload
  have formed := fixed.toWellFormed
  have takes := filling.takes formed fixed.expected_le fits payload absent
  have took := filling.toTook.receive formed takes
  have full := filling.receive_fullReady formed fixed.expected_pos takes
  have closes : Bits.hasAny (ctx.receive spec parsed bytes).header.triggerBits
      System.finalizeMask = endsCpi spec packets parsed := by
    rw [System.finalizeMask, Bits.hasAny_mask_or, full,
      filling.receive_waveEnd formed fixed.expected_pos takes, endsCpi]
  rw [writeActive_takes w valid takes closing]
  simp only [closes]
  cases ends : endsCpi spec packets parsed with
  | false =>
      obtain ⟨room, calm⟩ : ¬ slotTotal spec spec.expectedNPrt ≤ packets.length + 1 ∧
          parsed.endsWave spec spec.expectedNPrt = false := by
        simpa [endsCpi] using ends
      refine ⟨rfl, rfl, fun impossible => Bool.noConfusion (ends.symm.trans impossible),
        fun _ => ⟨?_, ?_⟩⟩
      · exact .filling _ rfl previous ring
          (filling.receive formed fixed.expected_pos takes (Nat.lt_of_not_le room) calm)
      · exact (productions_append ..).trans (List.append_nil _)
  | true =>
      obtain ⟨decision, decides, complete⟩ :=
        decide?_closing (ctx.receive spec parsed bytes).header.readyPrtCount (closes.trans ends)
      obtain ⟨nextOutputId, result⟩ := closeActive_produces
        (w := { w with
          active := some (ctx.receive spec parsed bytes)
          log := w.log ++ [WindowEvent.stored parsed (ctx.receive spec parsed bytes)] })
        rfl took.active decides closing
      obtain ⟨reports, decided⟩ := numbered_reports (w := w) (took.reports
        ((ctx.receive spec parsed bytes).header.triggerBits &&& System.finalizeMask)
        closing.sealTsc decision) closing.delivery
      simp only [if_true]
      rw [result]
      refine ⟨rfl, rfl, fun _ => ⟨⟨rfl, previous, took.cpiId ▸ ring.push _ _ _⟩, _, _, ?_, reports, ?_⟩,
        fun impossible => Bool.noConfusion (ends.symm.trans impossible)⟩
      · rw [productions_append, productions_append]
        exact congrArg (· ++ _) (List.append_nil _)
      · rw [decided, List.length_append, List.length_singleton]
        exact complete.trans (by rw [full, decide_eq_true_eq])

private theorem openedCtx_filling (fixed : spec.FixedMode) (w : Windows) (cpi : UInt16)
    (index : PoolIndex) :
    Filling spec cpi spec.expectedNPrt [] (w.openedCtx spec cpi index) := by
  have formed := fixed.toWellFormed
  have identity := w.openedCtx_identity spec cpi index
  have snapshot : selectOpenSnapshot cpi spec w.currentControl = makeFixedSnapshot cpi spec := by
    rw [selectOpenSnapshot, if_pos fixed.static]
  have triggers : (w.openedCtx spec cpi index).header.triggerBits = 0 :=
    bindControlSnapshot_triggerBits ..
  have count : (makeFixedSnapshot cpi spec).nPrt = spec.expectedNPrt := by
    rw [makeFixedSnapshot]
    exact (u16_min_kCpiPrtMax _).trans (Nat.min_eq_left fixed.expected_le)
  exact
    { cpiId := congrArg Prod.fst identity
      active := congrArg (fun identity => identity.2.2.2) identity
      reception := bindControlSnapshot_reception (.reset formed ..) _
      bound := by
        rw [openedCtx, snapshot]
        exact bindControlSnapshot_bound (makeFixedSnapshot_madeFrom formed cpi) _
      count := by rw [openedCtx, bindControlSnapshot_control, snapshot, count]
      once := bindControlSnapshot_duplicateCount ..
      notFull := by rw [triggers, Bits.hasAny_zero]
      notEnded := by rw [triggers, Bits.hasAny_zero]
      calm := by simp }

theorem Taking.processData {w : Windows} (taking : Taking spec closed cpi packets w)
    (fixed : spec.FixedMode) (valid : ValidData parsed packet) (named : parsed.cpi = cpi)
    (fits : parsed.Fits spec spec.expectedNPrt)
    (absent : parsed.coord ∉ packets.map ParsedPacketView.coord) {choices : Choices}
    (acquired : w.active = none → choices.acquired.isSome = true) :
    Takes spec closed cpi packets parsed w choices.activeClosing.delivery
      (w.processData spec parsed packet choices) := by
  subst named
  cases taking with
  | waiting idle unknown =>
      obtain ⟨index, opened⟩ := Option.isSome_iff_exists.mp (acquired idle.active)
      have unknown : w.closedRing.contains parsed.cpi = false := by
        rw [← Bool.not_eq_true, idle.ring.contains_iff]
        exact unknown
      rw [processData_idle valid idle.active unknown]
      simp only [openAndWrite, opened, valid.cpi]
      have taken := writeActive_taking fixed (w := w.openWindow spec parsed.cpi index) idle.previous
        idle.ring (openedCtx_filling fixed w parsed.cpi index) valid fits absent
        choices.activeClosing
      have same : productions (w.openWindow spec parsed.cpi index).log = productions w.log :=
        (productions_append ..).trans (List.append_nil _)
      exact ⟨taken.accepted, taken.verdicts, same ▸ taken.ends, same ▸ taken.goesOn⟩
  | filling ctx active previous ring filling =>
      have judged : CpiAdmission.judge parsed ctx.header.cpiId w.closedRing = .writeActive := by
        simp [CpiAdmission.judge, valid.valid, filling.cpiId]
      simp only [Windows.processData, active, admitPacket, judged]
      exact writeActive_taking fixed previous ring filling valid fits absent choices.activeClosing

theorem Ended.judged {produced : List Production} {delivery : Delivery} {w : Windows}
    (ended : Ended spec closed cpi packets produced delivery w) (verdicts : List Bool) :
    Ended spec closed cpi packets produced delivery { w with verdicts } :=
  ⟨⟨ended.idle.active, ended.idle.previous, ended.idle.ring⟩, ended.made⟩

theorem Taking.judged {w : Windows} (taking : Taking spec closed cpi packets w)
    (verdicts : List Bool) : Taking spec closed cpi packets { w with verdicts } := by
  cases taking with
  | waiting idle unknown => exact .waiting ⟨idle.active, idle.previous, idle.ring⟩ unknown
  | filling ctx active previous ring filling => exact .filling ctx active previous ring filling

theorem Taking.previous {w : Windows} (taking : Taking spec closed cpi packets w) :
    w.previous = none := by
  cases taking with
  | waiting idle unknown => exact idle.previous
  | filling ctx active previous ring filling => exact previous

private theorem step_data (w : Windows) (parsed : ParsedPacketView) (packet : InterpretedPacketView)
    (choices : Choices) : w.step spec (.data parsed packet) choices =
      { (w.processData spec parsed packet choices).1 with
        verdicts := (w.processData spec parsed packet choices).1.verdicts ++
          [(w.processData spec parsed packet choices).2] } := rfl

theorem Idle.processData_ended {w : Windows} (idle : w.Idle closed)
    (ended : parsed.cpi ∈ closed.recent 8) (choices : Choices) :
    w.processData spec parsed packet choices = (w, false) := by
  have known := idle.ring.contains_iff.mpr ended
  simp only [processData, idle.active, known, if_true]

end Windows

/-! ## Quiet operations -/

/-- Traffic on the rings, and a timeout check where none is configured. -/
def Op.Quiet (spec : ProtocolSpec) : Op → Prop
  | .drainRecycle | .consumer => True
  | .timeout _ => spec.cpiTimeoutNs = 0
  | .control _ | .data _ _ | .shutdown => False

namespace Windows

variable {spec : ProtocolSpec} {closed : List UInt16} {cpi : UInt16}
  {packets : List ParsedPacketView} {op : Op}

private theorem step_quiet (quiet : op.Quiet spec) {w : Windows} (previous : w.previous = none)
    (bound : ∀ ctx, w.active = some ctx → Bound spec ctx) (choices : Choices) :
    w.step spec op choices = w := by
  cases op with
  | control parsed | data parsed packet | shutdown => cases quiet
  | drainRecycle | consumer => rfl
  | timeout nowNs =>
      simp only [step, checkPreviousTimeout, previous]
      cases active : w.active with
      | none => simp only [checkActiveTimeout, active]
      | some ctx =>
          have off : ctx.control.timeoutNs = 0 := (bound ctx active).madeFrom.timeoutNs.trans quiet
          simp only [checkActiveTimeout, active, System.timedOut, off]
          simp

theorem Idle.step_quiet {w : Windows} (idle : w.Idle closed) (quiet : op.Quiet spec)
    (choices : Choices) : w.step spec op choices = w := by
  refine Windows.step_quiet quiet idle.previous (fun ctx active => ?_) choices
  cases idle.active.symm.trans active

theorem Taking.step_quiet {w : Windows} (taking : Taking spec closed cpi packets w)
    (quiet : op.Quiet spec) (choices : Choices) : w.step spec op choices = w := by
  cases taking with
  | waiting idle unknown => exact idle.step_quiet quiet choices
  | filling ctx active previous ring filling =>
      refine Windows.step_quiet quiet previous (fun other holds => ?_) choices
      obtain rfl : ctx = other := Option.some.inj (active.symm.trans holds)
      exact filling.bound

end Windows

/-! ## One CPI -/

/-- An operation while CPI `cpi` arrives: a packet of it, or a quiet one. -/
inductive Op.Belongs (spec : ProtocolSpec) (cpi : UInt16) : Op → Prop where
  | quiet {op : Op} (quiet : op.Quiet spec) : Belongs spec cpi op
  | packet {parsed : ParsedPacketView} {packet : InterpretedPacketView}
      (valid : ValidData parsed packet) (named : parsed.cpi = cpi)
      (fits : parsed.Fits spec spec.expectedNPrt) : Belongs spec cpi (.data parsed packet)

def Op.packet? : Op → Option ParsedPacketView
  | .data parsed _ => some parsed
  | .control _ | .timeout _ | .drainRecycle | .consumer | .shutdown => none

def packetsOf (ops : List Op) : List ParsedPacketView := ops.filterMap Op.packet?

private theorem packetsOf_data (parsed : ParsedPacketView) (packet : InterpretedPacketView)
    (rest : List Op) : packetsOf (.data parsed packet :: rest) = parsed :: packetsOf rest := rfl

theorem packetsOf_append (first second : List Op) :
    packetsOf (first ++ second) = packetsOf first ++ packetsOf second :=
  List.filterMap_append

private theorem packetsOf_quiet {spec : ProtocolSpec} {op : Op} (quiet : op.Quiet spec)
    (rest : List Op) :
    packetsOf (op :: rest) = packetsOf rest := by
  cases op with
  | data parsed packet => cases quiet
  | control parsed | timeout nowNs | drainRecycle | consumer | shutdown => rfl

/-- One CPI of a stream: each of its packets once, in any order, among quiet
operations. -/
structure CpiStream (spec : ProtocolSpec) (cpi : UInt16) (ops : List Op) : Prop where
  belongs : ∀ op ∈ ops, op.Belongs spec cpi
  coords : ((packetsOf ops).map ParsedPacketView.coord).Perm (slotCoords spec spec.expectedNPrt)

theorem CpiStream.fits {spec : ProtocolSpec} {cpi : UInt16} {ops : List Op}
    (stream : CpiStream spec cpi ops) {packet : ParsedPacketView}
    (member : packet ∈ packetsOf ops) : packet.Fits spec spec.expectedNPrt := by
  obtain ⟨op, inside, named⟩ := List.mem_filterMap.mp member
  cases stream.belongs op inside with
  | quiet quiet =>
      have none : packetsOf [op] = [] := packetsOf_quiet quiet []
      simp [packetsOf, named] at none
  | packet valid cpi fits => exact Option.some.inj named ▸ fits

theorem CpiStream.total {spec : ProtocolSpec} {cpi : UInt16} {ops : List Op}
    (stream : CpiStream spec cpi ops) :
    (packetsOf ops).length = slotTotal spec spec.expectedNPrt := by
  have same := stream.coords.length_eq
  rwa [List.length_map, length_slotCoords] at same

/-- The packets up to the first that ends the wave. -/
def untilWaveEnd (spec : ProtocolSpec) : List ParsedPacketView → List ParsedPacketView
  | [] => []
  | packet :: rest =>
      if packet.endsWave spec spec.expectedNPrt then [packet] else packet :: untilWaveEnd spec rest

namespace System

variable {spec : ProtocolSpec} {closed : List UInt16} {cpi : UInt16}
  {packets : List ParsedPacketView}

private theorem run_capacity (ops : List Op) {s : System} (owned : s.Owned) :
    (Machine.run (System.step spec) ops s).outputCapacity = s.outputCapacity := by
  induction ops generalizing s with
  | nil => rfl
  | cons op rest ih =>
      obtain ⟨choices, failures, refines, -⟩ := step_refines spec op owned
      exact (ih refines.owned).trans refines.capacity

/-- Once a CPI has ended, the rest of it is rejected. -/
theorem run_ended {ops : List Op} (belongs : ∀ op ∈ ops, op.Belongs spec cpi) {s : System}
    (owned : s.Owned) (idle : s.windows.Idle closed) (ended : cpi ∈ closed.recent 8) :
    (Machine.run (System.step spec) ops s).windows =
      { s.windows with
        verdicts := s.verdicts ++ List.replicate (packetsOf ops).length false } := by
  induction ops generalizing s with
  | nil => simp [packetsOf, windows]
  | cons op rest ih =>
      have restBelongs : ∀ op ∈ rest, op.Belongs spec cpi := fun other member =>
        belongs other (List.mem_cons_of_mem op member)
      rw [Machine.run_cons]
      cases belongs op List.mem_cons_self with
      | quiet quiet =>
          obtain ⟨choices, failures, refines, -⟩ := step_refines spec op owned
          have same := refines.windows.trans (idle.step_quiet quiet choices)
          have idle' : (s.step spec op).windows.Idle closed := same ▸ idle
          rw [ih restBelongs refines.owned idle', same]
          have verdicts : (s.step spec op).verdicts = s.verdicts := congrArg Windows.verdicts same
          rw [verdicts, packetsOf_quiet quiet]
      | @packet parsed packet valid named fits =>
          obtain ⟨choices, failures, refines, -⟩ := step_data_refines spec owned parsed packet
          have rejected : s.windows.processData spec parsed packet choices = (s.windows, false) :=
            idle.processData_ended (named ▸ ended) choices
          have same : (s.step spec (.data parsed packet)).windows =
              { s.windows with verdicts := s.verdicts ++ [false] } := by
            rw [refines.windows, Windows.step_data, rejected]
            rfl
          have idle' : (s.step spec (.data parsed packet)).windows.Idle closed := by
            rw [same]
            exact ⟨idle.active, idle.previous, idle.ring⟩
          rw [ih restBelongs refines.owned idle', same]
          have verdicts : (s.step spec (.data parsed packet)).verdicts = s.verdicts ++ [false] :=
            congrArg Windows.verdicts same
          rw [verdicts, packetsOf_data, List.length_cons, List.replicate_succ, List.append_assoc]
          rfl

private theorem runError_of_run {ops : List Op} {s : System} (owned : s.Owned)
    (fine : (Machine.run (System.step spec) ops s).runError = "") : s.runError = "" := by
  induction ops generalizing s with
  | nil => exact fine
  | cons op rest ih =>
      obtain ⟨choices, failures, refines, -⟩ := step_refines spec op owned
      have error := refines.error
      rw [ih refines.owned fine] at error
      split at error
      · exact error.symm
      · exact absurd error (by decide)

/-- A step of a run that ends without an error finds a slot. -/
theorem failures_eq_zero {op : Op} {rest : List Op} {s : System} {w : Windows} {failures : Nat}
    (refines : Refines s (s.step spec op) w failures)
    (fine : (Machine.run (System.step spec) (op :: rest) s).runError = "") : failures = 0 := by
  have error := refines.error
  rw [runError_of_run refines.owned fine] at error
  by_contra failed
  rw [if_neg failed] at error
  exact absurd error (by decide)

/-- What a CPI leads to: one output, made from the packets up to the one that
ends it, and a verdict on each packet. -/
structure CpiResult (spec : ProtocolSpec) (closed : List UInt16) (cpi : UInt16)
    (packets received : List ParsedPacketView) (s next : System) : Prop where
  owned : next.Owned
  capacity : next.outputCapacity = s.outputCapacity
  ended : ∃ delivery, Windows.Ended spec closed cpi (packets ++ untilWaveEnd spec received)
      (productions s.windowLog) delivery next.windows ∧
    (s.unreturned.length < s.outputCapacity → delivery = .pushed)
  verdicts : next.verdicts = s.verdicts ++
    List.replicate (untilWaveEnd spec received).length true ++
    List.replicate (received.length - (untilWaveEnd spec received).length) false

/-- What the next packet of a CPI does to the coordinator. -/
structure TakesNext (spec : ProtocolSpec) (closed : List UInt16) (cpi : UInt16)
    (packets : List ParsedPacketView) (parsed : ParsedPacketView) (delivery : Delivery)
    (s next : System) : Prop where
  owned : next.Owned
  capacity : next.outputCapacity = s.outputCapacity
  verdicts : next.verdicts = s.verdicts ++ [true]
  room : s.unreturned.length < s.outputCapacity → delivery = .pushed
  ends : Windows.endsCpi spec packets parsed = true →
    Windows.Ended spec closed cpi (packets ++ [parsed]) (productions s.windowLog) delivery
      next.windows
  goesOn : Windows.endsCpi spec packets parsed = false →
    next.windows.Taking spec closed cpi (packets ++ [parsed]) ∧
      productions next.windowLog = productions s.windowLog ∧
      next.unreturned.length ≤ s.unreturned.length

private theorem step_takes (fixed : spec.FixedMode) {s : System} (owned : s.Owned)
    (taking : s.windows.Taking spec closed cpi packets) {parsed : ParsedPacketView}
    {packet : InterpretedPacketView} (valid : ValidData parsed packet) (named : parsed.cpi = cpi)
    (fits : parsed.Fits spec spec.expectedNPrt)
    (absent : parsed.coord ∉ packets.map ParsedPacketView.coord) {rest : List Op}
    (opens : s.unreturned.length < 15 ∨
      (Machine.run (System.step spec) (.data parsed packet :: rest) s).runError = "") :
    ∃ delivery, TakesNext spec closed cpi packets parsed delivery s
      (s.step spec (.data parsed packet)) := by
  obtain ⟨choices, failures, refines, answered⟩ := step_data_refines spec owned parsed packet
  have acquired : choices.acquired.isSome = true := by
    rcases opens with few | fine
    · exact answered.opens few
    · exact (answered.acquired (failures_eq_zero refines fine)).1
  have taken := taking.processData fixed valid named fits absent fun _ => acquired
  have windows : (s.step spec (.data parsed packet)).windows =
      { (s.windows.processData spec parsed packet choices).1 with
        verdicts := s.verdicts ++ [true] } := by
    rw [refines.windows, Windows.step_data, taken.accepted, taken.verdicts]
    rfl
  refine ⟨choices.activeClosing.delivery, refines.owned, refines.capacity,
    congrArg Windows.verdicts windows, fun vacant => ?_, fun ends => ?_, fun goesOn => ?_⟩
  · refine answered.room ?_ vacant
    have previous := taking.previous
    simpa [System.windows, previousCtx] using previous
  · rw [windows]
    exact (taken.ends ends).judged _
  · obtain ⟨taking, same⟩ := taken.goesOn goesOn
    have log : productions (s.step spec (.data parsed packet)).windowLog =
        productions s.windowLog :=
      (congrArg (fun w : Windows => productions w.log) windows).trans same
    have lent := refines.lent
    rw [deliveries_eq_countP, deliveries_eq_countP, log] at lent
    refine ⟨?_, log, by omega⟩
    rw [windows]
    exact taking.judged _

/-- The packet that ends a CPI is the last one, or ends the wave. -/
theorem untilWaveEnd_last {parsed : ParsedPacketView} {rest : List ParsedPacketView}
    (ends : Windows.endsCpi spec packets parsed = true)
    (total : (packets ++ parsed :: rest).length = slotTotal spec spec.expectedNPrt) :
    untilWaveEnd spec (parsed :: rest) = [parsed] := by
  rw [Windows.endsCpi, Bool.or_eq_true, decide_eq_true_eq] at ends
  rw [untilWaveEnd]
  split
  · rfl
  · rename_i calm
    have full := ends.resolve_right calm
    have last : rest.length = 0 := by
      simp only [List.length_append, List.length_cons] at total
      omega
    rw [List.length_eq_zero_iff.mp last, untilWaveEnd]

theorem Refines.unreturned_le {s next : System} {w : Windows} {failures : Nat}
    (refines : Refines s next w failures) (same : next.windows = s.windows) :
    next.unreturned.length ≤ s.unreturned.length := by
  have log : next.windowLog = s.windowLog := congrArg Windows.log same
  have lent := refines.lent
  rw [log] at lent
  omega

theorem CpiResult.quiet {received : List ParsedPacketView} {s middle next : System}
    {w : Windows} {failures : Nat} (refines : Refines s middle w failures)
    (same : middle.windows = s.windows)
    (done : CpiResult spec closed cpi packets received middle next) :
    CpiResult spec closed cpi packets received s next := by
  have log : middle.windowLog = s.windowLog := congrArg Windows.log same
  have verdicts : middle.verdicts = s.verdicts := congrArg Windows.verdicts same
  have fewer := refines.unreturned_le same
  obtain ⟨delivery, ended, pushed⟩ := done.ended
  rw [log] at ended
  refine ⟨done.owned, done.capacity.trans refines.capacity,
    ⟨delivery, ended, fun room => pushed ?_⟩, verdicts ▸ done.verdicts⟩
  rw [refines.capacity]
  omega

/-- The packet that ends a CPI, and the rest of the CPI after it. -/
theorem TakesNext.ended {parsed : ParsedPacketView} {delivery : Delivery} {s next : System}
    (taken : TakesNext spec closed cpi packets parsed delivery s next)
    (ends : Windows.endsCpi spec packets parsed = true) {rest : List Op}
    (belongs : ∀ op ∈ rest, op.Belongs spec cpi)
    (total : (packets ++ parsed :: packetsOf rest).length = slotTotal spec spec.expectedNPrt) :
    CpiResult spec closed cpi packets (parsed :: packetsOf rest) s
      (Machine.run (System.step spec) rest next) := by
  have ended := taken.ends ends
  have done := run_ended belongs taken.owned ended.idle
    (List.mem_recent_concat_self (by decide) closed cpi)
  have single := untilWaveEnd_last ends total
  refine ⟨run_owned spec rest taken.owned,
    (run_capacity rest taken.owned).trans taken.capacity, ⟨delivery, ?_, taken.room⟩, ?_⟩
  · rw [done, single]
    exact ended.judged _
  · have judged := congrArg Windows.verdicts done
    rw [single]
    exact judged.trans (congrArg (· ++ _) taken.verdicts)

/-- A packet that does not end its CPI, and what the rest of the CPI leads to. -/
theorem TakesNext.goesOn_result {parsed : ParsedPacketView} {delivery : Delivery}
    {received : List ParsedPacketView} {s middle next : System}
    (taken : TakesNext spec closed cpi packets parsed delivery s middle)
    (goesOn : Windows.endsCpi spec packets parsed = false)
    (done : CpiResult spec closed cpi (packets ++ [parsed]) received middle next) :
    CpiResult spec closed cpi packets (parsed :: received) s next := by
  obtain ⟨-, log, fewer⟩ := taken.goesOn goesOn
  obtain ⟨delivery, ended, pushed⟩ := done.ended
  rw [Windows.endsCpi, Bool.or_eq_false_iff] at goesOn
  have grows : untilWaveEnd spec (parsed :: received) = parsed :: untilWaveEnd spec received := by
    rw [untilWaveEnd, if_neg (by simp [goesOn.2])]
  refine ⟨done.owned, done.capacity.trans taken.capacity,
    ⟨delivery, ?_, fun vacant => pushed ?_⟩, ?_⟩
  · rw [grows, ← log]
    rw [List.append_assoc] at ended
    exact ended
  · rw [taken.capacity]
    omega
  · rw [done.verdicts, taken.verdicts, grows, List.length_cons, List.length_cons,
      List.replicate_succ, Nat.add_sub_add_right]
    simp

private theorem run_taking (fixed : spec.FixedMode) {ops : List Op}
    (belongs : ∀ op ∈ ops, op.Belongs spec cpi) {s : System} (owned : s.Owned)
    (taking : s.windows.Taking spec closed cpi packets)
    (distinct : ((packets ++ packetsOf ops).map ParsedPacketView.coord).Nodup)
    (total : (packets ++ packetsOf ops).length = slotTotal spec spec.expectedNPrt)
    (short : packets.length < slotTotal spec spec.expectedNPrt)
    (opens : s.unreturned.length < 15 ∨ (Machine.run (System.step spec) ops s).runError = "") :
    CpiResult spec closed cpi packets (packetsOf ops) s (Machine.run (System.step spec) ops s) := by
  induction ops generalizing s packets with
  | nil =>
      simp [packetsOf] at total
      omega
  | cons op rest ih =>
      have restBelongs : ∀ op ∈ rest, op.Belongs spec cpi := fun other member =>
        belongs other (List.mem_cons_of_mem op member)
      cases belongs op List.mem_cons_self with
      | quiet quiet =>
          obtain ⟨choices, failures, refines, -⟩ := step_refines spec op owned
          have same := refines.windows.trans (taking.step_quiet quiet choices)
          have fewer := refines.unreturned_le same
          rw [packetsOf_quiet quiet] at distinct total ⊢
          exact .quiet refines same (ih restBelongs refines.owned (same ▸ taking) distinct total
            short (opens.imp_left fun few => by omega))
      | @packet parsed packet valid named fits =>
          rw [packetsOf_data] at distinct total ⊢
          have absent : parsed.coord ∉ packets.map ParsedPacketView.coord := by
            rw [List.map_append, List.map_cons] at distinct
            exact fun member => List.disjoint_of_nodup_append distinct member List.mem_cons_self
          obtain ⟨delivery, taken⟩ := step_takes fixed owned taking valid named fits absent opens
          rw [Machine.run_cons]
          cases ends : Windows.endsCpi spec packets parsed with
          | true => exact taken.ended ends restBelongs total
          | false =>
              obtain ⟨goesOn, -, fewer⟩ := taken.goesOn ends
              have room : packets.length + 1 < slotTotal spec spec.expectedNPrt := by
                rw [Windows.endsCpi, Bool.or_eq_false_iff, decide_eq_false_iff_not] at ends
                omega
              have split : packets ++ parsed :: packetsOf rest =
                  packets ++ [parsed] ++ packetsOf rest := by simp
              rw [split] at distinct total
              exact taken.goesOn_result ends (ih restBelongs taken.owned goesOn distinct total
                (by rwa [List.length_append, List.length_singleton])
                (opens.imp_left fun few => by omega))

private theorem run_cpi (fixed : spec.FixedMode) {ops : List Op} (stream : CpiStream spec cpi ops)
    {s : System} (owned : s.Owned) (idle : s.windows.Idle closed) (unknown : cpi ∉ closed.recent 8)
    (opens : s.unreturned.length < 15 ∨ (Machine.run (System.step spec) ops s).runError = "") :
    CpiResult spec closed cpi [] (packetsOf ops) s (Machine.run (System.step spec) ops s) := by
  exact run_taking fixed stream.belongs owned (.waiting idle unknown)
    (stream.coords.nodup_iff.mpr (nodup_slotCoords ..)) stream.total
    (slotTotal_pos fixed.toWellFormed fixed.expected_pos) opens

end System

/-! ## Consecutive CPIs -/

/-- The `count` CPIs from `start` on; the ids wrap around. -/
def consecutive (start : UInt16) (count : Nat) : List UInt16 :=
  (List.range count).map fun index => start + UInt16.ofNat index

private theorem consecutive_succ (start : UInt16) (count : Nat) :
    consecutive start (count + 1) = consecutive start count ++ [start + UInt16.ofNat count] := by
  simp [consecutive, List.range_succ]

private theorem next_unknown (start : UInt16) (count : Nat) :
    start + UInt16.ofNat count ∉ (consecutive start count).recent 8 := by
  rw [consecutive, List.recent_map]
  intro member
  obtain ⟨index, recent, same⟩ := List.mem_map.mp member
  obtain ⟨back, inside, rfl⟩ := List.mem_drop_iff_getElem.mp recent
  simp only [List.length_range, List.getElem_range] at inside same ⊢
  have offsets := congrArg UInt16.toNat ((UInt16.add_right_inj start).mp same)
  simp only [UInt16.toNat_ofNat'] at offsets
  omega

/-- What a CPI of a stream leads to: an output, made from the packets up to the
one that ends it. -/
structure CpiOutcome (spec : ProtocolSpec) (cpi : UInt16) (packets : List ParsedPacketView)
    (production : Production) : Prop where
  reports : Reports spec cpi spec.expectedNPrt (untilWaveEnd spec packets) production.ctx
    production.output
  complete : production.output.decision = .completeOk ↔
    slotTotal spec spec.expectedNPrt ≤ (untilWaveEnd spec packets).length

def cpiVerdicts (spec : ProtocolSpec) (packets : List ParsedPacketView) : List Bool :=
  List.replicate (untilWaveEnd spec packets).length true ++
    List.replicate (packets.length - (untilWaveEnd spec packets).length) false

/-- Each of `blocks` is one CPI, from `start` on. -/
def Stream (spec : ProtocolSpec) (start : UInt16) (blocks : List (List Op)) : Prop :=
  ∀ index ops, blocks[index]? = some ops → CpiStream spec (start + UInt16.ofNat index) ops

structure StreamResult (spec : ProtocolSpec) (start : UInt16) (blocks : List (List Op))
    (s next : System) : Prop where
  owned : next.Owned
  idle : next.windows.Idle (consecutive start blocks.length)
  capacity : next.outputCapacity = s.outputCapacity
  length : (productions next.windowLog).length = blocks.length
  outcome : ∀ index ops production, blocks[index]? = some ops →
    (productions next.windowLog)[index]? = some production →
    CpiOutcome spec (start + UInt16.ofNat index) (packetsOf ops) production
  pushed : (∀ index < blocks.length, (Machine.run (System.step spec)
      (blocks.take index).flatten s).unreturned.length < s.outputCapacity) →
    ∀ production ∈ productions next.windowLog, production.delivery = .pushed
  verdicts : next.verdicts = (blocks.map fun ops => cpiVerdicts spec (packetsOf ops)).flatten

namespace System

variable {spec : ProtocolSpec}

/-- A stream makes one output for each CPI, in order. -/
theorem run_stream (fixed : spec.FixedMode) {start : UInt16} {blocks : List (List Op)}
    (stream : Stream spec start blocks) {s : System} (owned : s.Owned) (idle : s.windows.Idle [])
    (unused : productions s.windowLog = []) (unjudged : s.verdicts = [])
    (opens : (∀ index < blocks.length, (Machine.run (System.step spec)
        (blocks.take index).flatten s).unreturned.length < 15) ∨
      (Machine.run (System.step spec) blocks.flatten s).runError = "") :
    StreamResult spec start blocks s (Machine.run (System.step spec) blocks.flatten s) := by
  induction blocks using List.reverseRecOn with
  | nil =>
      rw [List.flatten_nil, Machine.run_nil]
      exact ⟨owned, idle, rfl, by rw [unused]; rfl, by simp, by simp [unused], unjudged⟩
  | append_singleton blocks ops ih =>
      have earlier : Stream spec start blocks := by
        intro index block found
        apply stream index block
        rw [List.getElem?_append_left (List.getElem?_eq_some_iff.mp found).1]
        exact found
      have last : CpiStream spec (start + UInt16.ofNat blocks.length) ops :=
        stream blocks.length ops List.getElem?_concat_length
      rw [List.flatten_concat, Machine.run_append] at opens ⊢
      have before := ih earlier (opens.imp
        (fun few index inside => by
          have few := few index (by rw [List.length_append]; exact Nat.lt_add_right 1 inside)
          rwa [List.take_append_of_le_length (Nat.le_of_lt inside)] at few)
        (fun fine => runError_of_run (run_owned spec _ owned) fine))
      have result := run_cpi fixed last before.owned before.idle (next_unknown start blocks.length)
        (opens.imp_left fun few => by
          have few := few blocks.length (by simp)
          rwa [List.take_left] at few)
      obtain ⟨delivery, ended, room⟩ := result.ended
      obtain ⟨output, ctx, made, reports, complete⟩ := ended.made
      have made : productions (Machine.run (System.step spec) ops
          (Machine.run (System.step spec) blocks.flatten s)).windowLog = _ := made
      refine ⟨result.owned, ?_, result.capacity.trans before.capacity, ?_, ?_, ?_, ?_⟩
      · rw [List.length_append, List.length_singleton, consecutive_succ]
        exact ended.idle
      · rw [made, List.length_append, List.length_append, before.length]
        rfl
      · intro index block production found kept
        rw [made] at kept
        rcases Nat.lt_or_ge index blocks.length with inside | beyond
        · rw [List.getElem?_append_left inside] at found
          rw [List.getElem?_append_left (before.length.symm ▸ inside)] at kept
          exact before.outcome index block production found kept
        · have here : index = blocks.length := by
            have bounded := (List.getElem?_eq_some_iff.mp found).1
            rw [List.length_append, List.length_singleton] at bounded
            omega
          subst here
          rw [List.getElem?_concat_length, Option.some.injEq] at found
          rw [← before.length, List.getElem?_concat_length, Option.some.injEq] at kept
          subst found kept
          exact ⟨reports, complete⟩
      · intro vacant production member
        rw [made] at member
        rcases List.mem_append.mp member with old | new
        · refine before.pushed (fun index inside => ?_) production old
          have vacant := vacant index (by rw [List.length_append]; exact Nat.lt_add_right 1 inside)
          rwa [List.take_append_of_le_length (Nat.le_of_lt inside)] at vacant
        · rw [List.mem_singleton.mp new]
          apply room
          have vacant := vacant blocks.length (by simp)
          rwa [List.take_left, ← before.capacity] at vacant
      · rw [result.verdicts, before.verdicts]
        simp [cpiVerdicts]

end System

end RxTech
