import RxTech.Core.WindowHistory
import RxTech.Cpi.Consistency

/-!
# What the contexts hold

From its acquisition to its release a context is consistent, and each of its
slots holds the first packet that was accepted for it.
-/

set_option autoImplicit false

namespace RxTech

namespace System

/-- A new coordinator, with fresh rings of some capacities or without rings. -/
def withRings (rings : Option (Nat × Nat)) (consumerSchedule clock : List Nat) : System :=
  .fresh (rings.map fun capacities => .fresh capacities.1 capacities.2) consumerSchedule clock

theorem withRings_owned (rings : Option (Nat × Nat)) (consumerSchedule clock : List Nat) :
    (withRings rings consumerSchedule clock).Owned :=
  fresh_owned consumerSchedule clock fun attached is => by
    obtain ⟨capacities, -, rfl⟩ := Option.map_eq_some_iff.mp is
    exact pipeline_fresh_running capacities.1 capacities.2

end System

/-- Every slot in use holds a context that agrees with the packets it received. -/
theorem slots_filed {spec : ProtocolSpec} (formed : spec.WellFormed) (rings : Option (Nat × Nat))
    (consumerSchedule clock : List Nat) {ops : List Op} (valid : ∀ op ∈ ops, op.Valid) :
    let s := Machine.run (System.step spec) ops (System.withRings rings consumerSchedule clock)
    ∀ index, s.ctxPool.inUse index = true → Filed spec s.windowLog (s.ctxPool.contexts index) := by
  intro s index used
  have start := System.withRings_owned rings consumerSchedule clock
  have owned : s.Owned := System.run_owned spec ops start
  obtain ⟨sound, archives⟩ := Windows.run_archives formed start (Windows.fresh_sound ..)
    (fun _ _ _ impossible => nomatch impossible) valid
  exact owned.filed sound archives used

namespace System

theorem Owned.activeCtx_inUse {s : System} (owned : s.Owned) {ctx : CpiContext}
    (active : s.activeCtx = some ctx) :
    ∃ index, s.ctxPool.inUse index = true ∧ s.ctxPool.contexts index = ctx := by
  obtain ⟨index, isActive, here⟩ := Option.map_eq_some_iff.mp active
  have absent := (owned.absent_active isActive).1
  exact ⟨index, (owned.linked.held_of_absent absent).2.1, here⟩

theorem Owned.previousCtx_inUse {s : System} (owned : s.Owned) {ctx : CpiContext}
    (previous : s.previousCtx = some ctx) :
    ∃ index, s.ctxPool.inUse index = true ∧ s.ctxPool.contexts index = ctx := by
  obtain ⟨index, isPrevious, here⟩ := Option.map_eq_some_iff.mp previous
  have absent := (owned.absent_previous isPrevious).1
  exact ⟨index, (owned.linked.held_of_absent absent).2.1, here⟩

theorem Linked.unreturned_inUse {s : System} (linked : s.Linked) {output : CpiOutput}
    {index : PoolIndex} (member : output ∈ s.unreturned) (named : output.poolIndex = some index) :
    s.ctxPool.inUse index = true := by
  have lent := Linked.lent_of_unreturned member named
  rcases linked.phase_cases index with ⟨-, -, none⟩ | ⟨-, used, -⟩ | ⟨-, used, -⟩
  · omega
  · exact used
  · exact used

end System

/-- In every reachable state the contexts that are active, previous or referenced
by an output not yet returned are consistent. -/
theorem reachable_contexts_consistent (config : RxConfig) (rings : Option (Nat × Nat))
    (consumerSchedule clock : List Nat) (ops : List Op) (valid : ∀ op ∈ ops, op.Valid) :
    let spec := protocolSpecFromConfig config
    let s := Machine.run (System.step spec) ops (System.withRings rings consumerSchedule clock)
    (∀ ctx, s.activeCtx = some ctx ∨ s.previousCtx = some ctx → ctx.Consistent spec) ∧
      ∀ output ∈ s.unreturned, ∃ index, output.poolIndex = some index ∧
        (s.ctxPool.contexts index).Consistent spec := by
  intro spec s
  have formed := protocolSpecFromConfig_wellFormed config
  have owned : s.Owned :=
    System.run_owned spec ops (System.withRings_owned rings consumerSchedule clock)
  have consistent : ∀ index, s.ctxPool.inUse index = true →
      (s.ctxPool.contexts index).Consistent spec := fun index used =>
    (slots_filed formed rings consumerSchedule clock valid index used).reception.consistent formed
  constructor
  · intro ctx window
    have used : ∃ index, s.ctxPool.inUse index = true ∧ s.ctxPool.contexts index = ctx := by
      rcases window with active | previous
      · exact owned.activeCtx_inUse active
      · exact owned.previousCtx_inUse previous
    obtain ⟨index, inUse, rfl⟩ := used
    exact consistent index inUse
  · intro output member
    obtain ⟨index, named, -⟩ := owned.linked.frozen output member
    exact ⟨index, named, consistent index (owned.linked.unreturned_inUse member named)⟩

/-- Two packets of one PRT, the second of them twice, and one of the next CPI. -/
def repeatedOps : List Op :=
  let spec := protocolSpecFromConfig pairConfig
  [.zeroData spec 1 1 0 2 0, .zeroData spec 1 1 0 2 0, .zeroData spec 2 1 0 1 0,
    .zeroData spec 1 1 0 1 0]

private theorem repeatedOps_valid : ∀ op ∈ repeatedOps, op.Valid := by
  simp [repeatedOps]

theorem reachable_contexts_consistent_repeated :
    let spec := protocolSpecFromConfig pairConfig
    let s := Machine.run (System.step spec) repeatedOps (System.withRings (some (32, 32)) [] [])
    (s.activeCtx.isSome = true ∧ s.previousCtx.isSome = true) ∧
      (∀ ctx, s.activeCtx = some ctx ∨ s.previousCtx = some ctx → ctx.Consistent spec) ∧
      ∀ output ∈ s.unreturned, ∃ index, output.poolIndex = some index ∧
        (s.ctxPool.contexts index).Consistent spec :=
  ⟨by decide +kernel, reachable_contexts_consistent pairConfig (some (32, 32)) [] [] repeatedOps
    repeatedOps_valid⟩

/-- Valid coordinates have slots of their own, and in every reachable state each
context in use has only packets of its CPI and holds in each slot the first of
them with the coordinates of the slot. Nothing that comes later changes it. -/
theorem slot_holds_first_packet (config : RxConfig) (rings : Option (Nat × Nat))
    (consumerSchedule clock : List Nat) (ops : List Op) (valid : ∀ op ∈ ops, op.Valid) :
    let spec := protocolSpecFromConfig config
    let s := Machine.run (System.step spec) ops (System.withRings rings consumerSchedule clock)
    (∀ first second, SlotCoord.Within spec kCpiPrtMax first →
        SlotCoord.Within spec kCpiPrtMax second → first.slot spec = second.slot spec →
        first = second) ∧
      (∀ coord, SlotCoord.Within spec kCpiPrtMax coord → coord.slot spec < 2304) ∧
      ∀ index, s.ctxPool.inUse index = true →
        let ctx := s.ctxPool.contexts index
        (∀ packet ∈ receivedBy s.windowLog ctx.birth, packet.cpi = ctx.header.cpiId) ∧
          (∀ coord, SlotCoord.Within spec kCpiPrtMax coord → ctx.Stores (coord.slot spec)
            ((receivedBy s.windowLog ctx.birth).find? fun packet => packet.coord = coord)) ∧
          ∀ later, (∀ op ∈ later, op.Valid) →
            let s' := Machine.run (System.step spec) later s
            ∀ index', s'.ctxPool.inUse index' = true →
              (s'.ctxPool.contexts index').birth = ctx.birth →
              ∀ packet ∈ receivedBy s.windowLog ctx.birth,
                (s'.ctxPool.contexts index').Stores (packet.coord.slot spec) (some packet) := by
  intro spec s
  have formed := protocolSpecFromConfig_wellFormed config
  refine ⟨fun first second => SlotCoord.slot_inj formed, fun coord => SlotCoord.slot_lt formed, ?_⟩
  intro index used
  have filed := slots_filed formed rings consumerSchedule clock valid index used
  refine ⟨filed.own, fun coord within => filed.reception.recorded.stores formed within, ?_⟩
  intro later laterValid s' index' used' born packet member
  have start := System.withRings_owned rings consumerSchedule clock
  have sound : s.windows.Sound spec :=
    Windows.run_sound formed start (Windows.fresh_sound ..) valid
  have grown : s.windowLog <+: s'.windowLog :=
    Windows.run_log formed (System.run_owned spec ops start) sound laterValid
  have filed' : Filed spec s'.windowLog (s'.ctxPool.contexts index') := by
    have all := slots_filed formed rings consumerSchedule clock
      (fun op member => (List.mem_append.mp member).elim (valid op) (laterValid op))
    rw [Machine.run_append] at all
    exact all index' used'
  have stillThere : packet ∈ receivedBy s'.windowLog (s'.ctxPool.contexts index').birth := by
    rw [born]
    exact (grown.filterMap _).subset member
  exact filed'.reception.recorded.stores_packet formed stillThere

theorem slot_holds_first_packet_repeated :
    let spec := protocolSpecFromConfig pairConfig
    let s := Machine.run (System.step spec) repeatedOps (System.withRings (some (32, 32)) [] [])
    s.ctxPool.inUse 0 = true ∧
      (∀ first second, SlotCoord.Within spec kCpiPrtMax first →
        SlotCoord.Within spec kCpiPrtMax second → first.slot spec = second.slot spec →
        first = second) ∧
      (∀ coord, SlotCoord.Within spec kCpiPrtMax coord → coord.slot spec < 2304) ∧
      ∀ index, s.ctxPool.inUse index = true →
        let ctx := s.ctxPool.contexts index
        (∀ packet ∈ receivedBy s.windowLog ctx.birth, packet.cpi = ctx.header.cpiId) ∧
          (∀ coord, SlotCoord.Within spec kCpiPrtMax coord → ctx.Stores (coord.slot spec)
            ((receivedBy s.windowLog ctx.birth).find? fun packet => packet.coord = coord)) ∧
          ∀ later, (∀ op ∈ later, op.Valid) →
            let s' := Machine.run (System.step spec) later s
            ∀ index', s'.ctxPool.inUse index' = true →
              (s'.ctxPool.contexts index').birth = ctx.birth →
              ∀ packet ∈ receivedBy s.windowLog ctx.birth,
                (s'.ctxPool.contexts index').Stores (packet.coord.slot spec) (some packet) :=
  ⟨by decide +kernel, slot_holds_first_packet pairConfig (some (32, 32)) [] [] repeatedOps
    repeatedOps_valid⟩

end RxTech
