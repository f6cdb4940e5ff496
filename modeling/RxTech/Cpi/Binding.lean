import RxTech.Cpi.Slots

/-!
# Bound control snapshots

Every snapshot that reaches a context is made from the specification, and the
expected counts of a context are those of the snapshot it is bound to.
-/

set_option autoImplicit false

namespace RxTech

def fixedNPrt (spec : ProtocolSpec) : Nat := min spec.expectedNPrt kCpiPrtMax

/-- A snapshot made from the specification. -/
structure ControlSnapshot.MadeFrom (spec : ProtocolSpec) (control : ControlSnapshot) : Prop where
  channelCount : control.channelCount = spec.channelsPerPrt
  packetsPerChannel : control.packetsPerChannel = spec.packetsPerChannel
  timeoutNs : control.timeoutNs = spec.cpiTimeoutNs
  nPrt_le : control.nPrt ≤ kCpiPrtMax
  valid_iff : control.valid = true ↔ 0 < control.nPrt
  fixed : control.bindSource = .fixed → control.nPrt = fixedNPrt spec
  static : spec.dynamicPrtEnabled = false → control.bindSource = .fixed

theorem u16_min_kCpiPrtMax (value : Nat) : u16 (min value kCpiPrtMax) = min value kCpiPrtMax :=
  u16_of_lt (Nat.lt_of_le_of_lt (Nat.min_le_right ..) (by decide))

theorem makeFixedSnapshot_madeFrom {spec : ProtocolSpec} (formed : spec.WellFormed)
    (cpiId : UInt16) : (makeFixedSnapshot cpiId spec).MadeFrom spec := by
  have count : (makeFixedSnapshot cpiId spec).nPrt = fixedNPrt spec :=
    u16_min_kCpiPrtMax spec.expectedNPrt
  constructor
  · exact formed.u16_channels
  · exact formed.u16_packets
  · rfl
  · rw [count]
    exact Nat.min_le_right ..
  · exact decide_eq_true_iff
  · exact fun _ => count
  · exact fun _ => rfl

private theorem makeProvisionalSnapshot_madeFrom {spec : ProtocolSpec} (formed : spec.WellFormed)
    (dynamic : spec.dynamicPrtEnabled = true) (cpiId : UInt16) :
    (makeProvisionalSnapshot cpiId spec).MadeFrom spec := by
  have count : (makeProvisionalSnapshot cpiId spec).nPrt = maxSupportedNPrt spec :=
    u16_min_kCpiPrtMax spec.maxNPrt
  constructor
  · exact formed.u16_channels
  · exact formed.u16_packets
  · rfl
  · rw [count]
    exact Nat.min_le_right ..
  · exact decide_eq_true_iff
  · intro fixed
    cases fixed
  · intro static
    rw [dynamic] at static
    cases static

/-- The `n_prt` of a control packet is used as it is. -/
def LegalControl (spec : ProtocolSpec) (parsed : ParsedPacketView) : Prop :=
  spec.dynamicPrtEnabled = true ∧ 1 ≤ parsed.prt ∧ parsed.prt ≤ maxSupportedNPrt spec

instance (spec : ProtocolSpec) (parsed : ParsedPacketView) : Decidable (LegalControl spec parsed) :=
  inferInstanceAs (Decidable (_ ∧ _ ∧ _))

theorem makeControlSnapshot_legal {spec : ProtocolSpec} {parsed : ParsedPacketView}
    (legal : LegalControl spec parsed) :
    makeControlSnapshot parsed spec =
      { makeSnapshotBase parsed.cpi spec .control with nPrt := parsed.prt, valid := true } := by
  obtain ⟨dynamic, pos, le⟩ := legal
  have small : u16 parsed.prt = parsed.prt :=
    u16_of_lt (Nat.lt_of_le_of_lt (Nat.le_trans le (Nat.min_le_right ..)) (by decide))
  simp [makeControlSnapshot, dynamic, pos, le, small]

theorem makeControlSnapshot_illegal {spec : ProtocolSpec} {parsed : ParsedPacketView}
    (illegal : ¬ LegalControl spec parsed) :
    makeControlSnapshot parsed spec = makeFixedSnapshot parsed.cpi spec := by
  unfold makeControlSnapshot
  cases dynamic : spec.dynamicPrtEnabled with
  | false => simp
  | true =>
      have range : ¬ (parsed.prt ≥ 1 ∧ parsed.prt ≤ maxSupportedNPrt spec) :=
        fun range => illegal ⟨dynamic, range.1, range.2⟩
      simp [range]

theorem makeControlSnapshot_madeFrom {spec : ProtocolSpec} (formed : spec.WellFormed)
    (parsed : ParsedPacketView) : (makeControlSnapshot parsed spec).MadeFrom spec := by
  by_cases legal : LegalControl spec parsed
  · obtain ⟨dynamic, pos, le⟩ := id legal
    have small : parsed.prt ≤ kCpiPrtMax := Nat.le_trans le (Nat.min_le_right ..)
    rw [makeControlSnapshot_legal legal]
    constructor <;>
      simp [makeSnapshotBase, formed.u16_channels, formed.u16_packets, dynamic, small]
    omega
  · rw [makeControlSnapshot_illegal legal]
    exact makeFixedSnapshot_madeFrom formed parsed.cpi

@[simp] theorem makeControlSnapshot_cpiId (spec : ProtocolSpec) (parsed : ParsedPacketView) :
    (makeControlSnapshot parsed spec).cpiId = parsed.cpi := by
  by_cases legal : LegalControl spec parsed
  · rw [makeControlSnapshot_legal legal]
    rfl
  · rw [makeControlSnapshot_illegal legal]
    rfl

theorem selectOpenSnapshot_madeFrom {spec : ProtocolSpec} (formed : spec.WellFormed)
    {staged : ControlSnapshot} (made : staged.valid = true → staged.MadeFrom spec)
    (cpiId : UInt16) : (selectOpenSnapshot cpiId spec staged).MadeFrom spec := by
  unfold selectOpenSnapshot
  split
  · exact makeFixedSnapshot_madeFrom formed cpiId
  rename_i dynamic
  split
  · rename_i use
    exact made use.2
  · exact makeProvisionalSnapshot_madeFrom formed (by simpa using dynamic) cpiId

/-- The expected counts of a context follow its control snapshot. -/
structure Bound (spec : ProtocolSpec) (ctx : CpiContext) : Prop where
  madeFrom : ctx.control.MadeFrom spec
  expectedNPrt : ctx.header.expectedNPrt = ctx.control.nPrt
  expectedSlotCount : ctx.header.expectedSlotCount =
    ctx.control.nPrt * (spec.channelsPerPrt * spec.packetsPerChannel)

theorem bindControlSnapshot_bound {spec : ProtocolSpec} {control : ControlSnapshot}
    (made : control.MadeFrom spec) (ctx : CpiContext) :
    Bound spec (bindControlSnapshot ctx control) := by
  unfold bindControlSnapshot
  by_cases valid : control.valid = true
  · have pos := made.valid_iff.mp valid
    have some : control.nPrt ≠ 0 := by omega
    rw [if_pos ⟨valid, pos⟩]
    exact ⟨made, rfl, by
      simp [setExpectedPrtCount, some, made.channelCount, made.packetsPerChannel]⟩
  · have none : control.nPrt = 0 := by
      have := mt made.valid_iff.mpr valid
      omega
    rw [if_neg fun both => valid both.1]
    exact ⟨made, none.symm, by simp [none]⟩

@[simp] theorem bindControlSnapshot_control (ctx : CpiContext) (control : ControlSnapshot) :
    (bindControlSnapshot ctx control).control = control := by
  unfold bindControlSnapshot
  split <;> rfl

@[simp] theorem bindControlSnapshot_observed (ctx : CpiContext) (control : ControlSnapshot) :
    (bindControlSnapshot ctx control).header.observedNPrt = ctx.header.observedNPrt := by
  unfold bindControlSnapshot
  split <;> rfl

@[simp] theorem bindControlSnapshot_received (ctx : CpiContext) (control : ControlSnapshot) :
    (bindControlSnapshot ctx control).header.receivedSlotCount =
      ctx.header.receivedSlotCount := by
  unfold bindControlSnapshot
  split <;> rfl

@[simp] theorem bindControlSnapshot_duplicateCount (ctx : CpiContext) (control : ControlSnapshot) :
    (bindControlSnapshot ctx control).header.duplicateCount = ctx.header.duplicateCount := by
  unfold bindControlSnapshot
  split <;> rfl

theorem makeControlSnapshot_control {spec : ProtocolSpec} {parsed : ParsedPacketView}
    (control : (makeControlSnapshot parsed spec).bindSource = .control) :
    LegalControl spec parsed := by
  by_contra illegal
  rw [makeControlSnapshot_illegal illegal] at control
  cases control

/-- A fixed binding that is replaced by another fixed one keeps its count. -/
theorem Bound.rebound_nPrt {spec : ProtocolSpec} {ctx : CpiContext} {parsed : ParsedPacketView}
    (bound : Bound spec ctx) (formed : spec.WellFormed) (fixed : ctx.control.bindSource = .fixed)
    (other : ¬ ((makeControlSnapshot parsed spec).bindSource = .control ∧
      (makeControlSnapshot parsed spec).valid = true)) :
    (makeControlSnapshot parsed spec).nPrt = ctx.control.nPrt := by
  have illegal : ¬ LegalControl spec parsed := fun legal =>
    other (by rw [makeControlSnapshot_legal legal]; exact ⟨rfl, rfl⟩)
  have source : (makeControlSnapshot parsed spec).bindSource = .fixed := by
    rw [makeControlSnapshot_illegal illegal]
    rfl
  rw [bound.madeFrom.fixed fixed, (makeControlSnapshot_madeFrom formed parsed).fixed source]

theorem Bound.conflict {spec : ProtocolSpec} {ctx : CpiContext} (bound : Bound spec ctx)
    (conflict : Bool) : Bound spec { ctx with control.conflict := conflict } :=
  ⟨⟨bound.madeFrom.channelCount, bound.madeFrom.packetsPerChannel, bound.madeFrom.timeoutNs,
    bound.madeFrom.nPrt_le, bound.madeFrom.valid_iff, bound.madeFrom.fixed,
    bound.madeFrom.static⟩, bound.expectedNPrt, bound.expectedSlotCount⟩

/-- What a merge can do to a context. -/
inductive Merged (ctx : CpiContext) (candidate : ControlSnapshot) : CpiContext → Prop where
  | kept : Merged ctx candidate ctx
  | conflicted : Merged ctx candidate { ctx with control.conflict := true }
  | converged (provisional : ctx.control.bindSource = .provisional)
      (control : candidate.bindSource = .control) (enough : ctx.header.observedNPrt ≤ candidate.nPrt) :
      Merged ctx candidate (bindControlSnapshot ctx candidate)
  | replaced (fixed : ctx.control.bindSource = .fixed) (control : candidate.bindSource = .control) :
      Merged ctx candidate (bindControlSnapshot ctx candidate)
  | rebound (fixed : ctx.control.bindSource = .fixed)
      (other : ¬ (candidate.bindSource = .control ∧ candidate.valid = true)) :
      Merged ctx candidate (bindControlSnapshot ctx candidate)

theorem mergeControlSnapshot_merged (ctx : CpiContext) (candidate : ControlSnapshot) :
    Merged ctx candidate (mergeControlSnapshot ctx candidate) := by
  unfold mergeControlSnapshot
  simp only
  split
  · split
    · exact .conflicted
    · exact .kept
  rename_i notControl
  split
  · rename_i provisional
    split
    · rename_i converges
      simp only [canConvergeToControl, decide_eq_true_eq] at converges
      exact .converged provisional converges.1 converges.2.2
    split
    · exact .conflicted
    · exact .kept
  rename_i notProvisional
  have fixed : ctx.control.bindSource = .fixed := by
    cases source : ctx.control.bindSource with
    | fixed => rfl
    | provisional => exact absurd source notProvisional
    | control => exact absurd source notControl
  split
  · rename_i control
    exact .replaced fixed control.1
  rename_i other
  split
  · exact .rebound fixed other
  · exact .kept

theorem Bound.merge {spec : ProtocolSpec} {ctx : CpiContext} {candidate : ControlSnapshot}
    (bound : Bound spec ctx) (made : candidate.MadeFrom spec) :
    Bound spec (mergeControlSnapshot ctx candidate) := by
  have merged := mergeControlSnapshot_merged ctx candidate
  generalize mergeControlSnapshot ctx candidate = next at merged ⊢
  cases merged with
  | kept => exact bound
  | conflicted => exact bound.conflict true
  | converged | replaced | rebound => exact bindControlSnapshot_bound made ctx

end RxTech
