import RxTech.Cpi.Storage
import RxTech.Library.RecentRing

/-!
# Admission and finalization

`RecentClosedRing`, `CpiAdmission::judge` and `CpiFinalizer::try_finalize`.
-/

set_option autoImplicit false

namespace RxTech

inductive AdmissionResult where
  | writeActive
  | triggerCpiSwitch
  | lateToClosed
  | drop
  deriving DecidableEq, Repr

structure RecentClosedEntry where
  cpiId : UInt16 := 0
  sealTsc : Nat := 0
  decision : CpiDecision := .discardInvalid
  occupied : Bool := false
  deriving DecidableEq, Repr

/-- `entries_` and `next_index_`, with depth 8. -/
abbrev RecentClosedRing := RecentRing 8 RecentClosedEntry

def RecentClosedRing.fresh : RecentClosedRing := RecentRing.empty 8 {}

def RecentClosedRing.pushClosed (ring : RecentClosedRing) (cpiId : UInt16) (sealTsc : Nat)
    (decision : CpiDecision) : RecentClosedRing :=
  RecentRing.push ring { cpiId, sealTsc, decision, occupied := true }

def RecentClosedRing.contains (ring : RecentClosedRing) (cpiId : UInt16) : Bool :=
  (List.finRange 8).any fun index =>
    (RecentRing.slots ring index).occupied && (RecentRing.slots ring index).cpiId == cpiId

/-! ## What the ring remembers -/

/-- The ring holds the last entries of the closed CPIs. -/
structure RecentClosedRing.Holds (ring : RecentClosedRing) (ids : List UInt16) : Prop where
  entries : ∃ written : List RecentClosedEntry, RecentRing.Tracks {} ring written ∧
    written.map RecentClosedEntry.cpiId = ids ∧ ∀ entry ∈ written, entry.occupied = true

theorem RecentClosedRing.Holds.fresh : RecentClosedRing.Holds .fresh [] :=
  ⟨[], RecentRing.tracks_empty _, rfl, by simp⟩

theorem RecentClosedRing.Holds.push {ring : RecentClosedRing} {ids : List UInt16}
    (holds : RecentClosedRing.Holds ring ids) (cpiId : UInt16) (sealTsc : Nat)
    (decision : CpiDecision) :
    RecentClosedRing.Holds (ring.pushClosed cpiId sealTsc decision) (ids ++ [cpiId]) := by
  obtain ⟨written, tracks, same, occupied⟩ := holds.entries
  refine ⟨_, tracks.push, by simp [same], ?_⟩
  intro entry member
  rcases List.mem_append.mp member with old | new
  · exact occupied entry old
  · rw [List.mem_singleton.mp new]

theorem RecentClosedRing.contains_iff {ring : RecentClosedRing} {cpiId : UInt16} :
    ring.contains cpiId = true ↔ ∃ slot : Fin 8,
      (RecentRing.slots ring slot).occupied = true ∧ (RecentRing.slots ring slot).cpiId = cpiId := by
  simp [contains, List.any_eq_true]

theorem RecentClosedRing.Holds.contains_iff {ring : RecentClosedRing} {ids : List UInt16}
    (holds : RecentClosedRing.Holds ring ids) {cpiId : UInt16} :
    ring.contains cpiId = true ↔ cpiId ∈ ids.recent 8 := by
  obtain ⟨written, tracks, same, occupied⟩ := holds.entries
  rw [RecentClosedRing.contains_iff, tracks.exists_iff fun entry =>
    entry.occupied = true ∧ entry.cpiId = cpiId, ← same, List.recent_map]
  constructor
  · rintro (⟨entry, member, -, is⟩ | ⟨-, impossible, -⟩)
    · exact is ▸ List.mem_map_of_mem member
    · cases impossible
  · intro member
    obtain ⟨entry, found, is⟩ := List.mem_map.mp member
    exact .inl ⟨entry, found, occupied entry (List.mem_of_mem_drop found), is⟩

/-- The ring after these calls of `push`, from a new ring. -/
def RecentClosedRing.afterPushes (pushes : List (UInt16 × Nat × CpiDecision)) :
    RecentClosedRing :=
  pushes.foldl (fun ring push => ring.pushClosed push.1 push.2.1 push.2.2) .fresh

private theorem RecentClosedRing.Holds.foldl {ring : RecentClosedRing} {ids : List UInt16}
    (holds : RecentClosedRing.Holds ring ids) (pushes : List (UInt16 × Nat × CpiDecision)) :
    RecentClosedRing.Holds
      (pushes.foldl (fun ring push => ring.pushClosed push.1 push.2.1 push.2.2) ring)
      (ids ++ pushes.map Prod.fst) := by
  induction pushes generalizing ring ids with
  | nil => simpa using holds
  | cons push rest ih =>
      have tail := ih (holds.push push.1 push.2.1 push.2.2)
      simpa using tail

theorem RecentClosedRing.contains_afterPushes (pushes : List (UInt16 × Nat × CpiDecision))
    (cpiId : UInt16) :
    (RecentClosedRing.afterPushes pushes).contains cpiId = true ↔
      ∃ push ∈ pushes.drop (pushes.length - min 8 pushes.length), push.1 = cpiId := by
  have holds : RecentClosedRing.Holds (RecentClosedRing.afterPushes pushes)
      (pushes.map Prod.fst) := by
    simpa [afterPushes] using RecentClosedRing.Holds.fresh.foldl pushes
  have window : pushes.length - min 8 pushes.length = pushes.length - 8 := by omega
  rw [holds.contains_iff, List.recent_map, window]
  constructor
  · intro member
    obtain ⟨push, found, is⟩ := List.mem_map.mp member
    exact ⟨push, found, is⟩
  · intro found
    obtain ⟨push, member, is⟩ := found
    exact List.mem_map.mpr ⟨push, member, is⟩

/-! ## Admission and finalization -/

def CpiAdmission.judge (packet : ParsedPacketView) (activeCpi : UInt16)
    (closed : RecentClosedRing) : AdmissionResult :=
  if packet.valid = false then .drop
  else if packet.cpi = activeCpi then .writeActive
  else if packet.cpi = activeCpi + 1 then .triggerCpiSwitch
  else if closed.contains packet.cpi then .lateToClosed
  else .drop

/-- The pointers of `CpiReadOnlyView` are the arrays of the context that
`poolIndex` names; only its numbers are kept here. -/
structure CpiReadOnlyView where
  nPrt : Nat := 0
  slotCount : Nat := 0
  payloadStride : Nat := kCpiSlotStride
  deriving DecidableEq, Repr

structure CpiOutput where
  cpiId : UInt16 := 0
  control : ControlSnapshot := {}
  decision : CpiDecision := .discardInvalid
  receivedSlotCount : Nat := 0
  missingSlotCount : Nat := 0
  duplicateCount : Nat := 0
  readyPrtCount : Nat := 0
  triggerBits : Nat := triggerNone
  firstRxTsc : Nat := 0
  lastRxTsc : Nat := 0
  sealTsc : Nat := 0
  view : CpiReadOnlyView := {}
  poolIndex : Option PoolIndex := none
  outputId : Nat := 0
  deriving DecidableEq, Repr

structure ReleaseToken where
  outputId : Nat := 0
  ctxPoolIndex : Option PoolIndex := none
  deriving DecidableEq, Repr

/-- The decision for a trigger; `none` declines to finalize. -/
def CpiFinalizer.decide? (readyPrtCount trigger : Nat) : Option CpiDecision :=
  if Bits.hasAny trigger triggerFullReady then some .completeOk
  else if Bits.hasAny trigger (triggerCpiSwitch ||| triggerWaveEnd) then
    some (if readyPrtCount > 0 then .incompleteButCommittable else .abnormalCutoffCommit)
  -- timeout and stop are discarded silently
  else if Bits.hasAny trigger (triggerTimeout ||| triggerStop) then none
  else none

/-- The context as `try_finalize` leaves it. -/
def CpiContext.seal (ctx : CpiContext) (trigger now : Nat) (decision : CpiDecision) : CpiContext :=
  { ctx with
    header.state := .sealed
    header.triggerBits := ctx.header.triggerBits ||| trigger
    header.sealTsc := now
    header.decision := decision }

/-- The output that `try_finalize` reads off a sealed context. -/
def CpiContext.makeOutput (ctx : CpiContext) : CpiOutput :=
  let header := ctx.header
  let nPrt :=
    if ctx.control.valid = true ∧ ctx.control.nPrt > 0 then ctx.control.nPrt
    else if header.observedNPrt > 0 then header.observedNPrt
    else header.expectedNPrt
  let channels :=
    if ctx.control.channelCount > 0 then ctx.control.channelCount
    else if header.channelsPerPrt > 0 then header.channelsPerPrt
    else kCpiMaxChannelCount
  let packets :=
    if ctx.control.packetsPerChannel > 0 then ctx.control.packetsPerChannel
    else if header.packetsPerChannel > 0 then header.packetsPerChannel
    else kCpiMaxPacketsPerChannel
  { cpiId := header.cpiId
    control := ctx.control
    decision := header.decision
    receivedSlotCount := header.receivedSlotCount
    missingSlotCount :=
      if header.expectedSlotCount > header.receivedSlotCount then
        header.expectedSlotCount - header.receivedSlotCount
      else 0
    duplicateCount := header.duplicateCount
    readyPrtCount := header.readyPrtCount
    triggerBits := header.triggerBits
    firstRxTsc := header.firstRxTsc
    lastRxTsc := header.lastRxTsc
    sealTsc := header.sealTsc
    view :=
      { nPrt
        slotCount :=
          if header.expectedSlotCount > 0 then header.expectedSlotCount
          else nPrt * (channels * packets) }
    poolIndex := header.poolIndex }

/-- `CpiFinalizer::try_finalize`; `now` is the steady clock. A context that is
neither active nor deciding, and a trigger without a decision, are declined. -/
def CpiFinalizer.tryFinalize (ctx : CpiContext) (trigger now : Nat) :
    Option (CpiContext × CpiOutput) :=
  if ctx.header.state = .active ∨ ctx.header.state = .deciding then
    (CpiFinalizer.decide? ctx.header.readyPrtCount trigger).map fun decision =>
      let sealedCtx := ctx.seal trigger now decision
      (sealedCtx, sealedCtx.makeOutput)
  else none

end RxTech
