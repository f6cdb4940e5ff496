import RxTech.Library.Bits
import RxTech.Protocol.Packet

/-!
# CPI contexts

`control_snapshot.h` and `cpi_context.h`: the control binding, the per-PRT
summary, the slot storage of one CPI, and the functions that bind a context.
-/

set_option autoImplicit false

namespace RxTech

inductive BindSource where
  | fixed
  | provisional
  | control
  deriving DecidableEq, Repr

structure ControlSnapshot where
  cpiId : UInt16 := 0
  nPrt : Nat := 0
  channelCount : Nat := 0
  packetsPerChannel : Nat := 0
  timeoutNs : Nat := 0
  valid : Bool := false
  bindSource : BindSource := .fixed
  conflict : Bool := false
  deriving DecidableEq, Repr

def kCpiPrtMax : Nat := 64
def kCpiMaxChannelCount : Nat := 4
def kCpiMaxPacketsPerChannel : Nat := 9
def kCpiMaxSlotsPerPrt : Nat := kCpiMaxChannelCount * kCpiMaxPacketsPerChannel
def kCpiSlotStride : Nat := 2048
def kCpiMaxTotalSlots : Nat := kCpiPrtMax * kCpiMaxSlotsPerPrt
def kCpiContextPoolDepth : Nat := 16

instance : NeZero kCpiContextPoolDepth := ⟨by decide⟩

/-- An index into the context pool. `kInvalidPoolIndex` is `none` wherever an
index is optional. -/
abbrev PoolIndex := Fin kCpiContextPoolDepth

inductive CpiState where
  | active
  | deciding
  | sealed
  | tombstone
  | recycled
  deriving DecidableEq, Repr

inductive CpiDecision where
  | completeOk
  | incompleteButCommittable
  | abnormalCutoffCommit
  | discardInvalid
  deriving DecidableEq, Repr

def triggerNone : Nat := 0
def triggerFullReady : Nat := 1 <<< 0
def triggerTailObserved : Nat := 1 <<< 1
def triggerCpiSwitch : Nat := 1 <<< 2
def triggerWaveEnd : Nat := 1 <<< 3
def triggerTimeout : Nat := 1 <<< 4
def triggerStop : Nat := 1 <<< 5

def prtFlagNone : Nat := 0
def prtFlagSeenTail : Nat := 1 <<< 0
def prtFlagComplete : Nat := 1 <<< 1

/-- Arrays indexed by channel are functions. The 16-bit counters stay plain
numbers: each is bounded by the number of slots of a PRT. -/
structure PrtSummary where
  chPktBitmap : Nat → Nat := fun _ => 0
  chRecvCount : Nat → Nat := fun _ => 0
  readyChannelCount : Nat := 0
  recvPacketCount : Nat := 0
  flags : Nat := prtFlagNone

structure CpiHotHeader where
  cpiId : UInt16 := 0
  expectedNPrt : Nat := 0
  observedNPrt : Nat := 0
  channelsPerPrt : Nat := 0
  packetsPerChannel : Nat := 0
  expectedSlotCount : Nat := 0
  receivedSlotCount : Nat := 0
  duplicateCount : Nat := 0
  readyPrtCount : Nat := 0
  firstRxTsc : Nat := 0
  lastRxTsc : Nat := 0
  sealTsc : Nat := 0
  state : CpiState := .recycled
  decision : CpiDecision := .discardInvalid
  triggerBits : Nat := triggerNone
  poolIndex : Option PoolIndex := none
  deriving DecidableEq, Repr

/-- `prtSummary` is indexed by `prt - 1`, `slotValidBytes` by slot and
`payload` by byte. `birth` is a history variable that no function reads: the
number of the opening that acquired the context. -/
structure CpiContext where
  header : CpiHotHeader := {}
  control : ControlSnapshot := {}
  prtSummary : Nat → PrtSummary := fun _ => {}
  slotValidBytes : Nat → Nat := fun _ => 0
  payload : Nat → UInt8 := fun _ => 0
  birth : Nat := 0

/-- `CpiContext::reset`. -/
def CpiContext.reset (cpiId : UInt16) (poolIndex : Option PoolIndex) (birth : Nat) : CpiContext :=
  { header := { cpiId, poolIndex, state := .active }, birth }

/-- `slot_payload(index)[offset]`. -/
def CpiContext.slotByte (ctx : CpiContext) (index offset : Nat) : UInt8 :=
  ctx.payload (index * kCpiSlotStride + offset)

/-- The bit of one packet in the bitmap of its channel. -/
def CpiContext.hasPacket (ctx : CpiContext) (prt channel packetIndex : Nat) : Bool :=
  ((ctx.prtSummary (prt - 1)).chPktBitmap channel).testBit (packetIndex - 1)

def isValidSlotCoord (prt channel packetIndex channelsPerPrt packetsPerChannel : Nat) : Bool :=
  decide (prt ≥ 1 ∧ prt ≤ kCpiPrtMax ∧ channel < channelsPerPrt ∧ channel < kCpiMaxChannelCount ∧
    packetIndex ≥ 1 ∧ packetIndex ≤ packetsPerChannel)

def slotIndex (prt channel packetIndex channelsPerPrt packetsPerChannel : Nat) : Nat :=
  ((prt - 1) * channelsPerPrt + channel) * packetsPerChannel + (packetIndex - 1)

def packetBit (packetIndex : Nat) : Nat := u16 (1 <<< (packetIndex - 1))

def setExpectedPrtCount (ctx : CpiContext) (count channelsPerPrt packetsPerChannel : Nat) :
    CpiContext :=
  { ctx with
    header.expectedNPrt := count
    header.channelsPerPrt := channelsPerPrt
    header.packetsPerChannel := packetsPerChannel
    header.expectedSlotCount :=
      if count = 0 then 0 else count * (channelsPerPrt * packetsPerChannel) }

def bindControlSnapshot (ctx : CpiContext) (control : ControlSnapshot) : CpiContext :=
  let ctx := { ctx with
    control
    header.channelsPerPrt := control.channelCount
    header.packetsPerChannel := control.packetsPerChannel }
  if control.valid = true ∧ control.nPrt > 0 then
    setExpectedPrtCount ctx control.nPrt control.channelCount control.packetsPerChannel
  else
    { ctx with header.expectedNPrt := 0, header.expectedSlotCount := 0 }

/-! ## Snapshots made from the specification -/

def maxSupportedNPrt (spec : ProtocolSpec) : Nat := min spec.maxNPrt kCpiPrtMax

def makeSnapshotBase (cpiId : UInt16) (spec : ProtocolSpec) (bindSource : BindSource) :
    ControlSnapshot :=
  { cpiId
    channelCount := u16 spec.channelsPerPrt
    packetsPerChannel := u16 spec.packetsPerChannel
    timeoutNs := spec.cpiTimeoutNs
    bindSource }

def makeFixedSnapshot (cpiId : UInt16) (spec : ProtocolSpec) : ControlSnapshot :=
  let nPrt := u16 (min spec.expectedNPrt kCpiPrtMax)
  { makeSnapshotBase cpiId spec .fixed with nPrt, valid := nPrt > 0 }

def makeProvisionalSnapshot (cpiId : UInt16) (spec : ProtocolSpec) : ControlSnapshot :=
  let nPrt := u16 (maxSupportedNPrt spec)
  { makeSnapshotBase cpiId spec .provisional with nPrt, valid := nPrt > 0 }

/-- The `n_prt` of a control packet is carried in the `prt` field; an illegal
one falls back to the fixed snapshot. -/
def makeControlSnapshot (parsed : ParsedPacketView) (spec : ProtocolSpec) : ControlSnapshot :=
  if spec.dynamicPrtEnabled = false then
    makeFixedSnapshot parsed.cpi spec
  else if parsed.prt ≥ 1 ∧ parsed.prt ≤ maxSupportedNPrt spec then
    { makeSnapshotBase parsed.cpi spec .control with nPrt := u16 parsed.prt, valid := true }
  else makeFixedSnapshot parsed.cpi spec

def selectOpenSnapshot (cpiId : UInt16) (spec : ProtocolSpec) (stagedControl : ControlSnapshot) :
    ControlSnapshot :=
  if spec.dynamicPrtEnabled = false then
    makeFixedSnapshot cpiId spec
  else if stagedControl.cpiId = cpiId ∧ stagedControl.valid = true then
    stagedControl
  else makeProvisionalSnapshot cpiId spec

def canConvergeToControl (candidate : ControlSnapshot) (ctx : CpiContext) : Bool :=
  decide (candidate.bindSource = .control ∧ candidate.valid = true ∧
    candidate.nPrt ≥ ctx.header.observedNPrt)

def mergeControlSnapshot (ctx : CpiContext) (candidate : ControlSnapshot) : CpiContext :=
  let bound := ctx.control
  if bound.bindSource = .control then
    if candidate.bindSource = .control ∧ bound.valid = true ∧ candidate.valid = true ∧
        bound.nPrt ≠ candidate.nPrt then
      { ctx with control.conflict := true }
    else ctx
  else if bound.bindSource = .provisional then
    if canConvergeToControl candidate ctx then
      bindControlSnapshot ctx candidate
    else if candidate.bindSource = .control ∧ candidate.valid = true then
      { ctx with control.conflict := true }
    else ctx
  -- a fixed binding is replaced without looking at the observed PRTs
  else if candidate.bindSource = .control ∧ candidate.valid = true then
    bindControlSnapshot ctx candidate
  else if bound.cpiId = 0 ∨ bound.valid = false then
    bindControlSnapshot ctx candidate
  else ctx

/-! ## What binding leaves alone -/

/-- What identifies an opened context and is fixed until it is sealed. -/
def CpiContext.identity (ctx : CpiContext) : UInt16 × Option PoolIndex × Nat × CpiState :=
  (ctx.header.cpiId, ctx.header.poolIndex, ctx.birth, ctx.header.state)

@[simp] theorem bindControlSnapshot_identity (ctx : CpiContext) (control : ControlSnapshot) :
    (bindControlSnapshot ctx control).identity = ctx.identity := by
  unfold bindControlSnapshot
  split <;> rfl

@[simp] theorem mergeControlSnapshot_identity (ctx : CpiContext) (candidate : ControlSnapshot) :
    (mergeControlSnapshot ctx candidate).identity = ctx.identity := by
  unfold mergeControlSnapshot
  simp only
  split_ifs <;> first | rfl | exact bindControlSnapshot_identity ctx candidate

theorem CpiContext.poolIndex_of_identity {ctx other : CpiContext}
    (same : ctx.identity = other.identity) : ctx.header.poolIndex = other.header.poolIndex :=
  congrArg (fun identity => identity.2.1) same

theorem CpiContext.cpiId_of_identity {ctx other : CpiContext}
    (same : ctx.identity = other.identity) : ctx.header.cpiId = other.header.cpiId :=
  congrArg Prod.fst same

theorem CpiContext.birth_of_identity {ctx other : CpiContext}
    (same : ctx.identity = other.identity) : ctx.birth = other.birth :=
  congrArg (fun identity => identity.2.2.1) same

theorem CpiContext.state_of_identity {ctx other : CpiContext}
    (same : ctx.identity = other.identity) : ctx.header.state = other.header.state :=
  congrArg (fun identity => identity.2.2.2) same

theorem mergeControlSnapshot_birth (ctx : CpiContext) (candidate : ControlSnapshot) :
    (mergeControlSnapshot ctx candidate).birth = ctx.birth :=
  CpiContext.birth_of_identity (mergeControlSnapshot_identity ctx candidate)

theorem mergeControlSnapshot_headerCpiId (ctx : CpiContext) (candidate : ControlSnapshot) :
    (mergeControlSnapshot ctx candidate).header.cpiId = ctx.header.cpiId :=
  CpiContext.cpiId_of_identity (mergeControlSnapshot_identity ctx candidate)

end RxTech
