import RxTech.Library.Grouping
import RxTech.Sidecar.CapturedReport
import Mathlib.Data.Prod.Lex

/-!
# The run summary

What `RuntimeStatusReporter` makes of the runtime state, and the same by questions to the
index stream: which channels, CPIs and PRTs have how many data packets, and which PRT is
shown as the active one.
-/

set_option autoImplicit false

namespace RxTech

structure ProtocolChannelSummary where
  channel : Nat
  dataPackets : Nat
  iqCount : Nat
  deriving DecidableEq, Repr

structure ProtocolCpiSummary where
  cpi : UInt16
  dataPackets : Nat
  prtCount : Nat
  deriving DecidableEq, Repr

structure ProtocolPrtChannelCoverageSummary where
  channel : Nat
  packetCount : Nat
  complete : Bool
  deriving DecidableEq, Repr

/-- What the runtime state enters into. -/
structure RunSummary where
  cpiCount : Nat := 0
  prtCount : Nat := 0
  channelCount : Nat := 0
  finalTailPackets : Nat := 0
  completePrtCount : Nat := 0
  activePrtAvailable : Bool := false
  activeCpi : UInt16 := 0
  activePrt : Nat := 0
  activePrtChannelCount : Nat := 0
  activePrtPacketsPerChannel : Nat := 0
  activePrtComplete : Bool := false
  activePrtChannels : List ProtocolPrtChannelCoverageSummary := []
  protocolChannels : List ProtocolChannelSummary := []
  protocolCpis : List ProtocolCpiSummary := []
  deriving DecidableEq, Repr

/-! ## The active PRT -/

/-- Pairs are ordered by their first components first. -/
def prtRank (key : UInt16 × Nat) : ℕ ×ₗ ℕ := toLex (key.1.toNat, key.2)

namespace ProtocolPrtCoverage

def packetCount (coverage : ProtocolPrtCoverage) (channel : Nat) : Nat :=
  ((coverage.lookup channel).map Finset.card).getD 0

/-- The test by which `populate_active_prt_summary` goes on to the next PRT. -/
def hasAll (spec : ProtocolSpec) (coverage : ProtocolPrtCoverage) : Bool :=
  (List.range spec.channelsPerPrt).all fun channel =>
    match coverage.lookup channel with
    | none => false
    | some received => received.card == spec.packetsPerChannel

def channelSummary (spec : ProtocolSpec) (coverage : ProtocolPrtCoverage) (channel : Nat) :
    ProtocolPrtChannelCoverageSummary where
  channel
  packetCount := coverage.packetCount channel
  complete := coverage.packetCount channel == spec.packetsPerChannel

end ProtocolPrtCoverage

/-- The loop over the coverage: the first PRT of the CPI with packets missing, or else the last
one. -/
def CpiPrtCoverageMap.select (spec : ProtocolSpec) (latestDataCpi : UInt16) :
    List ((UInt16 × Nat) × ProtocolPrtCoverage) → Option ((UInt16 × Nat) × ProtocolPrtCoverage) →
      Option ((UInt16 × Nat) × ProtocolPrtCoverage)
  | [], fallback => fallback
  | entry :: rest, fallback =>
      if entry.1.1 ≠ latestDataCpi then select spec latestDataCpi rest fallback
      else if entry.2.hasAll spec then select spec latestDataCpi rest (some entry)
      else some entry

namespace RunSummary

def populateActivePrtSummary (target : RunSummary) (spec : ProtocolSpec) (latestDataSeen : Bool)
    (latestDataCpi : UInt16) (latestDataPrt : Nat) (prtCoverage : CpiPrtCoverageMap) :
    RunSummary :=
  let target := { target with
    activePrtAvailable := false
    activePrtChannels := []
    activePrtChannelCount := 0
    activePrtComplete := false }
  if latestDataSeen = false then target
  else
    let target := { target with
      activePrtAvailable := true
      activeCpi := latestDataCpi
      activePrtPacketsPerChannel := spec.packetsPerChannel }
    match CpiPrtCoverageMap.select spec latestDataCpi (DefaultMap.inOrder prtRank prtCoverage)
      none with
    | none => { target with activePrt := latestDataPrt }
    | some (key, coverage) =>
        let channels := (List.range spec.channelsPerPrt).map (coverage.channelSummary spec)
        { target with
          activePrt := key.2
          activePrtChannels := channels
          activePrtChannelCount := channels.countP fun channel => channel.packetCount > 0
          activePrtComplete :=
            (channels.all fun channel => channel.complete) && !channels.isEmpty }

end RunSummary

namespace OwnerLoopRuntimeState

def populateCommonSummary (state : OwnerLoopRuntimeState) (summary : RunSummary) : RunSummary :=
  { summary with
    cpiCount := state.uniqueCpis.card
    prtCount := state.uniquePrts.card
    channelCount := state.uniqueChannels.card
    finalTailPackets := state.finalTailPackets }

def populateProtocolSummaries (state : OwnerLoopRuntimeState) (summary : RunSummary) :
    RunSummary :=
  { summary with
    protocolChannels := summary.protocolChannels ++
      (DefaultMap.inOrder id state.channelStats).map fun entry =>
        { channel := entry.1, dataPackets := entry.2.dataPackets, iqCount := entry.2.iqCount }
    protocolCpis := summary.protocolCpis ++
      (DefaultMap.inOrder UInt16.toNat state.cpiStats).map fun entry =>
        { cpi := entry.1, dataPackets := entry.2.dataPackets, prtCount := entry.2.prts.card } }

/-- `build_summary`, as far as the runtime state enters into it. -/
def buildSummary (spec : ProtocolSpec) (state : OwnerLoopRuntimeState) : RunSummary :=
  (state.populateCommonSummary {}).populateActivePrtSummary spec state.latestDataSeen
    state.latestDataCpi state.latestDataPrt state.prtCoverage

def buildFinalSummary (spec : ProtocolSpec) (state : OwnerLoopRuntimeState) : RunSummary :=
  let summary := state.buildSummary spec
  let summary := { summary with
    completePrtCount := summary.completePrtCount + state.prtCoverage.completePrtCount spec }
  state.populateProtocolSummaries summary

end OwnerLoopRuntimeState

/-! ## Questions to the index stream -/

namespace IndexRow

/-- The samples in the packet of the row. -/
def iqCount (spec : ProtocolSpec) (row : IndexRow) : Nat :=
  if row.packetIndex = spec.packetsPerChannel then spec.iqPerLastPacket else spec.iqPerFullPacket

def key (row : IndexRow) : UInt16 × Nat := (row.cpi, row.prt)

end IndexRow

open DefaultMap (orderedKeys group)

def ProtocolChannelSummary.ofRows (spec : ProtocolSpec) (rows : List IndexRow) (channel : Nat) :
    ProtocolChannelSummary :=
  let own := group IndexRow.channel rows channel
  { channel, dataPackets := own.length, iqCount := (own.map (IndexRow.iqCount spec)).sum }

def ProtocolCpiSummary.ofRows (rows : List IndexRow) (cpi : UInt16) : ProtocolCpiSummary :=
  let own := group IndexRow.cpi rows cpi
  { cpi, dataPackets := own.length, prtCount := (own.map IndexRow.prt).dedup.length }

/-- The packets that have come of a channel of the PRT. -/
def IndexRow.received (rows : List IndexRow) (key : UInt16 × Nat) (channel : Nat) : List Nat :=
  ((group IndexRow.channel (group IndexRow.key rows key) channel).map IndexRow.packetIndex).dedup

/-- All packets of the PRT have come. -/
def IndexRow.Whole (spec : ProtocolSpec) (rows : List IndexRow) (key : UInt16 × Nat) : Prop :=
  ∀ channel < spec.channelsPerPrt,
    (IndexRow.received rows key channel).length = spec.packetsPerChannel

instance (spec : ProtocolSpec) (rows : List IndexRow) (key : UInt16 × Nat) :
    Decidable (IndexRow.Whole spec rows key) := Nat.decidableBallLT _ _

def ProtocolPrtChannelCoverageSummary.ofRows (spec : ProtocolSpec) (rows : List IndexRow)
    (key : UInt16 × Nat) (channel : Nat) : ProtocolPrtChannelCoverageSummary :=
  let packetCount := (IndexRow.received rows key channel).length
  { channel, packetCount, complete := packetCount == spec.packetsPerChannel }

/-- The PRTs of the CPI, in order. -/
def IndexRow.prts (rows : List IndexRow) (cpi : UInt16) : List Nat :=
  orderedKeys id ((group IndexRow.cpi rows cpi).map IndexRow.prt)

/-- The least PRT of the CPI of which packets are missing, or else the greatest one. -/
def IndexRow.activePrt (spec : ProtocolSpec) (rows : List IndexRow) (cpi : UInt16) : Nat :=
  let prts := IndexRow.prts rows cpi
  ((prts.find? fun prt => ¬ IndexRow.Whole spec rows (cpi, prt)).or prts.getLast?).getD 0

/-- What rows of data packets come to. -/
def RunSummary.ofRows (spec : ProtocolSpec) (rows : List IndexRow) : RunSummary :=
  let counts : RunSummary :=
    { prtCount := (rows.map IndexRow.prt).dedup.length
      channelCount := (rows.map IndexRow.channel).dedup.length
      completePrtCount := (rows.map IndexRow.key).dedup.countP (IndexRow.Whole spec rows ·)
      protocolChannels := (orderedKeys id (rows.map IndexRow.channel)).map (.ofRows spec rows)
      protocolCpis := (orderedKeys UInt16.toNat (rows.map IndexRow.cpi)).map (.ofRows rows) }
  match rows.getLast? with
  | none => counts
  | some last =>
      let prt := IndexRow.activePrt spec rows last.cpi
      let channels := (List.range spec.channelsPerPrt).map (.ofRows spec rows (last.cpi, prt))
      { counts with
        activePrtAvailable := true
        activeCpi := last.cpi
        activePrt := prt
        activePrtChannelCount := channels.countP fun channel => channel.packetCount > 0
        activePrtPacketsPerChannel := spec.packetsPerChannel
        activePrtComplete := IndexRow.Whole spec rows (last.cpi, prt)
        activePrtChannels := channels }

end RxTech
