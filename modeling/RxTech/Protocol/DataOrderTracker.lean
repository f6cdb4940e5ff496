import Mathlib.Data.List.Chain
import RxTech.Protocol.Packet

/-!
# The data order tracker

`DataOrderTracker` compares each data packet with the successor of the one before it;
`populate_data_order_summary` turns what it found into texts.
-/

set_option autoImplicit false

namespace RxTech

/-- `DataOrderTracker::Cursor`. -/
structure OrderCursor where
  cpi : UInt16 := 0
  prt : Nat := 0
  channel : Nat := 0
  packetIndex : Nat := 0
  deriving DecidableEq, Repr

structure DataOrderTracker where
  spec : ProtocolSpec
  checkedPackets : Nat := 0
  initialized : Bool := false
  matchesExpected : Bool := true
  channelBatched : Bool := false
  firstMismatch : String := ""
  expectedNext : OrderCursor := {}
  previousPacket : InterpretedPacketView := {}

/-- The members of `RunSummary` that describe the order. -/
structure DataOrderSummary where
  dataOrderCheckedPackets : Nat := 0
  dataOrderAssessment : String := "未评估"
  dataOrderFirstMismatch : String := ""
  deriving DecidableEq, Repr

def populateDataOrderSummary (target : DataOrderSummary) (checkedPackets : Nat)
    (matchesExpected channelBatched : Bool) (firstMismatch : String) : DataOrderSummary :=
  let target := { target with dataOrderCheckedPackets := checkedPackets }
  if checkedPackets = 0 then
    { target with dataOrderAssessment := "无数据包", dataOrderFirstMismatch := "" }
  else if matchesExpected then
    { target with
      dataOrderAssessment := "符合按 PRT 推进的和/差/差顺序"
      dataOrderFirstMismatch := "" }
  else
    { target with
      dataOrderAssessment :=
        if channelBatched then "偏离按 PRT 推进顺序，当前捕获更像按通道分批到达"
        else "偏离按 PRT 推进顺序"
      dataOrderFirstMismatch := firstMismatch }

namespace DataOrderTracker

def ofSpec (spec : ProtocolSpec) : DataOrderTracker := { spec }

def buildNextExpected (spec : ProtocolSpec) (packet : InterpretedPacketView) : OrderCursor :=
  if packet.packetIndex < spec.packetsPerChannel then
    { cpi := packet.cpi
      prt := packet.prt
      channel := packet.channel
      packetIndex := u16 (packet.packetIndex + 1) }
  else if packet.channel + 1 < spec.channelsPerPrt then
    { cpi := packet.cpi, prt := packet.prt, channel := u16 (packet.channel + 1), packetIndex := 1 }
  else
    { cpi := packet.cpi, prt := u16 (packet.prt + 1), channel := 0, packetIndex := 1 }

/-- The static `matches_expected`. -/
def isExpected (packet : InterpretedPacketView) (expected : OrderCursor) : Bool :=
  packet.cpi == expected.cpi && packet.prt == expected.prt &&
    packet.channel == expected.channel && packet.packetIndex == expected.packetIndex

def formatPoint (cpi : UInt16) (prt channel packetIndex : Nat) : String :=
  s!"CPI {cpi} / PRT {prt} / CH {channel} / PKT {packetIndex}"

def isCpiRollover (previous current : InterpretedPacketView) (spec : ProtocolSpec) : Bool :=
  previous.packetIndex == spec.packetsPerChannel &&
    previous.channel + 1 == spec.channelsPerPrt &&
    current.cpi == previous.cpi + 1 && current.prt == 1 && current.channel == 0 &&
    current.packetIndex == 1

/-- The text of `first_mismatch_`. -/
def mismatchText (checkedPackets : Nat) (expected : OrderCursor)
    (packet : InterpretedPacketView) : String :=
  let wanted := formatPoint expected.cpi expected.prt expected.channel expected.packetIndex
  let actual := formatPoint packet.cpi packet.prt packet.channel packet.packetIndex
  s!"第 {checkedPackets} 个数据包开始偏离，期望 {wanted}，实际 {actual}"

/-- What `observe` notes about a packet that does not match. -/
def noteMismatch (tracker : DataOrderTracker) (packet : InterpretedPacketView) :
    DataOrderTracker :=
  let previous := tracker.previousPacket
  { tracker with
    matchesExpected := false
    channelBatched :=
      if previous.packetIndex = tracker.spec.packetsPerChannel ∧ packet.packetIndex = 1 ∧
          packet.channel = previous.channel ∧ packet.prt = u16 (previous.prt + 1) then true
      else tracker.channelBatched
    firstMismatch := mismatchText tracker.checkedPackets tracker.expectedNext packet }

/-- The end of `observe`: the packet is the previous one of the next call. -/
def resynchronize (tracker : DataOrderTracker) (packet : InterpretedPacketView) :
    DataOrderTracker :=
  { tracker with
    expectedNext := buildNextExpected tracker.spec packet
    previousPacket := packet
    initialized := true }

def observe (tracker : DataOrderTracker) (packet : InterpretedPacketView) : DataOrderTracker :=
  let tracker := { tracker with checkedPackets := tracker.checkedPackets + 1 }
  if tracker.initialized = false then tracker.resynchronize packet
  else if isCpiRollover tracker.previousPacket packet tracker.spec then
    tracker.resynchronize packet
  else if tracker.matchesExpected && !isExpected packet tracker.expectedNext then
    (tracker.noteMismatch packet).resynchronize packet
  else tracker.resynchronize packet

def populateSummary (tracker : DataOrderTracker) (summary : DataOrderSummary) :
    DataOrderSummary :=
  populateDataOrderSummary summary tracker.checkedPackets tracker.matchesExpected
    tracker.channelBatched tracker.firstMismatch

def observeAll (tracker : DataOrderTracker) (packets : List InterpretedPacketView) :
    DataOrderTracker :=
  packets.foldl observe tracker

/-! ## What an observation changes -/

/-- The tracker has seen a packet, and expects the successor of the last one. -/
structure Follows (tracker : DataOrderTracker) (spec : ProtocolSpec)
    (last : InterpretedPacketView) : Prop where
  same : tracker.spec = spec
  started : tracker.initialized = true
  previous : tracker.previousPacket = last
  expected : tracker.expectedNext = buildNextExpected spec last

theorem observe_follows {tracker : DataOrderTracker} {spec : ProtocolSpec}
    (same : tracker.spec = spec) (packet : InterpretedPacketView) :
    (tracker.observe packet).Follows spec packet := by
  simp only [observe]
  split
  · exact ⟨same, rfl, rfl, congrArg (buildNextExpected · packet) same⟩
  split
  · exact ⟨same, rfl, rfl, congrArg (buildNextExpected · packet) same⟩
  split
  · exact ⟨same, rfl, rfl, congrArg (buildNextExpected · packet) same⟩
  · exact ⟨same, rfl, rfl, congrArg (buildNextExpected · packet) same⟩

private theorem observe_checkedPackets (tracker : DataOrderTracker)
    (packet : InterpretedPacketView) :
    (tracker.observe packet).checkedPackets = tracker.checkedPackets + 1 := by
  simp only [observe]
  split
  · rfl
  split
  · rfl
  split
  · rfl
  · rfl

/-- A packet that `observe` does not count as a deviation. -/
def Accepts (spec : ProtocolSpec) (previous current : InterpretedPacketView) : Prop :=
  isCpiRollover previous current spec = true ∨
    isExpected current (buildNextExpected spec previous) = true

/-- `matches_expected_`, `channel_batched_` and `first_mismatch_`. -/
def assessment (tracker : DataOrderTracker) : Bool × Bool × String :=
  (tracker.matchesExpected, tracker.channelBatched, tracker.firstMismatch)

/-- The test for channel batches of `observe`: the channel goes on in the next PRT. -/
def SkipsChannels (spec : ProtocolSpec) (previous current : InterpretedPacketView) : Prop :=
  previous.packetIndex = spec.packetsPerChannel ∧ current.packetIndex = 1 ∧
    current.channel = previous.channel ∧ current.prt = u16 (previous.prt + 1)

instance (spec : ProtocolSpec) (previous current : InterpretedPacketView) :
    Decidable (SkipsChannels spec previous current) :=
  inferInstanceAs (Decidable (_ ∧ _))

variable {tracker : DataOrderTracker} {spec : ProtocolSpec} {last : InterpretedPacketView}

theorem Follows.observe_accepted (follows : tracker.Follows spec last)
    {packet : InterpretedPacketView} (accepts : Accepts spec last packet) :
    (tracker.observe packet).assessment = tracker.assessment := by
  obtain ⟨same, started, previous, expected⟩ := follows
  have running : ¬ tracker.initialized = false := by simp [started]
  simp only [observe, if_neg running, same, previous, expected]
  cases rollover : isCpiRollover last packet spec with
  | true => rfl
  | false =>
      have found := accepts.resolve_left (ne_true_of_eq_false rollover)
      rw [found, Bool.not_true, Bool.and_false]
      rfl

theorem Follows.observe_deviating (follows : tracker.Follows spec last)
    (matched : tracker.matchesExpected = true) {packet : InterpretedPacketView}
    (deviates : ¬ Accepts spec last packet) :
    (tracker.observe packet).assessment =
      (false, decide (SkipsChannels spec last packet) || tracker.channelBatched,
        mismatchText (tracker.checkedPackets + 1) (buildNextExpected spec last) packet) := by
  obtain ⟨same, started, previous, expected⟩ := follows
  have running : ¬ tracker.initialized = false := by simp [started]
  obtain ⟨rollover, unexpected⟩ := not_or.mp deviates
  rw [Bool.not_eq_true] at unexpected
  simp only [observe, if_neg running, same, previous, expected, if_neg rollover, matched,
    unexpected, Bool.not_false, Bool.and_self, if_true]
  simp only [assessment, resynchronize, noteMismatch]
  split
  · rename_i skips
    have skips : SkipsChannels spec last packet := skips
    rw [decide_eq_true skips, Bool.true_or]
  · rename_i stays
    have stays : ¬ SkipsChannels spec last packet := stays
    rw [decide_eq_false stays, Bool.false_or]

/-- Only the first deviation is noted. -/
theorem observe_settled (settled : tracker.matchesExpected = false)
    (packet : InterpretedPacketView) :
    (tracker.observe packet).assessment = tracker.assessment := by
  simp only [observe]
  split
  · rfl
  split
  · rfl
  split
  · rename_i noting
    exact nomatch settled.symm.trans (Bool.and_eq_true_iff.mp noting).1
  · rfl

theorem Follows.observe_matchesExpected (follows : tracker.Follows spec last)
    (packet : InterpretedPacketView) :
    (tracker.observe packet).matchesExpected = true ↔
      tracker.matchesExpected = true ∧ Accepts spec last packet := by
  by_cases accepts : Accepts spec last packet
  · have kept : (tracker.observe packet).matchesExpected = tracker.matchesExpected :=
      congrArg Prod.fst (follows.observe_accepted accepts)
    rw [kept, and_iff_left accepts]
  · have missed : (tracker.observe packet).matchesExpected = false := by
      cases matched : tracker.matchesExpected with
      | true => exact congrArg Prod.fst (follows.observe_deviating matched accepts)
      | false => exact (congrArg Prod.fst (observe_settled matched packet)).trans matched
    exact iff_of_false (ne_true_of_eq_false missed) (fun both => accepts both.2)

theorem ofSpec_observe_matchesExpected (spec : ProtocolSpec) (packet : InterpretedPacketView) :
    ((ofSpec spec).observe packet).matchesExpected = true := rfl

/-! ## What a sequence leaves -/

/-- The expectation holds over a sequence if no packet of it deviates from its predecessor. -/
theorem Follows.observeAll_matchesExpected (follows : tracker.Follows spec last)
    (packets : List InterpretedPacketView) :
    (tracker.observeAll packets).matchesExpected = true ↔
      tracker.matchesExpected = true ∧ List.IsChain (Accepts spec) (last :: packets) := by
  induction packets generalizing tracker last with
  | nil => simp [observeAll]
  | cons packet rest ih =>
      have next := ih (observe_follows follows.same packet)
      rw [follows.observe_matchesExpected packet, and_assoc, ← List.isChain_cons_cons] at next
      exact next

theorem observeAll_checkedPackets (tracker : DataOrderTracker)
    (packets : List InterpretedPacketView) :
    (tracker.observeAll packets).checkedPackets = tracker.checkedPackets + packets.length := by
  induction packets generalizing tracker with
  | nil => rfl
  | cons packet rest ih =>
      have next := ih (tracker.observe packet)
      rw [observe_checkedPackets] at next
      rw [List.length_cons, ← Nat.add_assoc, Nat.add_right_comm]
      exact next

theorem observeAll_settled (settled : tracker.matchesExpected = false)
    (packets : List InterpretedPacketView) :
    (tracker.observeAll packets).assessment = tracker.assessment := by
  induction packets generalizing tracker with
  | nil => rfl
  | cons packet rest ih =>
      have one := observe_settled settled packet
      exact (ih ((congrArg Prod.fst one).trans settled)).trans one

theorem Follows.observeAll_accepted (follows : tracker.Follows spec last)
    {packets : List InterpretedPacketView} (chain : List.IsChain (Accepts spec) (last :: packets)) :
    (tracker.observeAll packets).assessment = tracker.assessment := by
  induction packets generalizing tracker last with
  | nil => rfl
  | cons packet rest ih =>
      obtain ⟨accepts, chain⟩ := List.isChain_cons_cons.mp chain
      have next := ih (observe_follows follows.same packet) chain
      exact next.trans (follows.observe_accepted accepts)

private theorem observeAll_spec (tracker : DataOrderTracker)
    (packets : List InterpretedPacketView) :
    (tracker.observeAll packets).spec = tracker.spec := by
  induction packets generalizing tracker with
  | nil => rfl
  | cons packet rest ih => exact (ih _).trans (observe_follows rfl packet).same

private theorem observeAll_concat (tracker : DataOrderTracker)
    (packets : List InterpretedPacketView)
    (packet : InterpretedPacketView) :
    tracker.observeAll (packets ++ [packet]) = (tracker.observeAll packets).observe packet := by
  rw [observeAll, List.foldl_concat]
  rfl

/-! ## What the summary shows -/

theorem populateSummary_checked (tracker : DataOrderTracker) (summary : DataOrderSummary) :
    (tracker.populateSummary summary).dataOrderCheckedPackets = tracker.checkedPackets := by
  simp only [populateSummary, populateDataOrderSummary]
  split
  · rfl
  split
  · rfl
  · rfl

theorem populateSummary_none (none : tracker.checkedPackets = 0) (summary : DataOrderSummary) :
    (tracker.populateSummary summary).dataOrderAssessment = "无数据包" ∧
      (tracker.populateSummary summary).dataOrderFirstMismatch = "" := by
  simp only [populateSummary, populateDataOrderSummary, if_pos none, and_self]

theorem populateSummary_matching (some : tracker.checkedPackets ≠ 0)
    (matched : tracker.matchesExpected = true) (summary : DataOrderSummary) :
    (tracker.populateSummary summary).dataOrderAssessment = "符合按 PRT 推进的和/差/差顺序" ∧
      (tracker.populateSummary summary).dataOrderFirstMismatch = "" := by
  simp only [populateSummary, populateDataOrderSummary, if_neg some, if_pos matched, and_self]

theorem populateSummary_deviating (some : tracker.checkedPackets ≠ 0) {batched : Bool}
    {text : String} (noted : tracker.assessment = (false, batched, text))
    (summary : DataOrderSummary) :
    (tracker.populateSummary summary).dataOrderAssessment =
        (if batched then "偏离按 PRT 推进顺序，当前捕获更像按通道分批到达"
        else "偏离按 PRT 推进顺序") ∧
      (tracker.populateSummary summary).dataOrderFirstMismatch = text := by
  obtain ⟨unmatched, rest⟩ := Prod.mk.inj noted
  obtain ⟨rfl, rfl⟩ := Prod.mk.inj rest
  have deviating := ne_true_of_eq_false unmatched
  simp only [populateSummary, populateDataOrderSummary, if_neg some, if_neg deviating, and_self]

/-- A tracker that has met no deviation. -/
theorem ofSpec_observeAll_accepted {packets : List InterpretedPacketView}
    (chain : List.IsChain (Accepts spec) packets) :
    ((ofSpec spec).observeAll packets).assessment = (true, false, "") := by
  cases packets with
  | nil => rfl
  | cons first rest =>
      have follows : ((ofSpec spec).observe first).Follows spec first := observe_follows rfl first
      exact follows.observeAll_accepted chain

/-- The first deviation is what the tracker notes. -/
theorem ofSpec_observeAll_deviating {before : List InterpretedPacketView}
    {packet : InterpretedPacketView} (after : List InterpretedPacketView)
    (chain : List.IsChain (Accepts spec) (before ++ [last]))
    (deviates : ¬ Accepts spec last packet) :
    ((ofSpec spec).observeAll (before ++ last :: packet :: after)).assessment =
      (false, decide (SkipsChannels spec last packet),
        mismatchText (before.length + 2) (buildNextExpected spec last) packet) := by
  let tracker := (ofSpec spec).observeAll (before ++ [last])
  have split : (ofSpec spec).observeAll (before ++ last :: packet :: after) =
      (tracker.observe packet).observeAll after := by
    rw [List.append_cons, observeAll, List.foldl_append]
    rfl
  have unmarked : tracker.assessment = (true, false, "") := ofSpec_observeAll_accepted chain
  have follows : tracker.Follows spec last := by
    rw [show tracker = _ from observeAll_concat ..]
    exact observe_follows (observeAll_spec ..) last
  have checked : tracker.checkedPackets = before.length + 1 := by
    rw [observeAll_checkedPackets, List.length_append]
    exact Nat.zero_add _
  have noted := follows.observe_deviating (congrArg Prod.fst unmarked) deviates
  have unbatched : tracker.channelBatched = false := congrArg (fun shown => shown.2.1) unmarked
  rw [checked, unbatched, Bool.or_false] at noted
  rw [split, observeAll_settled (congrArg Prod.fst noted), noted]

/-- Packets that are not in order have a first one that deviates. -/
theorem exists_first_deviation {packets : List InterpretedPacketView}
    (broken : ¬ List.IsChain (Accepts spec) packets) :
    ∃ before last packet after, packets = before ++ last :: packet :: after ∧
      List.IsChain (Accepts spec) (before ++ [last]) ∧ ¬ Accepts spec last packet := by
  induction packets using List.reverseRecOn with
  | nil => exact absurd List.isChain_nil broken
  | append_singleton packets newest ih =>
      by_cases chain : List.IsChain (Accepts spec) packets
      · rw [List.isChain_append, not_and, not_and] at broken
        have deviates := broken chain (List.isChain_singleton newest)
        push Not at deviates
        obtain ⟨last, ends, other, only, deviates⟩ := deviates
        obtain rfl : newest = other := Option.some.inj only
        obtain ⟨before, rfl⟩ := List.getLast?_eq_some_iff.mp ends
        exact ⟨before, last, newest, [], List.append_assoc .., chain, deviates⟩
      · obtain ⟨before, last, packet, after, rfl, inOrder, deviates⟩ := ih chain
        exact ⟨before, last, packet, after ++ [newest], List.append_assoc .., inOrder, deviates⟩

end DataOrderTracker

end RxTech
