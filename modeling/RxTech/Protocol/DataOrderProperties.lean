import Mathlib.Data.List.Range
import RxTech.Protocol.DataOrderTracker

/-!
# Data in order

A canonical stream sends full PRTs, channel by channel and packet by packet, one CPI after
the other. The tracker is satisfied with the contiguous parts of such streams.
-/

set_option autoImplicit false

namespace RxTech

/-! ## Canonical streams -/

/-- The place of a data packet in a stream; the numbers do not wrap around here. -/
structure StreamPoint where
  cpi : UInt16
  prt : Nat
  channel : Nat
  packetIndex : Nat
  deriving DecidableEq, Repr

def InterpretedPacketView.point (packet : InterpretedPacketView) : StreamPoint :=
  ⟨packet.cpi, packet.prt, packet.channel, packet.packetIndex⟩

section Streams

variable (spec : ProtocolSpec)

/-- A PRT, channel by channel from 0 and packet by packet from 1. -/
def fullPrt (cpi : UInt16) (prt : Nat) : List StreamPoint :=
  (List.range spec.channelsPerPrt).flatMap fun channel =>
    (List.range spec.packetsPerChannel).map fun index => ⟨cpi, prt, channel, index + 1⟩

/-- Consecutive full PRTs of a CPI. -/
def prtRun (cpi : UInt16) : Nat → Nat → List StreamPoint
  | _, 0 => []
  | first, count + 1 => fullPrt spec cpi first ++ prtRun cpi (first + 1) count

/-- CPIs in ascending order with so many PRTs each. The first one starts at any PRT, the
others at PRT 1. -/
def canonicalStream : UInt16 → Nat → List Nat → List StreamPoint
  | _, _, [] => []
  | cpi, first, count :: counts =>
      prtRun spec cpi first count ++ canonicalStream (cpi + 1) 1 counts

/-- A contiguous part of a canonical stream in which every CPI has a PRT. -/
def InOrder (points : List StreamPoint) : Prop :=
  ∃ cpi first counts, (∀ count ∈ counts, 0 < count) ∧
    points <:+: canonicalStream spec cpi first counts

end Streams

/-! ## Successors -/

/-- The points that may follow a point of a stream. -/
inductive Successor (spec : ProtocolSpec) : StreamPoint → StreamPoint → Prop where
  | packet {cpi : UInt16} {prt channel packetIndex : Nat}
      (inside : packetIndex < spec.packetsPerChannel) :
      Successor spec ⟨cpi, prt, channel, packetIndex⟩ ⟨cpi, prt, channel, packetIndex + 1⟩
  | channel {cpi : UInt16} {prt channel : Nat} (inside : channel + 1 < spec.channelsPerPrt) :
      Successor spec ⟨cpi, prt, channel, spec.packetsPerChannel⟩ ⟨cpi, prt, channel + 1, 1⟩
  | prt {cpi : UInt16} {prt channel : Nat} (last : channel + 1 = spec.channelsPerPrt) :
      Successor spec ⟨cpi, prt, channel, spec.packetsPerChannel⟩ ⟨cpi, prt + 1, 0, 1⟩
  | cpi {cpi : UInt16} {prt channel : Nat} (last : channel + 1 = spec.channelsPerPrt) :
      Successor spec ⟨cpi, prt, channel, spec.packetsPerChannel⟩ ⟨cpi + 1, 1, 0, 1⟩

structure StreamPoint.Placed (spec : ProtocolSpec) (point : StreamPoint) : Prop where
  channel : point.channel < spec.channelsPerPrt
  positive : 1 ≤ point.packetIndex
  index : point.packetIndex ≤ spec.packetsPerChannel

section Prt

variable {spec : ProtocolSpec} {cpi : UInt16} {prt : Nat}

/-- The point at a position of a PRT. -/
def prtPoint (spec : ProtocolSpec) (cpi : UInt16) (prt position : Nat) : StreamPoint :=
  ⟨cpi, prt, position / spec.packetsPerChannel, position % spec.packetsPerChannel + 1⟩

def StreamPoint.position (spec : ProtocolSpec) (point : StreamPoint) : Nat :=
  point.channel * spec.packetsPerChannel + (point.packetIndex - 1)

private theorem prtPoint_at {channel index : Nat} (inside : index < spec.packetsPerChannel) :
    prtPoint spec cpi prt (channel * spec.packetsPerChannel + index) =
      ⟨cpi, prt, channel, index + 1⟩ := by
  have quotient : (channel * spec.packetsPerChannel + index) / spec.packetsPerChannel =
      channel := by
    rw [Nat.mul_comm, Nat.mul_add_div (by omega), Nat.div_eq_of_lt inside, Nat.add_zero]
  have remainder : (channel * spec.packetsPerChannel + index) % spec.packetsPerChannel =
      index := by
    rw [Nat.mul_comm, Nat.mul_add_mod, Nat.mod_eq_of_lt inside]
  rw [prtPoint, quotient, remainder]

private theorem fullPrt_eq : fullPrt spec cpi prt =
    (List.range (spec.channelsPerPrt * spec.packetsPerChannel)).map (prtPoint spec cpi prt) := by
  rw [fullPrt]
  induction spec.channelsPerPrt with
  | zero => simp
  | succ channels ih =>
      have last : (List.range spec.packetsPerChannel).map
            (fun index => StreamPoint.mk cpi prt channels (index + 1)) =
          ((List.range spec.packetsPerChannel).map
            (channels * spec.packetsPerChannel + ·)).map (prtPoint spec cpi prt) := by
        rw [List.map_map]
        refine List.map_congr_left fun index member => ?_
        exact (prtPoint_at (List.mem_range.mp member)).symm
      rw [List.range_succ, List.flatMap_append, ih, Nat.succ_mul, List.range_add, List.map_append,
        List.flatMap_singleton, last]

private theorem fullPrt_length :
    (fullPrt spec cpi prt).length = spec.channelsPerPrt * spec.packetsPerChannel := by
  rw [fullPrt_eq, List.length_map, List.length_range]

theorem StreamPoint.Placed.position_lt {point : StreamPoint} (placed : point.Placed spec) :
    point.position spec < spec.channelsPerPrt * spec.packetsPerChannel := by
  have rows := Nat.mul_le_mul_right spec.packetsPerChannel placed.channel
  have index := placed.index
  have positive := placed.positive
  rw [Nat.succ_mul] at rows
  rw [StreamPoint.position]
  omega

/-- The PRT of a point from the point on. -/
theorem StreamPoint.Placed.drop_fullPrt {point : StreamPoint} (placed : point.Placed spec) :
    (fullPrt spec point.cpi point.prt).drop (point.position spec) =
      point :: (fullPrt spec point.cpi point.prt).drop (point.position spec + 1) := by
  have inside : point.position spec < (fullPrt spec point.cpi point.prt).length := by
    rw [fullPrt_length]
    exact placed.position_lt
  have index := placed.index
  have positive := placed.positive
  have here : (fullPrt spec point.cpi point.prt)[point.position spec] = point := by
    simp only [fullPrt_eq, List.getElem_map, List.getElem_range]
    rw [StreamPoint.position, prtPoint_at (by omega), Nat.sub_add_cancel positive]
  rw [List.drop_eq_getElem_cons inside, here]

/-- Neighbours within a PRT. -/
theorem prtPoint_successor {position : Nat}
    (inside : position + 1 < spec.channelsPerPrt * spec.packetsPerChannel) :
    Successor spec (prtPoint spec cpi prt position) (prtPoint spec cpi prt (position + 1)) := by
  have packets : 0 < spec.packetsPerChannel := by
    refine Nat.pos_of_ne_zero fun none => ?_
    rw [none, Nat.mul_zero] at inside
    omega
  obtain ⟨channel, index, small, rfl⟩ : ∃ channel index, index < spec.packetsPerChannel ∧
      position = channel * spec.packetsPerChannel + index :=
    ⟨_, _, Nat.mod_lt _ packets, (Nat.div_add_mod' position spec.packetsPerChannel).symm⟩
  rw [prtPoint_at small]
  by_cases last : index + 1 < spec.packetsPerChannel
  · rw [Nat.add_assoc, prtPoint_at last]
    exact .packet last
  · have full : index + 1 = spec.packetsPerChannel := by omega
    have next : channel * spec.packetsPerChannel + index + 1 =
        (channel + 1) * spec.packetsPerChannel + 0 := by
      rw [Nat.succ_mul]
      omega
    rw [next] at inside ⊢
    rw [prtPoint_at packets, full]
    exact .channel (Nat.lt_of_mul_lt_mul_right inside)

private theorem fullPrt_isChain : List.IsChain (Successor spec) (fullPrt spec cpi prt) := by
  rw [fullPrt_eq, List.isChain_map, List.isChain_range]
  intro position inside
  exact prtPoint_successor (by omega)

end Prt

/-! ## Streams are chains of successors -/

section Chains

variable {spec : ProtocolSpec} (channels : 0 < spec.channelsPerPrt)
  (packets : 0 < spec.packetsPerChannel)

include channels packets

private theorem fullPrt_head? (cpi : UInt16) (prt : Nat) :
    (fullPrt spec cpi prt).head? = some ⟨cpi, prt, 0, 1⟩ := by
  have placed : (StreamPoint.mk cpi prt 0 1).Placed spec := ⟨channels, Nat.le_refl 1, packets⟩
  have start := placed.drop_fullPrt
  rw [show (StreamPoint.mk cpi prt 0 1).position spec = 0 by simp [StreamPoint.position],
    List.drop_zero] at start
  rw [start]
  rfl

private theorem fullPrt_getLast? (cpi : UInt16) (prt : Nat) :
    ∃ channel, channel + 1 = spec.channelsPerPrt ∧
      (fullPrt spec cpi prt).getLast? = some ⟨cpi, prt, channel, spec.packetsPerChannel⟩ := by
  refine ⟨spec.channelsPerPrt - 1, by omega, ?_⟩
  have last : spec.channelsPerPrt * spec.packetsPerChannel - 1 =
      (spec.channelsPerPrt - 1) * spec.packetsPerChannel + (spec.packetsPerChannel - 1) := by
    obtain ⟨rest, is⟩ := Nat.exists_eq_add_one.mpr channels
    rw [is, Nat.add_sub_cancel, Nat.succ_mul]
    omega
  have inside : spec.channelsPerPrt * spec.packetsPerChannel - 1 <
      (fullPrt spec cpi prt).length := by
    have positive := Nat.mul_pos channels packets
    rw [fullPrt_length]
    omega
  rw [List.getLast?_eq_getElem?, fullPrt_length, List.getElem?_eq_getElem inside]
  simp only [fullPrt_eq, List.getElem_map, List.getElem_range]
  rw [last, prtPoint_at (by omega), Nat.sub_add_cancel packets]

private theorem fullPrt_append_isChain {cpi : UInt16} {prt : Nat} {rest : List StreamPoint}
    (chain : List.IsChain (Successor spec) rest)
    (continues : ∀ point ∈ rest.head?, point = ⟨cpi, prt + 1, 0, 1⟩ ∨ point = ⟨cpi + 1, 1, 0, 1⟩) :
    List.IsChain (Successor spec) (fullPrt spec cpi prt ++ rest) := by
  refine fullPrt_isChain.append chain fun last isLast point isHead => ?_
  obtain ⟨channel, full, is⟩ := fullPrt_getLast? channels packets cpi prt
  rw [is] at isLast
  cases isLast
  rcases continues point isHead with rfl | rfl
  · exact .prt full
  · exact .cpi full

private theorem prtRun_append_isChain {cpi : UInt16} {rest : List StreamPoint}
    (chain : List.IsChain (Successor spec) rest)
    (continues : ∀ point ∈ rest.head?, point = ⟨cpi + 1, 1, 0, 1⟩) (first count : Nat) :
    List.IsChain (Successor spec) (prtRun spec cpi first count ++ rest) := by
  induction count generalizing first with
  | zero => exact chain
  | succ count ih =>
      rw [prtRun, List.append_assoc]
      refine fullPrt_append_isChain channels packets (ih (first + 1)) fun point isHead => ?_
      cases count with
      | zero => exact .inr (continues point isHead)
      | succ count =>
          rw [prtRun, List.append_assoc, List.head?_append,
            fullPrt_head? channels packets cpi (first + 1)] at isHead
          cases isHead
          exact .inl rfl

private theorem canonicalStream_head? {cpi : UInt16} {first : Nat} {counts : List Nat}
    (positive : ∀ count ∈ counts, 0 < count) :
    ∀ point ∈ (canonicalStream spec cpi first counts).head?, point = ⟨cpi, first, 0, 1⟩ := by
  intro point isHead
  cases counts with
  | nil => cases isHead
  | cons count counts =>
      obtain ⟨rest, rfl⟩ := Nat.exists_eq_add_one.mpr (positive count List.mem_cons_self)
      rw [canonicalStream, prtRun, List.append_assoc, List.head?_append,
        fullPrt_head? channels packets cpi first] at isHead
      cases isHead
      rfl

private theorem canonicalStream_isChain {counts : List Nat} (positive : ∀ count ∈ counts, 0 < count)
    (cpi : UInt16) (first : Nat) :
    List.IsChain (Successor spec) (canonicalStream spec cpi first counts) := by
  induction counts generalizing cpi first with
  | nil => exact .nil
  | cons count counts ih =>
      have later : ∀ count ∈ counts, 0 < count :=
        fun count member => positive count (List.mem_cons_of_mem _ member)
      exact prtRun_append_isChain channels packets (ih later (cpi + 1) 1)
        (canonicalStream_head? channels packets later) first count

theorem InOrder.isChain {points : List StreamPoint} (inOrder : InOrder spec points) :
    List.IsChain (Successor spec) points := by
  obtain ⟨cpi, first, counts, positive, before, after, stream⟩ := inOrder
  have chain := canonicalStream_isChain channels packets positive cpi first
  rw [← stream] at chain
  exact chain.left_of_append.right_of_append

end Chains

/-! ## Chains of successors are parts of streams -/

section Parts

variable {spec : ProtocolSpec}

/-- A stream from its first PRT on. -/
theorem canonicalStream_succ (cpi : UInt16) (first count : Nat) (counts : List Nat) :
    canonicalStream spec cpi first ((count + 1) :: counts) =
      fullPrt spec cpi first ++ canonicalStream spec cpi (first + 1) (count :: counts) := by
  rw [canonicalStream, prtRun, List.append_assoc]
  rfl

theorem StreamPoint.Placed.drop_canonicalStream {point : StreamPoint}
    (placed : point.Placed spec) (count : Nat) (counts : List Nat) :
    (canonicalStream spec point.cpi point.prt ((count + 1) :: counts)).drop
        (point.position spec) =
      point :: (canonicalStream spec point.cpi point.prt ((count + 1) :: counts)).drop
        (point.position spec + 1) := by
  have inside := placed.position_lt
  have first := placed.drop_fullPrt
  rw [canonicalStream_succ, List.drop_append_of_le_length (by rw [fullPrt_length]; omega), first,
    List.drop_append_of_le_length (by rw [fullPrt_length]; omega), List.cons_append]

/-- Behind the last point of its first PRT a stream goes on with the second one. -/
theorem drop_canonicalStream_last {cpi : UInt16} {prt channel : Nat}
    (last : channel + 1 = spec.channelsPerPrt)
    (placed : (StreamPoint.mk cpi prt channel spec.packetsPerChannel).Placed spec) (count : Nat)
    (counts : List Nat) :
    (canonicalStream spec cpi prt ((count + 1) :: counts)).drop
        ((StreamPoint.mk cpi prt channel spec.packetsPerChannel).position spec + 1) =
      canonicalStream spec cpi (prt + 1) (count :: counts) := by
  have positive := placed.positive
  have length : (StreamPoint.mk cpi prt channel spec.packetsPerChannel).position spec + 1 =
      (fullPrt spec cpi prt).length := by
    simp only [StreamPoint.position] at positive ⊢
    rw [fullPrt_length, ← last, Nat.succ_mul]
    omega
  rw [canonicalStream_succ, length, List.drop_left]

/-- The stream is found from the end of the chain: the streams of the tail are extended
by the PRT of the head where the head is the last point of it. -/
theorem exists_canonicalStream {point : StreamPoint} {rest : List StreamPoint}
    (placed : ∀ other ∈ point :: rest, other.Placed spec)
    (chain : List.IsChain (Successor spec) (point :: rest)) :
    ∃ count counts, (∀ count ∈ counts, 0 < count) ∧
      point :: rest <+: (canonicalStream spec point.cpi point.prt ((count + 1) :: counts)).drop
        (point.position spec) := by
  induction rest generalizing point with
  | nil =>
      refine ⟨0, [], fun count member => (List.not_mem_nil member).elim, ?_⟩
      rw [(placed point List.mem_cons_self).drop_canonicalStream]
      exact ⟨_, rfl⟩
  | cons next rest ih =>
      have here := placed point List.mem_cons_self
      obtain ⟨successor, tail⟩ := List.isChain_cons_cons.mp chain
      obtain ⟨count, counts, positive, part⟩ :=
        ih (fun other member => placed other (List.mem_cons_of_mem _ member)) tail
      cases successor with
      | packet inside =>
          refine ⟨count, counts, positive, ?_⟩
          rw [here.drop_canonicalStream, List.cons_prefix_cons]
          refine ⟨rfl, ?_⟩
          have moved := here.positive
          simp only [StreamPoint.position, Nat.add_sub_cancel] at part moved ⊢
          rwa [Nat.add_assoc, Nat.sub_add_cancel moved]
      | channel inside =>
          refine ⟨count, counts, positive, ?_⟩
          rw [here.drop_canonicalStream, List.cons_prefix_cons]
          refine ⟨rfl, ?_⟩
          have moved := here.positive
          simp only [StreamPoint.position, Nat.succ_mul] at part moved ⊢
          rwa [Nat.add_assoc, Nat.sub_add_cancel moved]
      | prt last =>
          refine ⟨count + 1, counts, positive, ?_⟩
          rw [here.drop_canonicalStream, List.cons_prefix_cons, drop_canonicalStream_last last here]
          refine ⟨rfl, ?_⟩
          simpa [StreamPoint.position] using part
      | cpi last =>
          refine ⟨0, (count + 1) :: counts, ?_, ?_⟩
          · intro other member
            rcases List.mem_cons.mp member with rfl | later
            · omega
            · exact positive other later
          · rw [here.drop_canonicalStream, List.cons_prefix_cons,
              drop_canonicalStream_last last here]
            refine ⟨rfl, ?_⟩
            simpa [StreamPoint.position, canonicalStream, prtRun] using part

theorem InOrder.of_isChain {points : List StreamPoint}
    (placed : ∀ point ∈ points, point.Placed spec)
    (chain : List.IsChain (Successor spec) points) : InOrder spec points := by
  cases points with
  | nil => exact ⟨0, 0, [], fun count member => (List.not_mem_nil member).elim, [], [], rfl⟩
  | cons point rest =>
      obtain ⟨count, counts, positive, part⟩ := exists_canonicalStream placed chain
      refine ⟨point.cpi, point.prt, (count + 1) :: counts, ?_, ?_⟩
      · intro other member
        rcases List.mem_cons.mp member with rfl | later
        · omega
        · exact positive other later
      · exact part.isInfix.trans (List.drop_suffix _ _).isInfix

end Parts

/-! ## The tracker -/

namespace DataOrderTracker

/-- A data packet that the tracker may be shown: its numbers are of the spec, and 16 bits
wide in the code. -/
structure Shown (spec : ProtocolSpec) (packet : InterpretedPacketView) : Prop where
  placed : packet.point.Placed spec
  prt : packet.prt < 65535
  channel16 : packet.channel < 65536
  index16 : packet.packetIndex < 65536

private theorem successor_iff {spec : ProtocolSpec} {point next : StreamPoint} :
    Successor spec point next ↔
      (point.packetIndex < spec.packetsPerChannel ∧
        next = ⟨point.cpi, point.prt, point.channel, point.packetIndex + 1⟩) ∨
      (point.packetIndex = spec.packetsPerChannel ∧
        ((point.channel + 1 < spec.channelsPerPrt ∧
            next = ⟨point.cpi, point.prt, point.channel + 1, 1⟩) ∨
          (point.channel + 1 = spec.channelsPerPrt ∧
            (next = ⟨point.cpi, point.prt + 1, 0, 1⟩ ∨ next = ⟨point.cpi + 1, 1, 0, 1⟩)))) := by
  constructor
  · intro successor
    cases successor with
    | packet inside => exact .inl ⟨inside, rfl⟩
    | channel inside => exact .inr ⟨rfl, .inl ⟨inside, rfl⟩⟩
    | prt last => exact .inr ⟨rfl, .inr ⟨last, .inl rfl⟩⟩
    | cpi last => exact .inr ⟨rfl, .inr ⟨last, .inr rfl⟩⟩
  · intro cases
    obtain ⟨cpi, prt, channel, packetIndex⟩ := point
    rcases cases with ⟨inside, rfl⟩ | ⟨rfl, ⟨inside, rfl⟩ | ⟨last, rfl | rfl⟩⟩
    · exact .packet inside
    · exact .channel inside
    · exact .prt last
    · exact .cpi last

private theorem isCpiRollover_iff {spec : ProtocolSpec} {previous current : InterpretedPacketView} :
    isCpiRollover previous current spec = true ↔
      previous.packetIndex = spec.packetsPerChannel ∧
        previous.channel + 1 = spec.channelsPerPrt ∧
        current.point = ⟨previous.cpi + 1, 1, 0, 1⟩ := by
  simp [isCpiRollover, InterpretedPacketView.point, and_assoc]

private theorem isExpected_iff {packet : InterpretedPacketView} {expected : OrderCursor} :
    isExpected packet expected = true ↔
      packet.point = ⟨expected.cpi, expected.prt, expected.channel, expected.packetIndex⟩ := by
  simp [isExpected, InterpretedPacketView.point, and_assoc]

/-- The casts of `build_next_expected` lose nothing that a packet could carry. -/
theorem accepts_iff {spec : ProtocolSpec}
    (representable : spec.channelsPerPrt ≤ 65536 ∨ 65536 ≤ spec.packetsPerChannel)
    {previous current : InterpretedPacketView} (shown : Shown spec previous)
    (shown' : Shown spec current) :
    Accepts spec previous current ↔ Successor spec previous.point current.point := by
  have index := shown.placed.index
  have channel := shown.placed.channel
  have prt := shown.prt
  have index16 := shown.index16
  have positive := shown'.placed.positive
  have bounded := shown'.index16
  have channel16 := shown.channel16
  rw [Accepts, isCpiRollover_iff, isExpected_iff, successor_iff, buildNextExpected]
  simp only [InterpretedPacketView.point] at index channel positive bounded ⊢
  by_cases more : previous.packetIndex < spec.packetsPerChannel
  · have notLast : ¬ previous.packetIndex = spec.packetsPerChannel := by omega
    by_cases wraps : previous.packetIndex + 1 < 65536
    · simp [more, notLast, u16, Nat.mod_eq_of_lt wraps]
    · have zero : u16 (previous.packetIndex + 1) = 0 := by
        rw [u16]
        omega
      simp only [more, notLast, zero, StreamPoint.mk.injEq, if_true, false_and, false_or, or_false,
        true_and]
      omega
  · have last : previous.packetIndex = spec.packetsPerChannel := by omega
    by_cases room : previous.channel + 1 < spec.channelsPerPrt
    · have notLast : ¬ previous.channel + 1 = spec.channelsPerPrt := by omega
      have fits : previous.channel + 1 < 65536 := by omega
      simp [last, room, notLast, u16, Nat.mod_eq_of_lt fits]
    · have complete : previous.channel + 1 = spec.channelsPerPrt := by omega
      have fits : previous.prt + 1 < 65536 := by omega
      simp [last, complete, u16, Nat.mod_eq_of_lt fits, or_comm]

/-- The tracker accepts exactly the contiguous parts of canonical streams, as long as
every channel number below `channels_per_prt` has 16 bits or no packet is the last of its
channel. -/
theorem observeAll_matchesExpected_iff_inOrder (spec : ProtocolSpec)
    (packets : List InterpretedPacketView) (channels : 0 < spec.channelsPerPrt)
    (perChannel : 0 < spec.packetsPerChannel)
    (representable : spec.channelsPerPrt ≤ 65536 ∨ 65536 ≤ spec.packetsPerChannel)
    (nonempty : packets ≠ []) (shown : ∀ packet ∈ packets, Shown spec packet) :
    ((ofSpec spec).observeAll packets).matchesExpected = true ↔
      InOrder spec (packets.map InterpretedPacketView.point) := by
  obtain ⟨first, rest, rfl⟩ := List.exists_cons_of_ne_nil nonempty
  have follows : ((ofSpec spec).observe first).Follows spec first := observe_follows rfl first
  have accepted : ((ofSpec spec).observeAll (first :: rest)).matchesExpected = true ↔
      List.IsChain (Accepts spec) (first :: rest) :=
    (follows.observeAll_matchesExpected rest).trans
      (and_iff_right (ofSpec_observe_matchesExpected spec first))
  have chains : List.IsChain (Accepts spec) (first :: rest) ↔
      List.IsChain (Successor spec) ((first :: rest).map InterpretedPacketView.point) := by
    rw [List.isChain_map]
    exact List.IsChain.iff_of_mem_imp fun previous current before after =>
      accepts_iff representable (shown previous before) (shown current after)
  rw [accepted, chains]
  constructor
  · intro chain
    refine .of_isChain (fun point member => ?_) chain
    obtain ⟨packet, found, rfl⟩ := List.mem_map.mp member
    exact (shown packet found).placed
  · exact InOrder.isChain channels perChannel

/-- The end of a PRT, and the begin of the next CPI. -/
theorem observeAll_matchesExpected_iff_inOrder_rollover :
    let spec : ProtocolSpec := {}
    let packets : List InterpretedPacketView :=
      [{ cpi := 1, prt := 64, channel := 2, packetIndex := 8 },
        { cpi := 1, prt := 64, channel := 2, packetIndex := 9 },
        { cpi := 2, prt := 1, channel := 0, packetIndex := 1 }]
    ((ofSpec spec).observeAll packets).matchesExpected = true ∧
      (((ofSpec spec).observeAll packets).matchesExpected = true ↔
        InOrder spec (packets.map InterpretedPacketView.point)) := by
  refine ⟨rfl, observeAll_matchesExpected_iff_inOrder {} _ (by decide) (by decide)
    (.inl (by decide)) (by simp) fun packet member => ?_⟩
  simp only [List.mem_cons, List.not_mem_nil, or_false] at member
  rcases member with rfl | rfl | rfl
  · exact ⟨⟨by decide, by decide, by decide⟩, by decide, by decide, by decide⟩
  · exact ⟨⟨by decide, by decide, by decide⟩, by decide, by decide, by decide⟩
  · exact ⟨⟨by decide, by decide, by decide⟩, by decide, by decide, by decide⟩

/-- With 65537 channels the successor of channel 65535 is channel 0 of the same PRT. -/
theorem observeAll_matchesExpected_channel_wraps :
    let spec : ProtocolSpec := { channelsPerPrt := 65537, packetsPerChannel := 1 }
    let packets : List InterpretedPacketView :=
      [{ prt := 5, channel := 65535, packetIndex := 1 }, { prt := 5, channel := 0, packetIndex := 1 }]
    0 < spec.channelsPerPrt ∧ 0 < spec.packetsPerChannel ∧
      (∀ packet ∈ packets, Shown spec packet) ∧
      ((ofSpec spec).observeAll packets).matchesExpected = true ∧
      ¬ InOrder spec (packets.map InterpretedPacketView.point) := by
  refine ⟨by decide, by decide, fun packet member => ?_, rfl, fun inOrder => ?_⟩
  · simp only [List.mem_cons, List.not_mem_nil, or_false] at member
    rcases member with rfl | rfl
    · exact ⟨⟨by decide, by decide, by decide⟩, by decide, by decide, by decide⟩
    · exact ⟨⟨by decide, by decide, by decide⟩, by decide, by decide, by decide⟩
  · have chain := InOrder.isChain (by decide) (by decide) inOrder
    have successor := (List.isChain_cons_cons.mp chain).1
    simp [successor_iff, InterpretedPacketView.point] at successor

end DataOrderTracker

end RxTech
