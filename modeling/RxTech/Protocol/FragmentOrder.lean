import Mathlib.Data.List.Dedup
import RxTech.Protocol.FragmentedDatagram
import RxTech.Protocol.ReassemblyLoop

/-!
# Fragments in any order

The fragments of any number of datagrams, interleaved in any order, give each datagram
back with the last of its fragments.
-/

set_option autoImplicit false

namespace RxTech

open UdpPayloadAssembler

/-- What the calls of `push` return: a datagram comes with its last fragment. -/
def replies : List FragmentArrival → List (List UdpPayloadFrame)
  | [] => []
  | arrival :: rest =>
      (if arrival.datagram ∈ rest.map FragmentArrival.datagram then []
        else [arrival.datagram.frame]) :: replies rest

/-- The fragments of a datagram among those still to come. -/
def missing (arrivals : List FragmentArrival) (datagram : FragmentedDatagram) : List Nat :=
  (arrivals.filter (·.datagram = datagram)).map FragmentArrival.index

section Missing

variable {arrival : FragmentArrival} {rest : List FragmentArrival} {datagram : FragmentedDatagram}

private theorem missing_self : missing (arrival :: rest) arrival.datagram =
    arrival.index :: missing rest arrival.datagram := by
  simp [missing]

private theorem missing_other (other : datagram ≠ arrival.datagram) :
    missing (arrival :: rest) datagram = missing rest datagram := by
  simp [missing, other.symm]

private theorem mem_missing {arrivals : List FragmentArrival} {index : Nat} :
    index ∈ missing arrivals datagram ↔
      (datagram, index) ∈ arrivals.map fun arrival => (arrival.datagram, arrival.index) := by
  simp only [missing, List.mem_map, List.mem_filter, decide_eq_true_eq, Prod.mk.injEq, and_assoc]

private theorem missing_eq_nil_iff {arrivals : List FragmentArrival} :
    missing arrivals datagram = [] ↔ datagram ∉ arrivals.map FragmentArrival.datagram := by
  simp [missing, List.filter_eq_nil_iff]

private theorem missing_lt {arrivals : List FragmentArrival} {index : Nat}
    (member : index ∈ missing arrivals datagram) : index < datagram.pieces.length := by
  obtain ⟨arrival, here, rfl⟩ := List.mem_map.mp member
  have same := of_decide_eq_true (List.mem_filter.mp here).2
  exact same ▸ arrival.index_lt

end Missing

namespace UdpPayloadAssembler

variable {assembler : UdpPayloadAssembler} {arrival : FragmentArrival} {rest : List FragmentArrival}

/-- The assembler while `arrivals` are still to come. -/
structure Awaits (assembler : UdpPayloadAssembler) (datagrams : List FragmentedDatagram)
    (arrivals : List FragmentArrival) : Prop where
  holds : ∀ datagram ∈ datagrams, missing arrivals datagram ≠ [] →
    ((assembler.fragments datagram.key).getD {}).Holds datagram (missing arrivals datagram)
  free : ∀ key, (∀ datagram ∈ datagrams, datagram.key = key → missing arrivals datagram = []) →
    assembler.fragments key = none

/-- What `push` does with a fragment. -/
theorem push_arrival
    (holds : (assembler.assemblyWith arrival.ip).Holds arrival.datagram
      (missing rest arrival.datagram)) :
    assembler.push arrival.packet =
      some (if missing rest arrival.datagram = [] then
        ((assembler.put arrival.ip.key (assembler.assemblyWith arrival.ip)).erase arrival.ip.key,
          [arrival.datagram.frame])
      else (assembler.put arrival.ip.key (assembler.assemblyWith arrival.ip), [])) := by
  have range (other : Nat) (member : other ∈ missing rest arrival.datagram) := missing_lt member
  by_cases waits : (assembler.assemblyWith arrival.ip).hasTotalLength = false ∨
      (assembler.assemblyWith arrival.ip).hasUdpHeader = false
  · have incomplete : missing rest arrival.datagram ≠ [] := by
      intro complete
      rw [complete] at holds
      simp [holds.header, holds.last] at waits
    rw [if_neg incomplete]
    exact push_waiting arrival.readIpv4 arrival.fragment rfl waits
  · have known := eq_true_of_ne_false (not_or.mp waits).1
    have header := eq_true_of_ne_false (not_or.mp waits).2
    have joined := holds.reassemble known range
    obtain ⟨sourcePort, destPort, udpLength⟩ := holds.ports header
    by_cases complete : missing rest arrival.datagram = []
    · rw [if_pos complete] at joined ⊢
      have fits : ¬ ((assembler.assemblyWith arrival.ip).udpLength < 8 ∨
          arrival.datagram.ipPayload.length < (assembler.assemblyWith arrival.ip).udpLength) := by
        rw [udpLength, not_or, Nat.not_lt, Nat.not_lt]
        exact ⟨arrival.datagram.header, arrival.datagram.within⟩
      rw [push_assembled arrival.readIpv4 arrival.fragment rfl waits joined fits, sourcePort,
        destPort, udpLength]
      have source : arrival.ip.sourceIpv4Be = arrival.datagram.sourceIpv4Be := arrival.source
      have dest : arrival.ip.destIpv4Be = arrival.datagram.destIpv4Be := arrival.dest
      rw [source, dest]
      rfl
    · rw [if_neg complete] at joined ⊢
      exact push_gap arrival.readIpv4 arrival.fragment rfl waits joined

/-- A call touches the assembly of its own datagram only. -/
theorem Awaits.next {datagrams : List FragmentedDatagram} {next : UdpPayloadAssembler}
    (awaits : assembler.Awaits datagrams (arrival :: rest))
    (distinct : (datagrams.map FragmentedDatagram.key).Nodup)
    (member : arrival.datagram ∈ datagrams)
    (elsewhere : ∀ key, key ≠ arrival.datagram.key →
      next.fragments key = assembler.fragments key)
    (erased : missing rest arrival.datagram = [] →
      next.fragments arrival.datagram.key = none)
    (stored : missing rest arrival.datagram ≠ [] →
      ((next.fragments arrival.datagram.key).getD {}).Holds arrival.datagram
        (missing rest arrival.datagram)) :
    next.Awaits datagrams rest := by
  have keys {datagram : FragmentedDatagram} (known : datagram ∈ datagrams)
      (same : datagram.key = arrival.datagram.key) : datagram = arrival.datagram :=
    List.inj_on_of_nodup_map distinct known member same
  constructor
  case holds =>
    intro datagram known incomplete
    by_cases same : datagram = arrival.datagram
    · subst same
      exact stored incomplete
    · rw [elsewhere datagram.key (mt (keys known) same)]
      rw [← missing_other same] at incomplete ⊢
      exact awaits.holds datagram known incomplete
  case free =>
    intro key none_left
    by_cases own : key = arrival.datagram.key
    · rw [own]
      exact erased (none_left arrival.datagram member own.symm)
    · rw [elsewhere key own]
      refine awaits.free key fun datagram known same => ?_
      rw [missing_other fun here => own (same.symm.trans (congrArg _ here))]
      exact none_left datagram known same

theorem Awaits.push {datagrams : List FragmentedDatagram}
    (awaits : assembler.Awaits datagrams (arrival :: rest))
    (distinct : (datagrams.map FragmentedDatagram.key).Nodup)
    (member : arrival.datagram ∈ datagrams)
    (once : arrival.index ∉ missing rest arrival.datagram) :
    ∃ next, assembler.push arrival.packet =
        some (next, if arrival.datagram ∈ rest.map FragmentArrival.datagram then []
          else [arrival.datagram.frame]) ∧
      next.Awaits datagrams rest := by
  have before := awaits.holds arrival.datagram member (by simp [missing_self])
  rw [missing_self] at before
  have holds : (assembler.assemblyWith arrival.ip).Holds arrival.datagram
      (missing rest arrival.datagram) := by
    rw [assemblyWith, arrival.key]
    exact before.store once
  have pushed := push_arrival holds
  rw [arrival.key] at pushed
  by_cases complete : missing rest arrival.datagram = []
  · rw [if_pos complete] at pushed
    rw [if_neg (missing_eq_nil_iff.mp complete)]
    refine ⟨_, pushed, awaits.next distinct member ?_ ?_ ?_⟩
    · exact fun key other =>
        (Function.update_of_ne other ..).trans (Function.update_of_ne other ..)
    · exact fun _ => Function.update_self ..
    · exact fun incomplete => absurd complete incomplete
  · rw [if_neg complete] at pushed
    rw [if_pos (not_not.mp (mt missing_eq_nil_iff.mpr complete))]
    refine ⟨_, pushed, awaits.next distinct member ?_ ?_ ?_⟩
    · exact fun key other => Function.update_of_ne other ..
    · exact fun all => absurd all complete
    · intro _
      simpa [put] using holds

theorem Awaits.pushAll {datagrams : List FragmentedDatagram} (arrivals : List FragmentArrival)
    (awaits : assembler.Awaits datagrams arrivals)
    (distinct : (datagrams.map FragmentedDatagram.key).Nodup)
    (known : ∀ arrival ∈ arrivals, arrival.datagram ∈ datagrams)
    (once : (arrivals.map fun arrival => (arrival.datagram, arrival.index)).Nodup) :
    UdpPayloadAssembler.pushAll (arrivals.map FragmentArrival.packet) assembler =
      some ({}, replies arrivals) := by
  induction arrivals generalizing assembler with
  | nil =>
      have empty : assembler = {} := by
        cases assembler with
        | mk fragments =>
            have none_left : fragments = fun _ => none :=
              funext fun key => awaits.free key fun _ _ _ => rfl
            rw [none_left]
      rw [empty]
      rfl
  | cons arrival rest ih =>
      rw [List.map_cons, List.nodup_cons] at once
      obtain ⟨next, pushed, later⟩ := awaits.push distinct (known arrival (List.mem_cons_self ..))
        (mt mem_missing.mp once.1)
      simp only [List.map_cons, UdpPayloadAssembler.pushAll, pushed]
      rw [ih later (fun other member => known other (List.mem_cons_of_mem _ member)) once.2]
      rfl

end UdpPayloadAssembler

/-- There is one frame for each datagram. -/
theorem replies_flatten (arrivals : List FragmentArrival) : (replies arrivals).flatten =
    (arrivals.map FragmentArrival.datagram).dedup.map FragmentedDatagram.frame := by
  induction arrivals with
  | nil => rfl
  | cons arrival rest ih =>
      rw [replies, List.flatten_cons, List.map_cons, ih]
      by_cases again : arrival.datagram ∈ rest.map FragmentArrival.datagram
      · rw [if_pos again, List.dedup_cons_of_mem again]
        rfl
      · rw [if_neg again, List.dedup_cons_of_notMem again]
        rfl

/-- All fragments of some datagrams, in any order, each once: every call returns, the
datagram of a fragment comes with the last of its fragments and nothing else does, and
no assembly is left. -/
theorem fragments_reassembled_in_any_order (datagrams : List FragmentedDatagram)
    (distinct : (datagrams.map FragmentedDatagram.key).Nodup) (arrivals : List FragmentArrival)
    (all : (arrivals.map fun arrival => (arrival.datagram, arrival.index)).Perm
      (datagrams.flatMap fun datagram =>
        (List.range datagram.pieces.length).map fun index => (datagram, index))) :
    pushAll (arrivals.map FragmentArrival.packet) {} = some ({}, replies arrivals) ∧
      (replies arrivals).flatten.Perm (datagrams.map FragmentedDatagram.frame) := by
  have member (datagram : FragmentedDatagram) (index : Nat) :
      (datagram, index) ∈ arrivals.map (fun arrival => (arrival.datagram, arrival.index)) ↔
        datagram ∈ datagrams ∧ index < datagram.pieces.length := by
    rw [all.mem_iff]
    simp only [List.mem_flatMap, List.mem_map, List.mem_range, Prod.mk.injEq]
    constructor
    · rintro ⟨_, here, _, inside, rfl, rfl⟩
      exact ⟨here, inside⟩
    · intro ⟨here, inside⟩
      exact ⟨datagram, here, index, inside, rfl, rfl⟩
  have nodup := distinct.of_map
  have known (arrival : FragmentArrival) (here : arrival ∈ arrivals) :
      arrival.datagram ∈ datagrams :=
    ((member arrival.datagram arrival.index).mp (List.mem_map_of_mem here)).1
  have once : (arrivals.map fun arrival => (arrival.datagram, arrival.index)).Nodup := by
    refine all.nodup_iff.mpr (List.nodup_flatMap.mpr ⟨?_, ?_⟩)
    · intro datagram _
      exact List.nodup_range.map fun _ _ same => congrArg Prod.snd same
    · refine nodup.imp fun different pair first second => ?_
      obtain ⟨_, -, rfl⟩ := List.mem_map.mp first
      obtain ⟨_, -, same⟩ := List.mem_map.mp second
      exact different (congrArg Prod.fst same).symm
  have awaits : Awaits {} datagrams arrivals := by
    refine ⟨fun datagram here _ => .empty fun index inside => ?_, fun _ _ => rfl⟩
    exact mem_missing.mpr ((member datagram index).mpr ⟨here, inside⟩)
  refine ⟨awaits.pushAll arrivals distinct known once, ?_⟩
  rw [replies_flatten]
  refine List.Perm.map _ ((List.perm_ext_iff_of_nodup (List.nodup_dedup _) nodup).mpr ?_)
  intro datagram
  rw [List.mem_dedup]
  constructor
  · intro here
    obtain ⟨arrival, arrives, rfl⟩ := List.mem_map.mp here
    exact known arrival arrives
  · intro here
    have first := (member datagram 0).mpr ⟨here, Nat.lt_of_lt_of_le Nat.two_pos datagram.split⟩
    obtain ⟨arrival, arrives, same⟩ := List.mem_map.mp first
    exact List.mem_map.mpr ⟨arrival, arrives, congrArg Prod.fst same⟩

/-- Twelve bytes in two pieces. -/
def twoPieces (identification : Nat) : FragmentedDatagram where
  sourceIpv4Be := 0x0A000001
  destIpv4Be := 0x0A000002
  identification
  pieces := [[0x75, 0x31, 0x27, 0x0F, 0, 12, 0, 0], [1, 2, 3, 4]]
  split := by decide
  nonempty := by decide
  aligned := by decide
  fits := by decide
  header := by decide
  within := by decide

/-- A piece of a datagram in the frame with these flags and offset. -/
def FragmentArrival.ofFrame (datagram : FragmentedDatagram) (index flagsAndOffset : Nat)
    (piece : List UInt8) (here : datagram.pieces[index]? = some piece)
    (source : datagram.sourceIpv4Be = 0x0A000001) (dest : datagram.destIpv4Be = 0x0A000002)
    (inId : datagram.identification < 2 ^ 16) (inFlags : flagsAndOffset < 2 ^ 16)
    (fits : 20 + piece.length < 2 ^ 16)
    (more : flagsAndOffset &&& 0x2000 ≠ 0 ↔ index + 1 < datagram.pieces.length)
    (offset : (flagsAndOffset &&& 0x1FFF) * 8 = datagram.offset index) : FragmentArrival where
  datagram
  index
  packet := ipv4Frame datagram.identification flagsAndOffset piece
  data := ipv4FrameData datagram.identification flagsAndOffset piece
  is := rfl
  formed := ipv4Frame_isIpv4 fits
  source := ipv4FrameData_source.trans source.symm
  dest := ipv4FrameData_dest.trans dest.symm
  identification := ipv4FrameData_identification inId
  moreFragments := by rwa [ipv4FrameData_flagsAndOffset inFlags]
  offset := by rwa [ipv4FrameData_flagsAndOffset inFlags]
  carries := by
    rw [ipv4FrameData_ihlWords, ipv4FrameData_totalLength fits, Nat.add_sub_cancel_left,
      ipv4FrameData_bytes, here]

def twoPiecesFirst (identification : Nat) (inId : identification < 2 ^ 16) : FragmentArrival :=
  .ofFrame (twoPieces identification) 0 0x2000 _ rfl rfl rfl inId (by decide) (by decide)
    (by decide : 0x2000 &&& 0x2000 ≠ 0 ↔ 0 + 1 < 2) (by decide : (0x2000 &&& 0x1FFF) * 8 = 0)

def twoPiecesLast (identification : Nat) (inId : identification < 2 ^ 16) : FragmentArrival :=
  .ofFrame (twoPieces identification) 1 0x0001 _ rfl rfl rfl inId (by decide) (by decide)
    (by decide : 1 &&& 0x2000 ≠ 0 ↔ 1 + 1 < 2) (by decide : (1 &&& 0x1FFF) * 8 = 8)

/-- Two datagrams interleaved, the first one's last fragment first. -/
theorem fragments_reassembled_interleaved :
    let arrivals := [twoPiecesLast 7 (by decide), twoPiecesFirst 8 (by decide),
      twoPiecesLast 8 (by decide), twoPiecesFirst 7 (by decide)]
    replies arrivals = [[], [], [(twoPieces 8).frame], [(twoPieces 7).frame]] ∧
      pushAll (arrivals.map FragmentArrival.packet) {} = some ({}, replies arrivals) ∧
      (replies arrivals).flatten.Perm ([twoPieces 7, twoPieces 8].map FragmentedDatagram.frame) :=
  ⟨by decide +kernel, fragments_reassembled_in_any_order [twoPieces 7, twoPieces 8]
    (by decide) _ (by decide +kernel)⟩

end RxTech
