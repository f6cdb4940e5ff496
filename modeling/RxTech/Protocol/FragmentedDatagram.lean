import RxTech.Protocol.Ipv4Frame

/-!
# Fragmented datagrams

A UDP datagram split into fragments, the frames that carry them, and what an assembly
holds of it while some of them are missing.
-/

set_option autoImplicit false

namespace RxTech

/-- The IP payload of a UDP datagram in contiguous pieces. -/
structure FragmentedDatagram where
  sourceIpv4Be : Nat
  destIpv4Be : Nat
  identification : Nat
  pieces : List (List UInt8)
  split : 2 ≤ pieces.length
  nonempty : ∀ piece ∈ pieces, piece ≠ []
  aligned : ∀ index < pieces.length, (pieces.take index).flatten.length % 8 = 0
  fits : pieces.flatten.length ≤ 65535
  header : 8 ≤ readU16Be (pieces.flatten.getD · 0) 4
  within : readU16Be (pieces.flatten.getD · 0) 4 ≤ pieces.flatten.length
  deriving DecidableEq

namespace FragmentedDatagram

variable (datagram : FragmentedDatagram)

def ipPayload : List UInt8 := datagram.pieces.flatten

/-- Where a piece begins. -/
def offset (index : Nat) : Nat := (datagram.pieces.take index).flatten.length

def sourcePort : Nat := readU16Be (datagram.ipPayload.getD · 0) 0

def destPort : Nat := readU16Be (datagram.ipPayload.getD · 0) 2

def udpLength : Nat := readU16Be (datagram.ipPayload.getD · 0) 4

def key : FragmentKey where
  sourceIpv4Be := datagram.sourceIpv4Be
  destIpv4Be := datagram.destIpv4Be
  identification := datagram.identification
  protocol := kIpProtoUdp

/-- The frame of the datagram before it was split. -/
def frame : UdpPayloadFrame where
  sourceIpv4Be := datagram.sourceIpv4Be
  destIpv4Be := datagram.destIpv4Be
  sourcePort := datagram.sourcePort
  destPort := datagram.destPort
  udpPayload := (datagram.ipPayload.drop 8).take (datagram.udpLength - 8)

/-! ## Offsets -/

variable {datagram} {index : Nat} {piece : List UInt8}

private theorem flatten_take_succ (here : datagram.pieces[index]? = some piece) :
    (datagram.pieces.take (index + 1)).flatten =
      (datagram.pieces.take index).flatten ++ piece := by
  rw [List.take_add_one, here, List.flatten_append, Option.toList_some, List.flatten_cons,
    List.flatten_nil, List.append_nil]

private theorem offset_succ (here : datagram.pieces[index]? = some piece) :
    datagram.offset (index + 1) = datagram.offset index + piece.length := by
  rw [offset, flatten_take_succ here, List.length_append, offset]

private theorem offset_length :
    datagram.offset datagram.pieces.length = datagram.ipPayload.length := by
  rw [offset, List.take_length, ipPayload]

private theorem offset_lt {later : Nat} (before : index < later)
    (inside : later ≤ datagram.pieces.length) :
    datagram.offset index < datagram.offset later := by
  induction later with
  | zero => cases before
  | succ later ih =>
      have here := List.getElem?_eq_getElem (Nat.lt_of_succ_le inside)
      have pos := List.length_pos_iff.mpr
        (datagram.nonempty _ (List.getElem_mem (Nat.lt_of_succ_le inside)))
      rw [offset_succ here]
      cases Nat.lt_or_eq_of_le (Nat.le_of_lt_succ before) with
      | inl earlier => exact Nat.lt_of_lt_of_le (ih earlier (by omega)) (Nat.le_add_right ..)
      | inr same =>
          rw [same]
          omega

private theorem offset_inj {other : Nat} (inside : index < datagram.pieces.length)
    (inside' : other < datagram.pieces.length)
    (same : datagram.offset index = datagram.offset other) : index = other := by
  by_contra different
  cases Nat.lt_or_gt_of_ne different with
  | inl before => exact Nat.ne_of_lt (offset_lt before (Nat.le_of_lt inside')) same
  | inr before => exact Nat.ne_of_lt (offset_lt before (Nat.le_of_lt inside)) same.symm

private theorem offset_lt_length (inside : index < datagram.pieces.length) :
    datagram.offset index < datagram.ipPayload.length := by
  rw [← offset_length]
  exact offset_lt inside (Nat.le_refl _)

private theorem offset_le_length (inside : index ≤ datagram.pieces.length) :
    datagram.offset index ≤ datagram.ipPayload.length := by
  cases Nat.lt_or_eq_of_le inside with
  | inl before => exact Nat.le_of_lt (offset_lt_length before)
  | inr all =>
      rw [all, offset_length]

/-- There are no more pieces than bytes. -/
theorem pieces_length_le : datagram.pieces.length ≤ datagram.ipPayload.length := by
  have passed (index : Nat) (inside : index ≤ datagram.pieces.length) :
      index ≤ datagram.offset index := by
    induction index with
    | zero => exact Nat.zero_le _
    | succ index ih => exact Nat.lt_of_le_of_lt (ih (by omega)) (offset_lt (by omega) inside)
  rw [← offset_length]
  exact passed _ (Nat.le_refl _)

/-- The first piece holds the UDP header. -/
theorem first_piece (datagram : FragmentedDatagram) : ∃ first rest,
    datagram.pieces = first :: rest ∧ rest ≠ [] ∧ 8 ≤ first.length := by
  cases pieces : datagram.pieces with
  | nil =>
      have := datagram.split
      rw [pieces] at this
      cases this
  | cons first rest =>
      have two := datagram.split
      have pos := List.length_pos_iff.mpr (datagram.nonempty first (by simp [pieces]))
      have aligned := datagram.aligned 1 (by omega)
      simp only [pieces, List.take_succ_cons, List.take_zero, List.flatten_cons, List.flatten_nil,
        List.append_nil] at aligned
      refine ⟨first, rest, rfl, ?_, by omega⟩
      rintro rfl
      simp [pieces] at two

end FragmentedDatagram

/-! ## Frames of fragments -/

/-- A well-formed frame with the piece at `index`. -/
structure FragmentArrival where
  datagram : FragmentedDatagram
  index : Nat
  packet : PacketDesc
  data : ByteView
  is : packet.data = some data
  formed : packet.IsIpv4 data
  source : readU32Be data 26 = datagram.sourceIpv4Be
  dest : readU32Be data 30 = datagram.destIpv4Be
  identification : readU16Be data 18 = datagram.identification
  moreFragments : PacketDesc.flagsAndOffset data &&& 0x2000 ≠ 0 ↔
    index + 1 < datagram.pieces.length
  offset : (PacketDesc.flagsAndOffset data &&& 0x1FFF) * 8 = datagram.offset index
  carries : datagram.pieces[index]? = some (data.bytes (14 + PacketDesc.ihlWords data * 4)
    (PacketDesc.totalLength data - PacketDesc.ihlWords data * 4))

namespace FragmentArrival

variable (arrival : FragmentArrival)

def ip : Ipv4Packet := PacketDesc.ipv4Packet arrival.data

theorem readIpv4 : arrival.packet.readIpv4 = some arrival.ip :=
  PacketDesc.readIpv4_eq_some arrival.is arrival.formed

theorem key : arrival.ip.key = arrival.datagram.key := by
  simp only [Ipv4Packet.key, ip, PacketDesc.ipv4Packet, FragmentedDatagram.key, arrival.source,
    arrival.dest, arrival.identification, arrival.formed.protocol]

theorem index_lt : arrival.index < arrival.datagram.pieces.length :=
  (List.getElem?_eq_some_iff.mp arrival.carries).1

private theorem offset_eq :
    arrival.ip.fragmentOffsetBytes = arrival.datagram.offset arrival.index := by
  have small : (PacketDesc.flagsAndOffset arrival.data &&& 0x1FFF) * 8 < 2 ^ 16 := by
    have := @Nat.and_le_right (PacketDesc.flagsAndOffset arrival.data) 0x1FFF
    omega
  exact (u16_of_lt small).trans arrival.offset

private theorem piece_eq : arrival.datagram.pieces[arrival.index]? =
    some (arrival.ip.ipPayload.bytes 0 arrival.ip.ipPayloadLength) := by
  rw [arrival.carries]
  simp only [ByteView.bytes, ip, PacketDesc.ipv4Packet, Nat.zero_add]

/-- It is no whole datagram. -/
theorem fragment :
    ¬ (arrival.ip.fragmentOffsetBytes = 0 ∧ arrival.ip.moreFragments = false) := by
  intro ⟨start, last⟩
  have first : arrival.index = 0 := by
    refine FragmentedDatagram.offset_inj arrival.index_lt
      (Nat.lt_of_lt_of_le Nat.two_pos arrival.datagram.split) ?_
    rw [← arrival.offset_eq, start]
    rfl
  have more := arrival.moreFragments.mpr (by rw [first]; exact arrival.datagram.split)
  exact of_decide_eq_false last more

end FragmentArrival

/-! ## What an assembly holds -/

/-- The assembly of a datagram of which the fragments in `missing` have not come yet. -/
structure FragmentAssembly.Holds (assembly : FragmentAssembly) (datagram : FragmentedDatagram)
    (missing : List Nat) : Prop where
  pieces : ∀ index < datagram.pieces.length, assembly.pieces (datagram.offset index) =
    if index ∈ missing then none else datagram.pieces[index]?
  header : 0 ∉ missing → assembly.hasUdpHeader = true
  ports : assembly.hasUdpHeader = true → assembly.sourcePort = datagram.sourcePort ∧
    assembly.destPort = datagram.destPort ∧ assembly.udpLength = datagram.udpLength
  last : datagram.pieces.length - 1 ∉ missing → assembly.hasTotalLength = true
  total : assembly.hasTotalLength = true →
    assembly.totalPayloadLength = datagram.ipPayload.length

namespace FragmentAssembly

variable {assembly : FragmentAssembly} {datagram : FragmentedDatagram} {missing : List Nat}

theorem Holds.empty (all : ∀ index < datagram.pieces.length, index ∈ missing) :
    Holds {} datagram missing where
  pieces index inside := (if_pos (all index inside)).symm
  header arrived := absurd (all 0 (Nat.lt_of_lt_of_le Nat.two_pos datagram.split)) arrived
  ports has := by cases has
  last arrived := absurd (all _ (Nat.sub_lt (Nat.lt_of_lt_of_le Nat.two_pos datagram.split)
    Nat.one_pos)) arrived
  total has := by cases has

/-- The header in the first fragment is that of the datagram. -/
theorem readU16Be_first {arrival : FragmentArrival} (first : arrival.index = 0) {offset : Nat}
    (inside : offset + 2 ≤ 8) : readU16Be arrival.ip.ipPayload offset =
      readU16Be (arrival.datagram.ipPayload.getD · 0) offset := by
  obtain ⟨piece, rest, pieces, -, long⟩ := arrival.datagram.first_piece
  have carried := arrival.piece_eq
  rw [first, pieces, List.getElem?_cons_zero, Option.some.injEq] at carried
  have byte (index : Nat) (early : index < 8) :
      arrival.ip.ipPayload index = arrival.datagram.ipPayload.getD index 0 := by
    have short : index < piece.length := by omega
    rw [FragmentedDatagram.ipPayload, pieces, List.flatten_cons, List.getD_eq_getElem?_getD,
      List.getElem?_append_left short]
    rw [carried, ByteView.bytes_length] at short
    simp [carried, ByteView.bytes, short]
  simp only [readU16Be, byte offset (by omega), byte (offset + 1) (by omega)]

theorem Holds.store {arrival : FragmentArrival}
    (holds : assembly.Holds arrival.datagram (arrival.index :: missing))
    (once : arrival.index ∉ missing) :
    (assembly.store arrival.ip).Holds arrival.datagram missing := by
  have inside := arrival.index_lt
  have length : arrival.ip.ipPayloadLength =
      (arrival.ip.ipPayload.bytes 0 arrival.ip.ipPayloadLength).length :=
    (ByteView.bytes_length ..).symm
  have last : arrival.ip.moreFragments = false ↔
      arrival.index = arrival.datagram.pieces.length - 1 := by
    have more := arrival.moreFragments
    rw [← not_iff_not, not_not, Nat.not_lt] at more
    simp only [FragmentArrival.ip, PacketDesc.ipv4Packet, decide_eq_false_iff_not, not_not, more]
    omega
  have first : (arrival.ip.fragmentOffsetBytes = 0 ∧ arrival.ip.ipPayloadLength ≥ 8) ↔
      arrival.index = 0 := by
    constructor
    · intro header
      have start := header.1
      rw [arrival.offset_eq] at start
      exact FragmentedDatagram.offset_inj inside (by omega) start
    · intro start
      obtain ⟨piece, rest, pieces, -, long⟩ := arrival.datagram.first_piece
      have carried := arrival.piece_eq
      rw [start, pieces, List.getElem?_cons_zero, Option.some.injEq] at carried
      rw [arrival.offset_eq, start, length, ← carried]
      exact ⟨rfl, long⟩
  constructor
  case pieces =>
    intro index inside'
    rw [store_pieces, arrival.offset_eq]
    by_cases here : index = arrival.index
    · rw [here, Function.update_self, if_neg once, arrival.piece_eq]
    · have elsewhere : arrival.datagram.offset index ≠ arrival.datagram.offset arrival.index :=
        fun same => here (FragmentedDatagram.offset_inj inside' inside same)
      rw [Function.update_of_ne elsewhere, holds.pieces index inside']
      simp only [List.mem_cons, here, false_or]
  case header =>
    intro arrived
    by_cases start : arrival.index = 0
    · exact (store_of_header (first.mpr start)).1
    · rw [(store_of_no_header (mt first.mp start)).1]
      exact holds.header (by simp [Ne.symm start, arrived])
  case ports =>
    intro has
    by_cases start : arrival.index = 0
    · obtain ⟨-, sourcePort, destPort, udpLength⟩ := @store_of_header assembly _ (first.mpr start)
      exact ⟨sourcePort.trans (readU16Be_first start (by decide)),
        destPort.trans (readU16Be_first start (by decide)),
        udpLength.trans (readU16Be_first start (by decide))⟩
    · obtain ⟨same, sourcePort, destPort, udpLength⟩ :=
        @store_of_no_header assembly _ (mt first.mp start)
      rw [sourcePort, destPort, udpLength]
      exact holds.ports (same.symm.trans has)
  case last =>
    intro arrived
    by_cases final : arrival.index = arrival.datagram.pieces.length - 1
    · exact (store_of_last (last.mpr final)).1
    · rw [(store_of_more (eq_true_of_ne_false (mt last.mp final))).1]
      exact holds.last (by simp [Ne.symm final, arrived])
  case total =>
    intro has
    by_cases final : arrival.index = arrival.datagram.pieces.length - 1
    · rw [(store_of_last (last.mpr final)).2, arrival.offset_eq, length,
        ← FragmentedDatagram.offset_succ arrival.piece_eq, final, Nat.sub_add_cancel (by omega),
        FragmentedDatagram.offset_length]
      exact u16_of_lt (Nat.lt_succ_of_le arrival.datagram.fits)
    · obtain ⟨same, total⟩ :=
        @store_of_more assembly _ (eq_true_of_ne_false (mt last.mp final))
      rw [total]
      exact holds.total (same.symm.trans has)

/-- The loop comes to the end exactly if no piece from `index` on is missing. -/
theorem Holds.reassemblyLoop (holds : assembly.Holds datagram missing)
    (known : assembly.hasTotalLength = true)
    (range : ∀ other ∈ missing, other < datagram.pieces.length) (fuel index : Nat)
    (inside : index ≤ datagram.pieces.length) (enough : datagram.pieces.length - index < fuel) :
    assembly.reassemblyLoop fuel (datagram.offset index) (datagram.pieces.take index).flatten =
      some (if ∀ other ∈ missing, other < index then .assembled datagram.ipPayload else .gap) := by
  have fits : datagram.ipPayload.length ≤ 65535 := datagram.fits
  induction fuel generalizing index with
  | zero => cases enough
  | succ fuel ih =>
      rw [FragmentAssembly.reassemblyLoop, holds.total known]
      cases Nat.lt_or_eq_of_le inside with
      | inl more =>
          rw [if_pos (FragmentedDatagram.offset_lt_length more), holds.pieces index more]
          by_cases gone : index ∈ missing
          · rw [if_pos gone, if_neg fun all => Nat.lt_irrefl index (all index gone)]
          · have here := List.getElem?_eq_getElem more
            have next := FragmentedDatagram.offset_succ here
            have bound := FragmentedDatagram.offset_le_length more
            rw [if_neg gone, here]
            simp only [← next, u16_of_lt (Nat.lt_of_le_of_lt (Nat.le_trans bound fits)
              (by decide : 65535 < 2 ^ 16)), ← FragmentedDatagram.flatten_take_succ here]
            rw [ih (index + 1) more (by omega)]
            have same : (∀ other ∈ missing, other < index + 1) ↔ ∀ other ∈ missing, other < index := by
              refine forall₂_congr fun other member => ?_
              have different : other ≠ index := fun same => gone (same ▸ member)
              omega
            simp only [same]
      | inr all =>
          subst all
          rw [FragmentedDatagram.offset_length, if_neg (Nat.lt_irrefl _), if_pos range,
            List.take_length, FragmentedDatagram.ipPayload]

theorem Holds.reassemble (holds : assembly.Holds datagram missing)
    (known : assembly.hasTotalLength = true)
    (range : ∀ other ∈ missing, other < datagram.pieces.length) :
    assembly.reassemble =
      some (if missing = [] then .assembled datagram.ipPayload else .gap) := by
  have few := datagram.pieces_length_le
  have fits : datagram.ipPayload.length ≤ 65535 := datagram.fits
  have loop := holds.reassemblyLoop known range (2 ^ 16 + 1) 0 (Nat.zero_le _) (by omega)
  have none_left : (∀ other ∈ missing, other < 0) ↔ missing = [] := by
    simp [List.eq_nil_iff_forall_not_mem]
  simp only [none_left] at loop
  exact loop

end FragmentAssembly

end RxTech
