import RxTech.Cpi.Storage
import Mathlib.Data.List.Nodup
import Mathlib.Data.List.Perm.Subperm

/-!
# Slot coordinates

The coordinates a context has room for, in canonical order, and the slot each of
them has.
-/

set_option autoImplicit false

namespace RxTech

structure SlotCoord where
  prt : Nat
  channel : Nat
  packetIndex : Nat
  deriving DecidableEq, Repr

def ParsedPacketView.coord (packet : ParsedPacketView) : SlotCoord :=
  ⟨packet.prt, packet.channel, packet.packetIndex⟩

/-- The coordinates of the first `nPrt` PRTs. -/
structure SlotCoord.Within (spec : ProtocolSpec) (nPrt : Nat) (coord : SlotCoord) : Prop where
  prt_pos : 1 ≤ coord.prt
  prt_le : coord.prt ≤ nPrt
  channel_lt : coord.channel < spec.channelsPerPrt
  packetIndex_pos : 1 ≤ coord.packetIndex
  packetIndex_le : coord.packetIndex ≤ spec.packetsPerChannel

theorem SlotCoord.Within.mono {spec : ProtocolSpec} {first second : Nat} {coord : SlotCoord}
    (within : coord.Within spec first) (le : first ≤ second) : coord.Within spec second :=
  { within with prt_le := Nat.le_trans within.prt_le le }

/-- By PRT, then channel, then packet index. -/
def slotCoords (spec : ProtocolSpec) (nPrt : Nat) : List SlotCoord :=
  (List.range nPrt).flatMap fun prt => (List.range spec.channelsPerPrt).flatMap fun channel =>
    (List.range spec.packetsPerChannel).map fun packetIndex => ⟨prt + 1, channel, packetIndex + 1⟩

theorem mem_slotCoords {spec : ProtocolSpec} {nPrt : Nat} {coord : SlotCoord} :
    coord ∈ slotCoords spec nPrt ↔ coord.Within spec nPrt := by
  simp only [slotCoords, List.mem_flatMap, List.mem_range, List.mem_map]
  constructor
  · rintro ⟨prt, prtLt, channel, channelLt, packetIndex, packetLt, rfl⟩
    exact ⟨Nat.le_add_left .., prtLt, channelLt, Nat.le_add_left .., packetLt⟩
  · rintro ⟨prtPos, prtLe, channelLt, packetPos, packetLe⟩
    refine ⟨coord.prt - 1, by omega, coord.channel, channelLt, coord.packetIndex - 1, by omega, ?_⟩
    simp only [Nat.sub_add_cancel prtPos, Nat.sub_add_cancel packetPos]

theorem length_slotCoords (spec : ProtocolSpec) (nPrt : Nat) :
    (slotCoords spec nPrt).length = nPrt * (spec.channelsPerPrt * spec.packetsPerChannel) := by
  simp [slotCoords, List.length_flatMap, List.map_const']

theorem nodup_slotCoords (spec : ProtocolSpec) (nPrt : Nat) : (slotCoords spec nPrt).Nodup := by
  refine List.nodup_flatMap.mpr ⟨fun prt _ => List.nodup_flatMap.mpr ⟨fun channel _ => ?_, ?_⟩, ?_⟩
  · refine List.nodup_range.map fun first second same => ?_
    simpa using same
  · refine List.nodup_range.imp fun different => ?_
    simp only [Function.onFun, List.disjoint_left, List.mem_map]
    rintro coord ⟨_, _, rfl⟩ ⟨_, _, same⟩
    simp only [SlotCoord.mk.injEq] at same
    omega
  · refine List.nodup_range.imp fun different => ?_
    simp only [Function.onFun, List.disjoint_left, List.mem_flatMap, List.mem_map]
    rintro coord ⟨_, _, _, _, rfl⟩ ⟨_, _, _, _, same⟩
    simp only [SlotCoord.mk.injEq] at same
    omega

/-- Enough distinct coordinates within the first PRTs are all of them. -/
theorem slotCoords_subset_of_length {spec : ProtocolSpec} {nPrt : Nat} {coords : List SlotCoord}
    (distinct : coords.Nodup) (within : ∀ coord ∈ coords, coord.Within spec nPrt)
    (enough : nPrt * (spec.channelsPerPrt * spec.packetsPerChannel) ≤ coords.length)
    {coord : SlotCoord} (valid : coord.Within spec nPrt) : coord ∈ coords := by
  have subset : coords ⊆ slotCoords spec nPrt := fun coord member =>
    mem_slotCoords.mpr (within coord member)
  have perm := (List.subperm_of_subset distinct subset).perm_of_length_le
    (by rw [length_slotCoords]; exact enough)
  exact perm.mem_iff.mpr (mem_slotCoords.mpr valid)

/-! ## Slots -/

def SlotCoord.slot (spec : ProtocolSpec) (coord : SlotCoord) : Nat :=
  slotIndex coord.prt coord.channel coord.packetIndex (u16 spec.channelsPerPrt)
    (u16 spec.packetsPerChannel)

private theorem radix_inj {base high low high' low' : Nat} (small : low < base)
    (small' : low' < base) (same : high * base + low = high' * base + low') :
    high = high' ∧ low = low' := by
  rcases Nat.lt_trichotomy high high' with less | equal | greater
  · have := Nat.mul_le_mul_right base less
    rw [Nat.succ_mul] at this
    omega
  · subst equal
    omega
  · have := Nat.mul_le_mul_right base greater
    rw [Nat.succ_mul] at this
    omega

theorem SlotCoord.slot_inj {spec : ProtocolSpec} (formed : spec.WellFormed) {nPrt : Nat}
    {first second : SlotCoord} (firstWithin : first.Within spec nPrt)
    (secondWithin : second.Within spec nPrt) (same : first.slot spec = second.slot spec) :
    first = second := by
  obtain ⟨prt, channel, packetIndex⟩ := first
  obtain ⟨prt', channel', packetIndex'⟩ := second
  obtain ⟨prtPos, -, channelLt, packetPos, packetLe⟩ := firstWithin
  obtain ⟨prtPos', -, channelLt', packetPos', packetLe'⟩ := secondWithin
  simp only at *
  simp only [SlotCoord.slot, slotIndex, formed.u16_channels, formed.u16_packets] at same
  obtain ⟨rows, packets⟩ := radix_inj (by omega) (by omega) same
  obtain ⟨prts, channels⟩ := radix_inj channelLt channelLt' rows
  simp only [SlotCoord.mk.injEq]
  omega

theorem isValidSlotCoord_iff {spec : ProtocolSpec} (formed : spec.WellFormed)
    {packet : ParsedPacketView} :
    isValidSlotCoord packet.prt packet.channel packet.packetIndex (u16 spec.channelsPerPrt)
      (u16 spec.packetsPerChannel) = true ↔ packet.coord.Within spec kCpiPrtMax := by
  have channels := formed.channels_le
  simp only [isValidSlotCoord, formed.u16_channels, formed.u16_packets, decide_eq_true_eq,
    kCpiMaxChannelCount]
  constructor
  · rintro ⟨prtPos, prtLe, channelLt, -, packetPos, packetLe⟩
    exact ⟨prtPos, prtLe, channelLt, packetPos, packetLe⟩
  · rintro ⟨prtPos, prtLe, channelLt, packetPos, packetLe⟩
    have : packet.channel < spec.channelsPerPrt := channelLt
    exact ⟨prtPos, prtLe, channelLt, by omega, packetPos, packetLe⟩

end RxTech
