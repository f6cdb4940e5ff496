import RxTech.Library.PartialLoop
import RxTech.Protocol.Ipv4Frame

/-!
# The reassembly loop

When the loop of `push` ends, when its offset grows with every turn, and what a call does
by how it ends.
-/

set_option autoImplicit false

namespace RxTech

namespace FragmentAssembly

/-- The offset after a turn of the loop; `none` where the loop ends. -/
def nextOffset (assembly : FragmentAssembly) (offset : Nat) : Option Nat :=
  if offset < assembly.totalPayloadLength then
    (assembly.pieces offset).map fun piece => u16 (offset + piece.length)
  else none

variable {assembly : FragmentAssembly}

theorem reassemblyLoop_eq_none_iff (fuel offset : Nat) (assembled : List UInt8) :
    assembly.reassemblyLoop fuel offset assembled = none ↔
      (PartialLoop.turns assembly.nextOffset fuel offset).isSome = true := by
  induction fuel generalizing offset assembled with
  | zero => simp [reassemblyLoop, PartialLoop.turns]
  | succ fuel ih =>
      simp only [reassemblyLoop, PartialLoop.turns, nextOffset]
      split
      · cases assembly.pieces offset with
        | none => simp
        | some piece => simpa using ih (u16 (offset + piece.length)) (assembled ++ piece)
      · simp

theorem nextOffset_eq_some {offset next : Nat} (turned : assembly.nextOffset offset = some next) :
    offset < assembly.totalPayloadLength ∧ ∃ piece, assembly.pieces offset = some piece ∧
      next = u16 (offset + piece.length) := by
  unfold nextOffset at turned
  split at turned
  · rename_i inside
    obtain ⟨piece, found, rfl⟩ := Option.map_eq_some_iff.mp turned
    exact ⟨inside, piece, found, rfl⟩
  · cases turned

theorem turns_lt {count offset : Nat}
    (reached : PartialLoop.turns assembly.nextOffset count 0 = some offset) : offset < 2 ^ 16 := by
  cases count with
  | zero =>
      cases reached
      decide
  | succ count =>
      obtain ⟨before, -, turned⟩ := PartialLoop.turns_succ_eq_some reached
      obtain ⟨-, piece, -, rfl⟩ := nextOffset_eq_some turned
      exact Nat.mod_lt _ (by decide)

/-- `reassemble` gives up exactly on a loop that never ends. -/
theorem reassemble_eq_none_iff :
    assembly.reassemble = none ↔ ∀ fuel, assembly.reassemblyLoop fuel 0 [] = none := by
  constructor
  · intro gaveUp fuel
    rw [reassemble, reassemblyLoop_eq_none_iff] at gaveUp
    rw [reassemblyLoop_eq_none_iff]
    have inside (count last : Nat)
        (reached : PartialLoop.turns assembly.nextOffset count 0 = some last)
        (_ : (assembly.nextOffset last).isSome = true) : last ∈ Finset.range (2 ^ 16) :=
      Finset.mem_range.mpr (turns_lt reached)
    exact PartialLoop.never_stops inside (by rw [Finset.card_range]; decide) gaveUp fuel
  · exact fun never => never _

/-! ## Growing offsets -/

/-- The loop comes to this offset. -/
def Visits (assembly : FragmentAssembly) (offset : Nat) : Prop :=
  ∃ count, PartialLoop.turns assembly.nextOffset count 0 = some offset

/-- The offset grows with every turn of the loop. -/
def Grows (assembly : FragmentAssembly) : Prop :=
  ∀ offset next, assembly.Visits offset → assembly.nextOffset offset = some next → offset < next

theorem Visits.next {offset next : Nat} (visits : assembly.Visits offset)
    (turned : assembly.nextOffset offset = some next) : assembly.Visits next := by
  obtain ⟨count, reached⟩ := visits
  exact ⟨count + 1, (PartialLoop.turns_next reached).trans turned⟩

/-- A loop whose offset grows ends. -/
theorem Grows.ends (grows : assembly.Grows) : assembly.reassemble.isSome = true := by
  have passed (count offset : Nat)
      (reached : PartialLoop.turns assembly.nextOffset count 0 = some offset) : count ≤ offset := by
    induction count generalizing offset with
    | zero => exact Nat.zero_le offset
    | succ count ih =>
        obtain ⟨before, earlier, turned⟩ := PartialLoop.turns_succ_eq_some reached
        have grown := grows before offset ⟨count, earlier⟩ turned
        have := ih before earlier
        omega
  by_contra never
  rw [Bool.not_eq_true, Option.isSome_eq_false_iff, Option.isNone_iff_eq_none, reassemble,
    reassemblyLoop_eq_none_iff] at never
  obtain ⟨last, reached⟩ := Option.isSome_iff_exists.mp never
  have := passed _ _ reached
  have := turns_lt reached
  omega

end FragmentAssembly

namespace UdpPayloadAssembler

/-! ## A call with a fragment -/

variable {assembler : UdpPayloadAssembler} {packet : PacketDesc}

theorem assemblyWith_put {key : FragmentKey} {before : FragmentAssembly} {ip : Ipv4Packet}
    (same : ip.key = key) : (assembler.put key before).assemblyWith ip = before.store ip := by
  subst same
  simp [assemblyWith, put]

section Fragment

variable {ip : Ipv4Packet} {assembly : FragmentAssembly} (reads : packet.readIpv4 = some ip)
  (fragment : ¬ (ip.fragmentOffsetBytes = 0 ∧ ip.moreFragments = false))
  (stored : assembler.assemblyWith ip = assembly)
include reads fragment stored

theorem push_waiting (waits : assembly.hasTotalLength = false ∨ assembly.hasUdpHeader = false) :
    assembler.push packet = some (assembler.put ip.key assembly, []) := by
  subst stored
  simp only [push, reads, if_neg fragment]
  exact if_pos waits

theorem push_gap (ready : ¬ (assembly.hasTotalLength = false ∨ assembly.hasUdpHeader = false))
    (gap : assembly.reassemble = some .gap) :
    assembler.push packet = some (assembler.put ip.key assembly, []) := by
  subst stored
  simp only [push, reads, if_neg fragment, pushFragment, if_neg ready, gap]

theorem push_assembled
    (ready : ¬ (assembly.hasTotalLength = false ∨ assembly.hasUdpHeader = false))
    {ipPayload : List UInt8} (assembled : assembly.reassemble = some (.assembled ipPayload))
    (fits : ¬ (assembly.udpLength < 8 ∨ ipPayload.length < assembly.udpLength)) :
    assembler.push packet = some ((assembler.put ip.key assembly).erase ip.key,
      [{ sourceIpv4Be := ip.sourceIpv4Be
         destIpv4Be := ip.destIpv4Be
         sourcePort := assembly.sourcePort
         destPort := assembly.destPort
         udpPayload := (ipPayload.drop 8).take (assembly.udpLength - 8) }]) := by
  subst stored
  simp only [push, reads, if_neg fragment, pushFragment, if_neg ready, assembled, if_neg fits]

theorem push_never (ready : ¬ (assembly.hasTotalLength = false ∨ assembly.hasUdpHeader = false))
    (never : assembly.reassemble = none) : assembler.push packet = none := by
  subst stored
  simp only [push, reads, if_neg fragment, pushFragment, if_neg ready, never]

end Fragment

end UdpPayloadAssembler

end RxTech
