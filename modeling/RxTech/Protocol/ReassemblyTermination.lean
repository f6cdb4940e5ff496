import RxTech.Protocol.ReassemblyLoop

/-!
# Termination of the reassembly

A call of `push` that comes to the loop returns with a growing offset exactly if the
pieces that adjoin one another from the start of the datagram are neither empty nor too
long for a 16-bit offset.
-/

set_option autoImplicit false

namespace RxTech

namespace FragmentAssembly

/-- The offsets at which the pieces end that adjoin one another from 0 on. -/
inductive Adjoins (assembly : FragmentAssembly) : Nat → Prop where
  | start : Adjoins assembly 0
  | behind {offset : Nat} {piece : List UInt8} (adjoins : Adjoins assembly offset)
      (inside : offset < assembly.totalPayloadLength)
      (found : assembly.pieces offset = some piece) (ends : offset + piece.length < 2 ^ 16) :
      Adjoins assembly (offset + piece.length)

/-- Of the pieces that adjoin one another below the total length none is empty, and
none ends beyond byte 65535. -/
def Proper (assembly : FragmentAssembly) : Prop :=
  ∀ offset piece, assembly.Adjoins offset → offset < assembly.totalPayloadLength →
    assembly.pieces offset = some piece → piece ≠ [] ∧ offset + piece.length < 2 ^ 16

def PiecesFit (assembly : FragmentAssembly) : Prop :=
  ∀ offset piece, assembly.pieces offset = some piece → piece.length < 2 ^ 16

variable {assembly : FragmentAssembly}

private theorem nextOffset_of_ends {offset : Nat} {piece : List UInt8}
    (inside : offset < assembly.totalPayloadLength)
    (found : assembly.pieces offset = some piece) (ends : offset + piece.length < 2 ^ 16) :
    assembly.nextOffset offset = some (offset + piece.length) := by
  rw [nextOffset, if_pos inside, found, Option.map_some, u16_of_lt ends]

theorem Adjoins.visits {offset : Nat} (adjoins : assembly.Adjoins offset) :
    assembly.Visits offset := by
  induction adjoins with
  | start => exact ⟨0, rfl⟩
  | behind _ inside found ends ih => exact ih.next (nextOffset_of_ends inside found ends)

theorem Proper.adjoins (proper : assembly.Proper) {offset : Nat}
    (visits : assembly.Visits offset) : assembly.Adjoins offset := by
  obtain ⟨count, reached⟩ := visits
  induction count generalizing offset with
  | zero =>
      cases reached
      exact .start
  | succ count ih =>
      obtain ⟨before, earlier, turned⟩ := PartialLoop.turns_succ_eq_some reached
      obtain ⟨inside, piece, found, rfl⟩ := nextOffset_eq_some turned
      have adjoins := ih earlier
      obtain ⟨-, ends⟩ := proper before piece adjoins inside found
      rw [u16_of_lt ends]
      exact .behind adjoins inside found ends

private theorem grows_iff (fit : assembly.PiecesFit) : assembly.Grows ↔ assembly.Proper := by
  constructor
  · intro grows offset piece adjoins inside found
    have turned : assembly.nextOffset offset = some (u16 (offset + piece.length)) := by
      rw [nextOffset, if_pos inside, found, Option.map_some]
    have grown := grows offset _ adjoins.visits turned
    have short := fit offset piece found
    have early := adjoins.visits.elim fun _ => turns_lt
    constructor
    · rintro rfl
      rw [List.length_nil, Nat.add_zero, u16_of_lt early] at grown
      exact Nat.lt_irrefl offset grown
    · by_contra beyond
      have wrapped : u16 (offset + piece.length) = offset + piece.length - 2 ^ 16 := by
        rw [u16, Nat.mod_eq_sub_mod (Nat.not_lt.mp beyond)]
        exact Nat.mod_eq_of_lt (by omega)
      omega
  · intro proper offset next visits turned
    obtain ⟨inside, piece, found, rfl⟩ := nextOffset_eq_some turned
    obtain ⟨nonempty, ends⟩ := proper offset piece (proper.adjoins visits) inside found
    have := List.length_pos_iff.mpr nonempty
    rw [u16_of_lt ends]
    omega

end FragmentAssembly

namespace UdpPayloadAssembler

/-! ## Runs -/

/-- Every call of a history meets `condition` in the state it begins in, up to the first
that does not return. -/
def Along (condition : UdpPayloadAssembler → PacketDesc → Prop) :
    List PacketDesc → UdpPayloadAssembler → Prop
  | [], _ => True
  | packet :: rest, assembler => condition assembler packet ∧
      ∀ next frames, assembler.push packet = some (next, frames) → Along condition rest next

/-- The assembly whose loop a call of `push` enters. -/
def loopOf (assembler : UdpPayloadAssembler) (packet : PacketDesc) : Option FragmentAssembly :=
  packet.readIpv4.bind fun packet =>
    if packet.fragmentOffsetBytes = 0 ∧ packet.moreFragments = false then none
    else
      let assembly := assembler.assemblyWith packet
      if assembly.hasTotalLength = false ∨ assembly.hasUdpHeader = false then none
      else some assembly

/-- The call returns, and its loop's offset grows until the loop ends. -/
def Terminates (assembler : UdpPayloadAssembler) (packet : PacketDesc) : Prop :=
  (assembler.push packet).isSome = true ∧
    ∀ assembly ∈ assembler.loopOf packet, assembly.Grows

/-- The pieces that the loop would join are proper. -/
def JoinsProper (assembler : UdpPayloadAssembler) (packet : PacketDesc) : Prop :=
  ∀ assembly ∈ assembler.loopOf packet, assembly.Proper

def PiecesFit (assembler : UdpPayloadAssembler) : Prop :=
  ∀ key assembly, assembler.fragments key = some assembly → assembly.PiecesFit

variable {assembler : UdpPayloadAssembler} {packet : PacketDesc}

private theorem push_isSome_iff : (assembler.push packet).isSome = true ↔
    ∀ assembly ∈ assembler.loopOf packet, assembly.reassemble.isSome = true := by
  cases reads : packet.readIpv4 with
  | none => simp [push, loopOf, reads]
  | some ip =>
      by_cases whole : ip.fragmentOffsetBytes = 0 ∧ ip.moreFragments = false
      · simp [push, loopOf, reads, whole]
      · by_cases waits : (assembler.assemblyWith ip).hasTotalLength = false ∨
            (assembler.assemblyWith ip).hasUdpHeader = false
        · simp only [push, loopOf, reads, Option.bind_some, if_neg whole, pushFragment, if_pos waits]
          simp
        · simp only [push, loopOf, reads, Option.bind_some, if_neg whole, pushFragment, if_neg waits,
            Option.mem_some_iff, forall_eq']
          cases (assembler.assemblyWith ip).reassemble with
          | none => simp
          | some ending =>
              cases ending with
              | gap => simp
              | assembled ipPayload =>
                  by_cases cut : (assembler.assemblyWith ip).udpLength < 8 ∨
                      ipPayload.length < (assembler.assemblyWith ip).udpLength
                  · simp [cut]
                  · simp [cut]

/-- What a call leaves in the table of assemblies. -/
theorem push_fragments {next : UdpPayloadAssembler} {frames : List UdpPayloadFrame}
    (pushed : assembler.push packet = some (next, frames)) (key : FragmentKey) :
    next.fragments key = assembler.fragments key ∨ next.fragments key = none ∨
      ∃ ip, packet.readIpv4 = some ip ∧ next.fragments key = some (assembler.assemblyWith ip) := by
  cases reads : packet.readIpv4 with
  | none =>
      simp only [push, reads] at pushed
      cases pushed
      exact .inl rfl
  | some ip =>
      simp only [push, reads] at pushed
      split at pushed
      · cases pushed
        exact .inl rfl
      · have stored : (assembler.put ip.key (assembler.assemblyWith ip)).fragments key =
            assembler.fragments key ∨ (assembler.put ip.key (assembler.assemblyWith ip)).fragments key =
              some (assembler.assemblyWith ip) := by
          by_cases same : key = ip.key
          · subst same
            exact .inr (Function.update_self ..)
          · exact .inl (Function.update_of_ne same ..)
        have erased : ((assembler.put ip.key (assembler.assemblyWith ip)).erase ip.key).fragments
            key = assembler.fragments key ∨ ((assembler.put ip.key
              (assembler.assemblyWith ip)).erase ip.key).fragments key = none := by
          by_cases same : key = ip.key
          · subst same
            exact .inr (Function.update_self ..)
          · exact .inl ((Function.update_of_ne same ..).trans (Function.update_of_ne same ..))
        simp only [pushFragment] at pushed
        split at pushed
        · cases pushed
          exact stored.imp_right fun here => .inr ⟨ip, rfl, here⟩
        · split at pushed
          · cases pushed
          · cases pushed
            exact stored.imp_right fun here => .inr ⟨ip, rfl, here⟩
          · split at pushed
            · cases pushed
              exact erased.imp_right .inl
            · cases pushed
              exact erased.imp_right .inl

theorem PiecesFit.assemblyWith (fit : assembler.PiecesFit) {ip : Ipv4Packet}
    (reads : packet.readIpv4 = some ip) : (assembler.assemblyWith ip).PiecesFit := by
  have short : ip.ipPayloadLength < 2 ^ 16 := by
    rcases packet.readIpv4_cases with unread | ⟨data, -, -, read⟩
    · rw [unread] at reads
      cases reads
    · rw [read] at reads
      cases reads
      exact Nat.lt_of_le_of_lt (Nat.sub_le ..) (readU16Be_lt data 16)
  have before : ((assembler.fragments ip.key).getD {}).PiecesFit := by
    cases known : assembler.fragments ip.key with
    | none => exact fun _ _ found => by cases found
    | some assembly => exact fit ip.key assembly known
  intro offset piece found
  rw [UdpPayloadAssembler.assemblyWith, FragmentAssembly.store_pieces] at found
  by_cases here : offset = ip.fragmentOffsetBytes
  · rw [here, Function.update_self] at found
    rw [← Option.some.inj found, ByteView.bytes_length]
    exact short
  · rw [Function.update_of_ne here] at found
    exact before offset piece found

theorem PiecesFit.push (fit : assembler.PiecesFit) {next : UdpPayloadAssembler}
    {frames : List UdpPayloadFrame} (pushed : assembler.push packet = some (next, frames)) :
    next.PiecesFit := by
  intro key assembly found
  rcases push_fragments pushed key with same | gone | ⟨ip, reads, stored⟩
  · exact fit key assembly (same.symm.trans found)
  · rw [gone] at found
    cases found
  · rw [stored] at found
    cases found
    exact fit.assemblyWith reads

private theorem terminates_iff (fit : assembler.PiecesFit) (packet : PacketDesc) :
    assembler.Terminates packet ↔ assembler.JoinsProper packet := by
  have fits : ∀ assembly ∈ assembler.loopOf packet, assembly.PiecesFit := by
    intro assembly enters
    obtain ⟨ip, reads, here⟩ := Option.bind_eq_some_iff.mp enters
    split at here
    · cases here
    · simp only at here
      split at here
      · cases here
      · cases here
        exact fit.assemblyWith reads
  constructor
  · exact fun terminates assembly enters =>
      (FragmentAssembly.grows_iff (fits assembly enters)).mp (terminates.2 assembly enters)
  · intro proper
    have grows : ∀ assembly ∈ assembler.loopOf packet, assembly.Grows := fun assembly enters =>
      (FragmentAssembly.grows_iff (fits assembly enters)).mpr (proper assembly enters)
    exact ⟨push_isSome_iff.mpr fun assembly enters => (grows assembly enters).ends, grows⟩

private theorem along_congr {first second : UdpPayloadAssembler → PacketDesc → Prop}
    (same : ∀ assembler packet, assembler.PiecesFit → (first assembler packet ↔ second assembler packet))
    (history : List PacketDesc) (fit : assembler.PiecesFit) :
    Along first history assembler ↔ Along second history assembler := by
  induction history generalizing assembler with
  | nil => exact Iff.rfl
  | cons packet rest ih =>
      apply and_congr (same assembler packet fit)
      exact forall_congr' fun next => forall_congr' fun frames => forall_congr' fun pushed =>
        ih (fit.push pushed)

theorem Along.mono {first second : UdpPayloadAssembler → PacketDesc → Prop}
    (weaker : ∀ assembler packet, first assembler packet → second assembler packet)
    {history : List PacketDesc} (along : Along first history assembler) :
    Along second history assembler := by
  induction history generalizing assembler with
  | nil => trivial
  | cons packet rest ih =>
      obtain ⟨here, later⟩ := along
      exact ⟨weaker assembler packet here, fun next frames pushed => ih (later next frames pushed)⟩

private theorem pushAll_of_along (history : List PacketDesc)
    (returns : Along (fun assembler packet => (assembler.push packet).isSome = true) history
      assembler) : (pushAll history assembler).isSome = true := by
  induction history generalizing assembler with
  | nil => rfl
  | cons packet rest ih =>
      obtain ⟨here, later⟩ := returns
      obtain ⟨⟨next, frames⟩, pushed⟩ := Option.isSome_iff_exists.mp here
      simp only [pushAll, pushed, Option.isSome_map]
      exact ih (later next frames pushed)

/-- In every history, the calls of `push` return with growing offsets exactly if the
pieces that they join are proper; then the whole history is processed. -/
theorem reassembly_terminates_iff (history : List PacketDesc) :
    (Along Terminates history {} ↔ Along JoinsProper history {}) ∧
      (Along JoinsProper history {} → (pushAll history {}).isSome = true) := by
  have fresh : PiecesFit {} := fun _ _ found => by cases found
  refine ⟨along_congr (fun _ packet fit => terminates_iff fit packet) history fresh, ?_⟩
  intro proper
  apply pushAll_of_along history
  have returns : Along (fun assembler packet => (assembler.push packet).isSome = true ∧
      assembler.JoinsProper packet) history {} := by
    refine (along_congr (fun _ packet fit => ?_) history fresh).mpr proper
    exact ⟨And.right, fun proper => ⟨((terminates_iff fit packet).mpr proper).1, proper⟩⟩
  exact returns.mono fun _ _ => And.left

/-! ## A history that does not end -/

private theorem pushAll_none {rest : List PacketDesc} (never : assembler.push packet = none) :
    pushAll (packet :: rest) assembler = none := by
  rw [pushAll, never]

private theorem pushAll_none_of_next {next : UdpPayloadAssembler} {frames : List UdpPayloadFrame}
    {rest : List PacketDesc} (pushed : assembler.push packet = some (next, frames))
    (never : pushAll rest next = none) : pushAll (packet :: rest) assembler = none := by
  rw [pushAll, pushed]
  exact congrArg (Option.map _) never

/-- The second of three fragments is empty. -/
def emptyFragmentHistory : List PacketDesc :=
  [ipv4Frame 7 0x2000 [0x75, 0x31, 0x27, 0x0F, 0, 24, 0, 0], ipv4Frame 7 0x2001 [],
    ipv4Frame 7 0x0002 [1, 2, 3, 4, 5, 6, 7, 8]]

/-- What is stored of it when the last fragment has come. -/
def emptyFragmentAssembly : FragmentAssembly :=
  let first := ipv4FramePacket 7 0x2000 [0x75, 0x31, 0x27, 0x0F, 0, 24, 0, 0]
  let second := ipv4FramePacket 7 0x2001 []
  let third := ipv4FramePacket 7 0x0002 [1, 2, 3, 4, 5, 6, 7, 8]
  ((FragmentAssembly.store {} first).store second).store third

/-- Behind the empty piece the loop stays where it is. -/
theorem emptyFragmentAssembly_never_ends (fuel : Nat) :
    emptyFragmentAssembly.reassemblyLoop fuel 0 [] = none := by
  have first : PartialLoop.turns emptyFragmentAssembly.nextOffset 1 0 = some 8 := by
    decide +kernel
  have back : PartialLoop.turns emptyFragmentAssembly.nextOffset 1 8 = some 8 := by
    decide +kernel
  apply (FragmentAssembly.reassemblyLoop_eq_none_iff fuel 0 []).mpr
  apply PartialLoop.turns_isSome_of_le (Nat.le_add_left fuel 1)
  rw [PartialLoop.turns_add, first]
  exact PartialLoop.never_stops_of_return Nat.one_pos back fuel

theorem empty_fragment_never_ends :
    (∀ fuel, emptyFragmentAssembly.reassemblyLoop fuel 0 [] = none) ∧
      pushAll emptyFragmentHistory {} = none ∧ ¬ Along Terminates emptyFragmentHistory {} := by
  have hangs : pushAll emptyFragmentHistory {} = none := by
    let key : FragmentKey := ⟨0x0A000001, 0x0A000002, 7, 17⟩
    let early := FragmentAssembly.store {}
      (ipv4FramePacket 7 0x2000 [0x75, 0x31, 0x27, 0x0F, 0, 24, 0, 0])
    have first : push {} (ipv4Frame 7 0x2000 [0x75, 0x31, 0x27, 0x0F, 0, 24, 0, 0]) =
        some (put {} key early, []) :=
      push_waiting (readIpv4_ipv4Frame (by decide) (by decide) (by decide)) (by decide) rfl
        (.inl (by decide +kernel))
    let late := early.store (ipv4FramePacket 7 0x2001 [])
    have second : push (put {} key early) (ipv4Frame 7 0x2001 []) =
        some (put (put {} key early) key late, []) :=
      push_waiting (readIpv4_ipv4Frame (by decide) (by decide) (by decide)) (by decide)
        (assemblyWith_put rfl) (.inl (by decide +kernel))
    have never : (late.store (ipv4FramePacket 7 0x0002 [1, 2, 3, 4, 5, 6, 7, 8])).reassemble =
        none := by
      have same : late.store (ipv4FramePacket 7 0x0002 [1, 2, 3, 4, 5, 6, 7, 8]) =
          emptyFragmentAssembly := rfl
      rw [same]
      exact FragmentAssembly.reassemble_eq_none_iff.mpr emptyFragmentAssembly_never_ends
    have third : push (put (put {} key early) key late)
        (ipv4Frame 7 0x0002 [1, 2, 3, 4, 5, 6, 7, 8]) = none :=
      push_never (readIpv4_ipv4Frame (by decide) (by decide) (by decide)) (by decide)
        (assemblyWith_put rfl) (by decide +kernel) never
    exact pushAll_none_of_next first (pushAll_none_of_next second (pushAll_none third))
  refine ⟨emptyFragmentAssembly_never_ends, hangs, fun terminates => ?_⟩
  have returns := pushAll_of_along emptyFragmentHistory (terminates.mono fun _ _ => And.left)
  rw [hangs] at returns
  cases returns

end UdpPayloadAssembler

end RxTech
