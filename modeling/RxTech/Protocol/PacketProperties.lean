import RxTech.Protocol.Packet

/-!
# What the validator and the interpreter let through
-/

set_option autoImplicit false

namespace RxTech

/-- A data packet that passed the validator and the interpreter. -/
structure Checked (spec : ProtocolSpec) (parsed : ParsedPacketView)
    (packet : InterpretedPacketView) : Prop where
  kind : parsed.kind = .dataPacket
  validated : (PacketValidator.validate spec parsed).ok = true
  interpreted : packet = ProtocolSequenceInterpreter.interpret spec parsed
  accepted : packet.valid = true

theorem interpret_kind (spec : ProtocolSpec) (parsed : ParsedPacketView) :
    (ProtocolSequenceInterpreter.interpret spec parsed).kind = parsed.kind := by
  simp only [ProtocolSequenceInterpreter.interpret]
  split
  · rfl
  split
  · rfl
  · rfl
  split
  · rfl
  split
  · rfl
  split
  · rfl
  split_ifs <;> rfl

theorem interpret_fields {spec : ProtocolSpec} {parsed : ParsedPacketView}
    (kind : parsed.kind = .dataPacket)
    (accepted : (ProtocolSequenceInterpreter.interpret spec parsed).valid = true) :
    (ProtocolSequenceInterpreter.interpret spec parsed).cpi = parsed.cpi ∧
      (ProtocolSequenceInterpreter.interpret spec parsed).prt = parsed.prt ∧
      (ProtocolSequenceInterpreter.interpret spec parsed).channel = parsed.channel ∧
      (ProtocolSequenceInterpreter.interpret spec parsed).packetIndex = parsed.packetIndex := by
  revert accepted
  simp only [ProtocolSequenceInterpreter.interpret, kind]
  split
  · exact fun impossible => (nomatch impossible)
  split
  · exact fun impossible => (nomatch impossible)
  split
  · exact fun impossible => (nomatch impossible)
  split
  · exact fun impossible => (nomatch impossible)
  split
  · exact fun impossible => (nomatch impossible)
  split
  · split
    · exact fun impossible => (nomatch impossible)
    split
    · exact fun _ => ⟨rfl, rfl, rfl, rfl⟩
    · exact fun impossible => (nomatch impossible)
  · exact fun _ => ⟨rfl, rfl, rfl, rfl⟩

/-- The fields of a data packet that the validator has checked. -/
structure DataChecks (spec : ProtocolSpec) (parsed : ParsedPacketView) : Prop where
  valid : parsed.valid = true
  channel : parsed.channel < spec.channelsPerPrt
  packetIndex_pos : 1 ≤ parsed.packetIndex
  packetIndex_le : parsed.packetIndex ≤ spec.packetsPerChannel
  payload : parsed.payloadPtr.isSome = true
  payloadLen : parsed.payloadLen = spec.packetDataSize
  tail : parsed.tail = 0 ∨ (parsed.tail = spec.magicTail ∧
    parsed.packetIndex = spec.packetsPerChannel)

theorem validate_dataChecks {spec : ProtocolSpec} {parsed : ParsedPacketView}
    (kind : parsed.kind = .dataPacket)
    (validated : (PacketValidator.validate spec parsed).ok = true) : DataChecks spec parsed := by
  revert validated
  simp only [PacketValidator.validate, kind]
  split
  · exact fun impossible => (nomatch impossible)
  rename_i valid
  split
  · exact fun impossible => (nomatch impossible)
  rename_i channel
  split
  · exact fun impossible => (nomatch impossible)
  rename_i packetIndex
  split
  · exact fun impossible => (nomatch impossible)
  rename_i payload
  split
  · exact fun impossible => (nomatch impossible)
  rename_i tail
  split
  · exact fun impossible => (nomatch impossible)
  rename_i combination
  intro _
  have present : parsed.payloadPtr.isSome = true := by
    cases pointer : parsed.payloadPtr with
    | some bytes => rfl
    | none => exact absurd (.inl (by rw [pointer]; rfl)) payload
  refine ⟨by simpa using valid, by omega, by omega, by omega, present, ?_, ?_⟩
  · exact Classical.byContradiction fun other => payload (.inr other)
  · by_cases zero : parsed.tail = 0
    · exact .inl zero
    · have marked : parsed.tail = spec.magicTail :=
        Classical.byContradiction fun other => tail ⟨zero, other⟩
      exact .inr ⟨marked, Classical.byContradiction fun other => combination ⟨marked, other⟩⟩

/-- The range tests of the validator and the interpreter do not fire. -/
theorem DataChecks.inRange {spec : ProtocolSpec} {parsed : ParsedPacketView}
    (checks : DataChecks spec parsed) :
    ¬ parsed.channel ≥ spec.channelsPerPrt ∧
      ¬ (parsed.packetIndex = 0 ∨ parsed.packetIndex > spec.packetsPerChannel) := by
  have positive := checks.packetIndex_pos
  have inside := checks.packetIndex_le
  exact ⟨Nat.not_le.mpr checks.channel, by omega⟩

theorem DataChecks.validated {spec : ProtocolSpec} {parsed : ParsedPacketView}
    (checks : DataChecks spec parsed) (formed : spec.WellFormed)
    (kind : parsed.kind = .dataPacket) : (PacketValidator.validate spec parsed).ok = true := by
  obtain ⟨channel, packetIndex⟩ := checks.inRange
  have payload : ¬ (parsed.payloadPtr.isNone = true ∨ parsed.payloadLen ≠ spec.packetDataSize) := by
    rintro (missing | other)
    · rw [← Option.not_isSome, checks.payload] at missing
      cases missing
    · exact other checks.payloadLen
  have tail : ¬ (parsed.tail ≠ 0 ∧ parsed.tail ≠ spec.magicTail) := by
    rintro ⟨nonzero, unmarked⟩
    exact checks.tail.elim nonzero fun marked => unmarked marked.1
  have combination : ¬ (parsed.tail = spec.magicTail ∧
      parsed.packetIndex ≠ spec.packetsPerChannel) := by
    rintro ⟨marked, early⟩
    rcases checks.tail with unmarked | ⟨-, last⟩
    · exact formed.tail_ne_zero (marked.symm.trans unmarked)
    · exact early last
  simp only [PacketValidator.validate, checks.valid, kind, Bool.true_eq_false, if_false]
  rw [if_neg channel, if_neg packetIndex, if_neg payload, if_neg tail, if_neg combination]

theorem validate_reason {spec : ProtocolSpec} {parsed : ParsedPacketView}
    (refused : (PacketValidator.validate spec parsed).ok = false) :
    (PacketValidator.validate spec parsed).reason ≠ .none := by
  revert refused
  simp only [PacketValidator.validate]
  split
  · intro _
    simp only
    split
    · decide
    · assumption
  cases parsed.kind with
  | unknown => exact fun _ impossible => (nomatch impossible)
  | controlTable =>
      simp only
      split
      · exact fun _ => by decide
      · rintro ⟨⟩
  | dataPacket =>
      simp only
      split_ifs <;> simp

theorem interpret_reason {spec : ProtocolSpec} {parsed : ParsedPacketView}
    (refused : (ProtocolSequenceInterpreter.interpret spec parsed).valid = false) :
    (ProtocolSequenceInterpreter.interpret spec parsed).rejectReason ≠ .none := by
  revert refused
  simp only [ProtocolSequenceInterpreter.interpret]
  split
  · intro _
    simp only
    split
    · decide
    · assumption
  cases parsed.kind with
  | unknown => exact fun _ impossible => (nomatch impossible)
  | controlTable => rintro ⟨⟩
  | dataPacket =>
      simp only
      split
      · exact fun _ impossible => (nomatch impossible)
      split
      · exact fun _ impossible => (nomatch impossible)
      cases parsed.payloadPtr with
      | none => exact fun _ impossible => (nomatch impossible)
      | some bytes =>
          simp only
          split_ifs <;> simp

theorem validate_control {spec : ProtocolSpec} {parsed : ParsedPacketView}
    (valid : parsed.valid = true) (kind : parsed.kind = .controlTable)
    (payload : parsed.payloadPtr.isSome = true) :
    (PacketValidator.validate spec parsed).ok = true ↔
      parsed.payloadLen = controlTablePayloadLen spec := by
  have present : parsed.payloadPtr.isNone = false := by rw [← Option.not_isSome, payload]; rfl
  simp only [PacketValidator.validate, valid, kind, present, Bool.true_eq_false,
    Bool.false_eq_true, if_false, false_or]
  split
  · rename_i other
    exact iff_of_false (by decide) other
  · rename_i same
    exact iff_of_true rfl (Classical.not_not.mp same)

theorem interpret_control {spec : ProtocolSpec} {parsed : ParsedPacketView}
    (valid : parsed.valid = true) (kind : parsed.kind = .controlTable) :
    ProtocolSequenceInterpreter.interpret spec parsed =
      { kind := .controlTable, cpi := parsed.cpi, valid := true } := by
  simp only [ProtocolSequenceInterpreter.interpret, valid, kind, Bool.true_eq_false, if_false]

/-- Beyond what the validator checks, the interpreter asks for zeros behind the
last sample of a channel. -/
theorem interpret_data {spec : ProtocolSpec} {parsed : ParsedPacketView} {bytes : ByteView}
    (checks : DataChecks spec parsed) (kind : parsed.kind = .dataPacket)
    (payload : parsed.payloadPtr = some bytes) :
    (ProtocolSequenceInterpreter.interpret spec parsed).valid = true ↔
      (parsed.packetIndex = spec.packetsPerChannel →
        spec.iqPerLastPacket * bytesPerIq ≤ parsed.payloadLen ∧
          paddingIsZero bytes (spec.iqPerLastPacket * bytesPerIq) parsed.payloadLen = true) := by
  obtain ⟨channel, packetIndex⟩ := checks.inRange
  have sized : ¬ parsed.payloadLen ≠ spec.packetDataSize := Classical.not_not.mpr checks.payloadLen
  simp only [ProtocolSequenceInterpreter.interpret, checks.valid, kind, payload, Bool.true_eq_false,
    if_false]
  rw [if_neg channel, if_neg packetIndex, if_neg sized]
  split
  · rename_i last
    split
    · rename_i short
      have tooLong : ¬ spec.iqPerLastPacket * bytesPerIq ≤ parsed.payloadLen := Nat.not_le.mpr short
      exact iff_of_false Bool.false_ne_true fun padded => tooLong (padded last).1
    rename_i long
    split
    · rename_i zero
      exact iff_of_true rfl fun _ => ⟨Nat.le_of_not_gt long, zero⟩
    · rename_i nonzero
      exact iff_of_false Bool.false_ne_true fun padded => nonzero (padded last).2
  · rename_i early
    exact iff_of_true rfl fun last => absurd last early

theorem Checked.data {spec : ProtocolSpec} {parsed : ParsedPacketView}
    {packet : InterpretedPacketView} (checked : Checked spec parsed packet) :
    ValidData parsed packet := by
  obtain ⟨kind, validated, rfl, accepted⟩ := checked
  obtain ⟨cpi, prt, channel, -⟩ := interpret_fields kind accepted
  exact ⟨(validate_dataChecks kind validated).valid, kind, cpi, prt, channel⟩

end RxTech
