import RxTech.Cpi.Reception
import RxTech.Cpi.Binding

/-!
# Triggers

Which trigger bits a write can raise, and that it leaves the binding alone.
-/

set_option autoImplicit false

namespace RxTech

/-- What a write and its progress leave alone besides the identity. -/
def CpiContext.binding (ctx : CpiContext) : ControlSnapshot × Nat × Nat × Nat :=
  (ctx.control, ctx.header.expectedNPrt, ctx.header.expectedSlotCount, ctx.header.duplicateCount)

@[simp] theorem storePacket_binding (ctx : CpiContext) (packet : ParsedPacketView)
    (bytes : ByteView) (slot : Nat) :
    (ctx.storePacket packet bytes slot).binding = ctx.binding := rfl

theorem Bound.of_binding {spec : ProtocolSpec} {ctx next : CpiContext} (bound : Bound spec ctx)
    (same : next.binding = ctx.binding) : Bound spec next := by
  obtain ⟨control, expectedNPrt, expectedSlotCount, -⟩ := by
    simpa only [CpiContext.binding, Prod.mk.injEq] using same
  exact ⟨control ▸ bound.madeFrom, by rw [expectedNPrt, control]; exact bound.expectedNPrt,
    by rw [expectedSlotCount, control]; exact bound.expectedSlotCount⟩

/-- The count that makes a context full. -/
def CpiContext.isFull (ctx : CpiContext) : Bool :=
  decide (0 < ctx.header.expectedSlotCount ∧
    ctx.header.expectedSlotCount ≤ ctx.header.receivedSlotCount)

namespace ProgressTracker

@[simp] theorem markChannelReady_binding (ctx : CpiContext) (prt channel pktPerCh : Nat) :
    (markChannelReady ctx prt channel pktPerCh).binding = ctx.binding := by
  simp only [markChannelReady]
  split <;> rfl

@[simp] theorem markPrtComplete_binding (ctx : CpiContext) (prt chCount : Nat) :
    (markPrtComplete ctx prt chCount).binding = ctx.binding := by
  simp only [markPrtComplete]
  split <;> rfl

@[simp] theorem observeTail_binding (ctx : CpiContext) (prt : Nat) :
    (observeTail ctx prt).binding = ctx.binding := by
  simp only [observeTail]
  by_cases first : Bits.hasAny (ctx.prtSummary (prt - 1)).flags prtFlagSeenTail = false
  · rw [if_pos first]
    rfl
  · rw [if_neg first]

@[simp] theorem markFullReady_binding (ctx : CpiContext) :
    (markFullReady ctx).binding = ctx.binding := by
  simp only [markFullReady]
  split <;> rfl

@[simp] theorem advancePrt_binding (ctx : CpiContext) (prt channel chCount pktPerCh : Nat)
    (sawTail : Bool) :
    (advancePrt ctx prt channel chCount pktPerCh sawTail).binding = ctx.binding := by
  cases sawTail <;> simp [advancePrt]

@[simp] theorem advance_binding (spec : ProtocolSpec) (ctx : CpiContext) (prt channel : Nat)
    (sawTail : Bool) : (advance spec ctx prt channel sawTail).binding = ctx.binding := by
  simp only [advance]
  split
  · rfl
  · simp

@[simp] theorem markPrtComplete_triggerBits (ctx : CpiContext) (prt chCount : Nat) :
    (markPrtComplete ctx prt chCount).header.triggerBits = ctx.header.triggerBits := by
  simp only [markPrtComplete]
  split <;> rfl

private theorem observeTail_fullReady (ctx : CpiContext) (prt : Nat) :
    Bits.hasAny (observeTail ctx prt).header.triggerBits triggerFullReady =
      Bits.hasAny ctx.header.triggerBits triggerFullReady := by
  have tail : Bits.hasAny triggerTailObserved triggerFullReady = false := by decide
  have wave : Bits.hasAny triggerWaveEnd triggerFullReady = false := by decide
  have none : Bits.hasAny triggerNone triggerFullReady = false := by decide
  simp only [observeTail]
  by_cases first : Bits.hasAny (ctx.prtSummary (prt - 1)).flags prtFlagSeenTail = false
  · rw [if_pos first]
    simp only [Bits.hasAny_or, tail, Bool.or_false]
    split <;> simp [wave, none]
  · rw [if_neg first]

private theorem observeTail_waveEnd (ctx : CpiContext) (prt : Nat) :
    Bits.hasAny (observeTail ctx prt).header.triggerBits triggerWaveEnd =
      (Bits.hasAny ctx.header.triggerBits triggerWaveEnd ||
        decide (Bits.hasAny (ctx.prtSummary (prt - 1)).flags prtFlagSeenTail = false ∧
          0 < ctx.header.expectedNPrt ∧ ctx.header.expectedNPrt ≤ prt)) := by
  have tail : Bits.hasAny triggerTailObserved triggerWaveEnd = false := by decide
  have wave : Bits.hasAny triggerWaveEnd triggerWaveEnd = true := by decide
  have none : Bits.hasAny triggerNone triggerWaveEnd = false := by decide
  simp only [observeTail]
  by_cases first : Bits.hasAny (ctx.prtSummary (prt - 1)).flags prtFlagSeenTail = false
  · rw [if_pos first]
    simp only [Bits.hasAny_or, tail, Bool.or_false, first, true_and]
    congr 1
    split
    · rename_i last
      simp [wave, show 0 < ctx.header.expectedNPrt ∧ ctx.header.expectedNPrt ≤ prt from last]
    · rename_i early
      have early : ¬ (0 < ctx.header.expectedNPrt ∧ ctx.header.expectedNPrt ≤ prt) := early
      simp only [none, early, decide_false]
  · rw [if_neg first]
    simp [first]

private theorem markFullReady_fullReady (ctx : CpiContext) :
    Bits.hasAny (markFullReady ctx).header.triggerBits triggerFullReady =
      (Bits.hasAny ctx.header.triggerBits triggerFullReady || ctx.isFull) := by
  have full : Bits.hasAny triggerFullReady triggerFullReady = true := by decide
  simp only [markFullReady, CpiContext.isFull]
  split
  · rename_i reached
    simp [Bits.hasAny_or, full, show 0 < ctx.header.expectedSlotCount ∧
      ctx.header.expectedSlotCount ≤ ctx.header.receivedSlotCount from reached]
  · rename_i short
    have short : ¬ (0 < ctx.header.expectedSlotCount ∧
      ctx.header.expectedSlotCount ≤ ctx.header.receivedSlotCount) := short
    simp only [short, decide_false, Bool.or_false]

private theorem markFullReady_waveEnd (ctx : CpiContext) :
    Bits.hasAny (markFullReady ctx).header.triggerBits triggerWaveEnd =
      Bits.hasAny ctx.header.triggerBits triggerWaveEnd := by
  have full : Bits.hasAny triggerFullReady triggerWaveEnd = false := by decide
  simp only [markFullReady]
  split
  · simp [Bits.hasAny_or, full]
  · rfl

end ProgressTracker

theorem CpiContext.isFull_congr {ctx next : CpiContext} (same : next.binding = ctx.binding)
    (record : SameRecord ctx next) : next.isFull = ctx.isFull := by
  obtain ⟨-, -, expectedSlotCount, -⟩ := by
    simpa only [CpiContext.binding, Prod.mk.injEq] using same
  simp only [CpiContext.isFull, expectedSlotCount, record.received]

namespace ProgressTracker

/-- `advance` raises the full trigger when the count is reached. -/
theorem advance_fullReady {spec : ProtocolSpec} (formed : spec.WellFormed) (ctx : CpiContext)
    {packet : ParsedPacketView} (within : packet.coord.Within spec kCpiPrtMax) (sawTail : Bool) :
    Bits.hasAny (advance spec ctx packet.prt packet.channel sawTail).header.triggerBits
        triggerFullReady =
      (Bits.hasAny ctx.header.triggerBits triggerFullReady || ctx.isFull) := by
  have full := CpiContext.isFull_congr
    (advancePrt_binding ctx packet.prt packet.channel spec.channelsPerPrt spec.packetsPerChannel
      sawTail) (advancePrt_sameRecord ..)
  rw [advance_eq formed ctx within, markFullReady_fullReady, full]
  cases sawTail <;> simp [advancePrt, observeTail_fullReady]

/-- `advance` raises the wave-end trigger on the first tail of the last expected
PRT. -/
theorem advance_waveEnd {spec : ProtocolSpec} (formed : spec.WellFormed) (ctx : CpiContext)
    {packet : ParsedPacketView} (within : packet.coord.Within spec kCpiPrtMax) (sawTail : Bool) :
    Bits.hasAny (advance spec ctx packet.prt packet.channel sawTail).header.triggerBits
        triggerWaveEnd =
      (Bits.hasAny ctx.header.triggerBits triggerWaveEnd ||
        decide (sawTail = true ∧
          Bits.hasAny (ctx.prtSummary (packet.prt - 1)).flags prtFlagSeenTail = false ∧
          0 < ctx.header.expectedNPrt ∧ ctx.header.expectedNPrt ≤ packet.prt)) := by
  rw [advance_eq formed ctx within, markFullReady_waveEnd]
  cases sawTail with
  | false => simp [advancePrt]
  | true =>
      have binding : (markPrtComplete (markChannelReady ctx packet.prt packet.channel
          spec.packetsPerChannel) packet.prt spec.channelsPerPrt).header.expectedNPrt =
          ctx.header.expectedNPrt := by
        have same := (markPrtComplete_binding (markChannelReady ctx packet.prt packet.channel
          spec.packetsPerChannel) packet.prt spec.channelsPerPrt).trans
          (markChannelReady_binding ctx packet.prt packet.channel spec.packetsPerChannel)
        exact congrArg (fun binding => binding.2.1) same
      simp [advancePrt, observeTail_waveEnd, binding]

end ProgressTracker

/-! ## Binding leaves the record alone -/

theorem bindControlSnapshot_reception {spec : ProtocolSpec} {packets : List ParsedPacketView}
    {ctx : CpiContext} (reception : Reception spec packets ctx) (control : ControlSnapshot) :
    Reception spec packets (bindControlSnapshot ctx control) := by
  unfold bindControlSnapshot
  split <;> exact reception.congr (.of_header rfl rfl rfl rfl rfl rfl) rfl rfl

theorem mergeControlSnapshot_reception {spec : ProtocolSpec} {packets : List ParsedPacketView}
    {ctx : CpiContext} (reception : Reception spec packets ctx) (candidate : ControlSnapshot) :
    Reception spec packets (mergeControlSnapshot ctx candidate) := by
  have merged := mergeControlSnapshot_merged ctx candidate
  generalize mergeControlSnapshot ctx candidate = next at merged ⊢
  cases merged with
  | kept => exact reception
  | conflicted => exact reception.congr (.of_header rfl rfl rfl rfl rfl rfl) rfl rfl
  | converged | replaced | rebound => exact bindControlSnapshot_reception reception candidate

@[simp] theorem bindControlSnapshot_triggerBits (ctx : CpiContext) (control : ControlSnapshot) :
    (bindControlSnapshot ctx control).header.triggerBits = ctx.header.triggerBits := by
  unfold bindControlSnapshot
  split <;> rfl

@[simp] theorem mergeControlSnapshot_triggerBits (ctx : CpiContext)
    (candidate : ControlSnapshot) :
    (mergeControlSnapshot ctx candidate).header.triggerBits = ctx.header.triggerBits := by
  have merged := mergeControlSnapshot_merged ctx candidate
  generalize mergeControlSnapshot ctx candidate = next at merged ⊢
  cases merged with
  | kept | conflicted => rfl
  | converged | replaced | rebound => exact bindControlSnapshot_triggerBits ctx candidate

end RxTech
