import RxTech.Cpi.Context

/-!
# Slot storage and progress

`SlotWriter::write` and `ProgressTracker::advance`.
-/

set_option autoImplicit false

namespace RxTech

structure SlotWriteResult where
  firstWrite : Bool := false
  duplicate : Bool := false
  slotIndex : Nat := 0
  reason : RejectReason := .none
  deriving DecidableEq, Repr

/-- `memcpy(ctx.slot_payload(index), bytes, len)`. -/
def CpiContext.copyPayload (ctx : CpiContext) (index : Nat) (bytes : ByteView) (len : Nat) :
    CpiContext :=
  let base := index * kCpiSlotStride
  { ctx with
    payload := fun address =>
      if base ≤ address ∧ address < base + len then bytes (address - base)
      else ctx.payload address }

/-- The first write of a slot: payload, bitmap, counters and timestamps. -/
def CpiContext.storePacket (ctx : CpiContext) (packet : ParsedPacketView) (bytes : ByteView)
    (index : Nat) : CpiContext :=
  let ctx := ctx.copyPayload index bytes packet.payloadLen
  let summary := ctx.prtSummary (packet.prt - 1)
  let channel := packet.channel
  let summary := { summary with
    chPktBitmap := Function.update summary.chPktBitmap channel
      (u16 (summary.chPktBitmap channel ||| packetBit packet.packetIndex))
    chRecvCount := Function.update summary.chRecvCount channel (summary.chRecvCount channel + 1)
    recvPacketCount := summary.recvPacketCount + 1 }
  let header := ctx.header
  { ctx with
    slotValidBytes := Function.update ctx.slotValidBytes index (u16 packet.payloadLen)
    prtSummary := Function.update ctx.prtSummary (packet.prt - 1) summary
    header := { header with
      receivedSlotCount := header.receivedSlotCount + 1
      firstRxTsc :=
        if packet.rxTsc ≠ 0 ∧ header.firstRxTsc = 0 then packet.rxTsc else header.firstRxTsc
      lastRxTsc := if packet.rxTsc ≠ 0 then packet.rxTsc else header.lastRxTsc
      observedNPrt :=
        if packet.prt > header.observedNPrt then packet.prt else header.observedNPrt } }

/-- `SlotWriter::write`. -/
def SlotWriter.write (spec : ProtocolSpec) (ctx : CpiContext) (packet : ParsedPacketView) :
    CpiContext × SlotWriteResult :=
  if packet.valid = false ∨ packet.kind ≠ .dataPacket then
    (ctx, { reason := .invalidFieldCombo })
  else
    let chCount := u16 spec.channelsPerPrt
    let pktPerCh := u16 spec.packetsPerChannel
    if isValidSlotCoord packet.prt packet.channel packet.packetIndex chCount pktPerCh = false then
      (ctx, { reason :=
        if packet.channel ≥ chCount then .invalidChannel else .invalidPacketIndex })
    -- V-006: PRT range check against the expected count, if known
    else if ctx.header.expectedNPrt > 0 ∧ packet.prt > ctx.header.expectedNPrt then
      (ctx, { reason := .invalidPrt })
    else
      match packet.payloadPtr with
      | none => (ctx, { reason := .invalidLen })
      | some bytes =>
          if packet.payloadLen = 0 ∨ packet.payloadLen > kCpiSlotStride then
            (ctx, { reason := .invalidLen })
          else
            let index := slotIndex packet.prt packet.channel packet.packetIndex chCount pktPerCh
            let bitmap := (ctx.prtSummary (packet.prt - 1)).chPktBitmap packet.channel
            if Bits.hasAny bitmap (packetBit packet.packetIndex) then
              ({ ctx with header.duplicateCount := u32 (ctx.header.duplicateCount + 1) },
                { duplicate := true, slotIndex := index })
            else
              (ctx.storePacket packet bytes index, { firstWrite := true, slotIndex := index })

/-- Write the summary of a PRT. -/
def CpiContext.setSummary (ctx : CpiContext) (prt : Nat) (summary : PrtSummary) : CpiContext :=
  { ctx with prtSummary := Function.update ctx.prtSummary (prt - 1) summary }

namespace ProgressTracker

/-- A channel that has just received its last packet is ready. -/
def markChannelReady (ctx : CpiContext) (prt channel pktPerCh : Nat) : CpiContext :=
  let summary := ctx.prtSummary (prt - 1)
  if summary.chRecvCount channel = pktPerCh then
    ctx.setSummary prt { summary with readyChannelCount := summary.readyChannelCount + 1 }
  else ctx

/-- A PRT whose channels are all ready is complete. -/
def markPrtComplete (ctx : CpiContext) (prt chCount : Nat) : CpiContext :=
  let summary := ctx.prtSummary (prt - 1)
  if summary.readyChannelCount = chCount ∧ Bits.hasAny summary.flags prtFlagComplete = false then
    { ctx.setSummary prt { summary with flags := summary.flags ||| prtFlagComplete } with
      header.readyPrtCount := ctx.header.readyPrtCount + 1 }
  else ctx

/-- The first tail of a PRT is recorded; on the last expected PRT it ends the
wave (T-005). -/
def observeTail (ctx : CpiContext) (prt : Nat) : CpiContext :=
  let summary := ctx.prtSummary (prt - 1)
  if Bits.hasAny summary.flags prtFlagSeenTail = false then
    { ctx.setSummary prt { summary with flags := summary.flags ||| prtFlagSeenTail } with
      header.triggerBits :=
        ctx.header.triggerBits ||| triggerTailObserved |||
          (if ctx.header.expectedNPrt > 0 ∧ prt ≥ ctx.header.expectedNPrt then triggerWaveEnd
          else triggerNone) }
  else ctx

def markFullReady (ctx : CpiContext) : CpiContext :=
  let header := ctx.header
  if header.expectedSlotCount > 0 ∧ header.receivedSlotCount ≥ header.expectedSlotCount then
    { ctx with header.triggerBits := header.triggerBits ||| triggerFullReady }
  else ctx

/-- `advance` up to the test whether the context is full. -/
def advancePrt (ctx : CpiContext) (prt channel chCount pktPerCh : Nat) (sawTail : Bool) :
    CpiContext :=
  let ctx := markChannelReady ctx prt channel pktPerCh
  let ctx := markPrtComplete ctx prt chCount
  if sawTail then observeTail ctx prt else ctx

/-- `ProgressTracker::advance`. -/
def advance (spec : ProtocolSpec) (ctx : CpiContext) (prt channel : Nat) (sawTail : Bool) :
    CpiContext :=
  let chCount := u16 spec.channelsPerPrt
  let pktPerCh := u16 spec.packetsPerChannel
  if prt = 0 ∨ prt > kCpiPrtMax ∨ channel ≥ chCount ∨ channel ≥ kCpiMaxChannelCount then ctx
  else markFullReady (advancePrt ctx prt channel chCount pktPerCh sawTail)

end ProgressTracker

/-! ## The outcome of a write -/

/-- The checks before the bitmap: coordinates, the PRT against the expected
count, and the payload. -/
structure SlotWriter.Accepts (spec : ProtocolSpec) (expectedNPrt : Nat)
    (packet : ParsedPacketView) : Prop where
  valid : packet.valid = true
  kind : packet.kind = .dataPacket
  coord : isValidSlotCoord packet.prt packet.channel packet.packetIndex
    (u16 spec.channelsPerPrt) (u16 spec.packetsPerChannel) = true
  expected : expectedNPrt = 0 ∨ packet.prt ≤ expectedNPrt
  payload : packet.payloadPtr.isSome = true
  len_pos : 0 < packet.payloadLen
  len_le : packet.payloadLen ≤ kCpiSlotStride

def SlotWriter.index (spec : ProtocolSpec) (packet : ParsedPacketView) : Nat :=
  slotIndex packet.prt packet.channel packet.packetIndex (u16 spec.channelsPerPrt)
    (u16 spec.packetsPerChannel)

def CpiContext.bitmapHas (ctx : CpiContext) (packet : ParsedPacketView) : Bool :=
  Bits.hasAny ((ctx.prtSummary (packet.prt - 1)).chPktBitmap packet.channel)
    (packetBit packet.packetIndex)

def CpiContext.countDuplicate (ctx : CpiContext) : CpiContext :=
  { ctx with header.duplicateCount := u32 (ctx.header.duplicateCount + 1) }

inductive SlotWriter.Outcome (spec : ProtocolSpec) (ctx : CpiContext) (packet : ParsedPacketView) :
    CpiContext × SlotWriteResult → Prop where
  | rejected (reason : RejectReason)
      (declines : ¬ SlotWriter.Accepts spec ctx.header.expectedNPrt packet) :
      Outcome spec ctx packet (ctx, { reason })
  | duplicate (accepts : SlotWriter.Accepts spec ctx.header.expectedNPrt packet)
      (present : ctx.bitmapHas packet = true) :
      Outcome spec ctx packet
        (ctx.countDuplicate, { duplicate := true, slotIndex := SlotWriter.index spec packet })
  | stored (bytes : ByteView) (payload : packet.payloadPtr = some bytes)
      (accepts : SlotWriter.Accepts spec ctx.header.expectedNPrt packet)
      (absent : ctx.bitmapHas packet = false) :
      Outcome spec ctx packet
        (ctx.storePacket packet bytes (SlotWriter.index spec packet),
          { firstWrite := true, slotIndex := SlotWriter.index spec packet })

theorem SlotWriter.write_outcome (spec : ProtocolSpec) (ctx : CpiContext)
    (packet : ParsedPacketView) :
    SlotWriter.Outcome spec ctx packet (SlotWriter.write spec ctx packet) := by
  unfold SlotWriter.write
  simp only
  split
  · rename_i invalid
    refine .rejected _ fun accepts => ?_
    simp [accepts.valid, accepts.kind] at invalid
  rename_i data
  split
  · rename_i outside
    refine .rejected _ fun accepts => ?_
    simp [accepts.coord] at outside
  rename_i coord
  split
  · rename_i beyond
    refine .rejected _ fun accepts => ?_
    rcases accepts.expected with unknown | within <;> omega
  rename_i expected
  split
  · rename_i null
    refine .rejected _ fun accepts => ?_
    have := accepts.payload
    simp [null] at this
  rename_i bytes payload
  split
  · rename_i length
    refine .rejected _ fun accepts => ?_
    have := accepts.len_pos
    have := accepts.len_le
    omega
  rename_i length
  have accepts : SlotWriter.Accepts spec ctx.header.expectedNPrt packet := by
    refine ⟨by simpa using fun invalid => data (.inl invalid), ?_, by simpa using coord, by omega,
      by simp [payload], by omega, by omega⟩
    exact Classical.not_not.mp fun other => data (.inr other)
  split
  · rename_i present
    exact .duplicate accepts present
  · rename_i absent
    exact .stored bytes payload accepts (by simpa [CpiContext.bitmapHas] using absent)

/-! ## What a write leaves alone -/

@[simp] theorem SlotWriter.write_identity (spec : ProtocolSpec) (ctx : CpiContext)
    (packet : ParsedPacketView) : (SlotWriter.write spec ctx packet).1.identity = ctx.identity := by
  have outcome := SlotWriter.write_outcome spec ctx packet
  generalize SlotWriter.write spec ctx packet = result at outcome ⊢
  cases outcome <;> rfl

namespace ProgressTracker

@[simp] theorem markChannelReady_identity (ctx : CpiContext) (prt channel pktPerCh : Nat) :
    (markChannelReady ctx prt channel pktPerCh).identity = ctx.identity := by
  simp only [markChannelReady]
  split_ifs <;> rfl

@[simp] theorem markPrtComplete_identity (ctx : CpiContext) (prt chCount : Nat) :
    (markPrtComplete ctx prt chCount).identity = ctx.identity := by
  simp only [markPrtComplete]
  split_ifs <;> rfl

@[simp] theorem observeTail_identity (ctx : CpiContext) (prt : Nat) :
    (observeTail ctx prt).identity = ctx.identity := by
  simp only [observeTail]
  split_ifs <;> rfl

@[simp] theorem markFullReady_identity (ctx : CpiContext) :
    (markFullReady ctx).identity = ctx.identity := by
  simp only [markFullReady]
  split_ifs <;> rfl

@[simp] theorem advance_identity (spec : ProtocolSpec) (ctx : CpiContext) (prt channel : Nat)
    (sawTail : Bool) : (advance spec ctx prt channel sawTail).identity = ctx.identity := by
  simp only [advance]
  split
  · rfl
  · cases sawTail <;> simp [advancePrt]

end ProgressTracker

end RxTech
