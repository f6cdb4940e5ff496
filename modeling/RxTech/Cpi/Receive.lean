import RxTech.Cpi.Triggers
import Mathlib.Data.List.Fold
import Mathlib.Data.List.MinMax

/-!
# Receiving a packet

A first write together with its progress, and when it completes a context.
-/

set_option autoImplicit false

namespace RxTech

/-- The context after a first write and its progress. -/
def CpiContext.receive (spec : ProtocolSpec) (ctx : CpiContext) (parsed : ParsedPacketView)
    (bytes : ByteView) : CpiContext :=
  ProgressTracker.advance spec (ctx.storePacket parsed bytes (SlotWriter.index spec parsed))
    parsed.prt parsed.channel (parsed.tail == spec.magicTail)

/-- A packet that a context takes as a first write. -/
structure CpiContext.Takes (spec : ProtocolSpec) (ctx : CpiContext) (parsed : ParsedPacketView)
    (bytes : ByteView) : Prop where
  accepts : SlotWriter.Accepts spec ctx.header.expectedNPrt parsed
  payload : parsed.payloadPtr = some bytes
  absent : ctx.bitmapHas parsed = false

namespace CpiContext

variable {spec : ProtocolSpec} {ctx : CpiContext} {parsed : ParsedPacketView} {bytes : ByteView}

@[simp] theorem receive_identity : (ctx.receive spec parsed bytes).identity = ctx.identity :=
  ProgressTracker.advance_identity ..

@[simp] theorem receive_binding : (ctx.receive spec parsed bytes).binding = ctx.binding :=
  ProgressTracker.advance_binding ..

theorem receive_birth : (ctx.receive spec parsed bytes).birth = ctx.birth :=
  birth_of_identity receive_identity

theorem receive_cpiId : (ctx.receive spec parsed bytes).header.cpiId = ctx.header.cpiId :=
  cpiId_of_identity receive_identity

theorem receive_control : (ctx.receive spec parsed bytes).control = ctx.control :=
  congrArg Prod.fst receive_binding

theorem receive_expectedSlotCount :
    (ctx.receive spec parsed bytes).header.expectedSlotCount = ctx.header.expectedSlotCount :=
  congrArg (fun binding => binding.2.2.1) receive_binding

theorem receive_sameRecord :
    SameRecord (ctx.storePacket parsed bytes (SlotWriter.index spec parsed))
    (ctx.receive spec parsed bytes) := ProgressTracker.advance_sameRecord ..

theorem receive_observed : (ctx.receive spec parsed bytes).header.observedNPrt =
    max ctx.header.observedNPrt parsed.prt :=
  receive_sameRecord.observed.trans (storePacket_observed ..)

theorem receive_received : (ctx.receive spec parsed bytes).header.receivedSlotCount =
    ctx.header.receivedSlotCount + 1 :=
  receive_sameRecord.received

theorem receive_fullReady (formed : spec.WellFormed) (takes : ctx.Takes spec parsed bytes) :
    Bits.hasAny (ctx.receive spec parsed bytes).header.triggerBits triggerFullReady =
      (Bits.hasAny ctx.header.triggerBits triggerFullReady ||
        (ctx.receive spec parsed bytes).isFull) := by
  have within := (isValidSlotCoord_iff formed).mp takes.accepts.coord
  have full : (ctx.receive spec parsed bytes).isFull =
      (ctx.storePacket parsed bytes (SlotWriter.index spec parsed)).isFull :=
    isFull_congr receive_binding receive_sameRecord
  rw [full]
  exact ProgressTracker.advance_fullReady formed _ within _

end CpiContext

/-! ## Full contexts -/

theorem Recorded.prt_le_observed {spec : ProtocolSpec} {packets : List ParsedPacketView}
    {ctx : CpiContext} (recorded : Recorded spec packets ctx) {packet : ParsedPacketView}
    (member : packet ∈ packets) : packet.prt ≤ ctx.header.observedNPrt := by
  rw [recorded.observed, List.foldl_eq_foldr]
  exact List.le_max_of_le' 0 (List.mem_map_of_mem member) (Nat.le_refl _)

/-- A full context whose packets lie within its PRTs has all of them. -/
theorem Reception.complete {spec : ProtocolSpec} {packets : List ParsedPacketView}
    {ctx : CpiContext} (reception : Reception spec packets ctx) (bound : Bound spec ctx)
    (full : ctx.isFull = true) (contained : ctx.header.observedNPrt ≤ ctx.control.nPrt)
    {coord : SlotCoord} (within : coord.Within spec ctx.control.nPrt) :
    ctx.hasPacket coord.prt coord.channel coord.packetIndex = true := by
  have recorded := reception.recorded
  have enough : ctx.control.nPrt * (spec.channelsPerPrt * spec.packetsPerChannel) ≤
      (packets.map ParsedPacketView.coord).length := by
    simp only [CpiContext.isFull, decide_eq_true_eq] at full
    rw [List.length_map, ← recorded.received, ← bound.expectedSlotCount]
    exact full.2
  have inside : ∀ coord ∈ packets.map ParsedPacketView.coord,
      coord.Within spec ctx.control.nPrt := by
    intro coord member
    obtain ⟨packet, stored, rfl⟩ := List.mem_map.mp member
    exact { recorded.within packet stored with
      prt_le := Nat.le_trans (recorded.prt_le_observed stored) contained }
  have member := slotCoords_subset_of_length recorded.distinct inside enough within
  have prt : coord.prt - 1 + 1 = coord.prt := Nat.sub_add_cancel within.prt_pos
  have packetIndex : coord.packetIndex - 1 + 1 = coord.packetIndex :=
    Nat.sub_add_cancel within.packetIndex_pos
  rw [CpiContext.hasPacket, recorded.bitmap, prt, packetIndex, decide_eq_true_eq]
  exact member

theorem CpiContext.nPrt_pos_of_isFull {spec : ProtocolSpec} {ctx : CpiContext}
    (bound : Bound spec ctx) (full : ctx.isFull = true) : 1 ≤ ctx.control.nPrt := by
  simp only [CpiContext.isFull, decide_eq_true_eq, bound.expectedSlotCount] at full
  exact Nat.pos_of_mul_pos_right full.1

end RxTech
