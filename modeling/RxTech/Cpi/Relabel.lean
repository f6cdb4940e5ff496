import RxTech.Cpi.Adjudication

/-!
# Relabelled contexts

A context whose pool index is renamed and whose seal time is forgotten: what is
written to it, how it is bound and how it is decided do not look at either.
-/

set_option autoImplicit false

namespace RxTech

def CpiContext.relabel (rename : Option PoolIndex → Option PoolIndex) (ctx : CpiContext) :
    CpiContext :=
  { ctx with header.poolIndex := rename ctx.header.poolIndex, header.sealTsc := 0 }

namespace CpiContext

variable (rename : Option PoolIndex → Option PoolIndex)

theorem write_relabel (spec : ProtocolSpec) (ctx : CpiContext) (packet : ParsedPacketView) :
    SlotWriter.write spec (ctx.relabel rename) packet =
      ((SlotWriter.write spec ctx packet).1.relabel rename,
        (SlotWriter.write spec ctx packet).2) := by
  simp only [SlotWriter.write,
    show (ctx.relabel rename).header.expectedNPrt = ctx.header.expectedNPrt from rfl,
    show (ctx.relabel rename).prtSummary = ctx.prtSummary from rfl]
  cases packet.payloadPtr with
  | none => dsimp only; split_ifs <;> rfl
  | some bytes => dsimp only; split_ifs <;> rfl

private theorem markChannelReady_relabel (ctx : CpiContext) (prt channel pktPerCh : Nat) :
    ProgressTracker.markChannelReady (ctx.relabel rename) prt channel pktPerCh =
      (ProgressTracker.markChannelReady ctx prt channel pktPerCh).relabel rename := by
  simp only [ProgressTracker.markChannelReady, apply_ite (relabel rename)]
  rfl

private theorem markPrtComplete_relabel (ctx : CpiContext) (prt chCount : Nat) :
    ProgressTracker.markPrtComplete (ctx.relabel rename) prt chCount =
      (ProgressTracker.markPrtComplete ctx prt chCount).relabel rename := by
  simp only [ProgressTracker.markPrtComplete, apply_ite (relabel rename)]
  rfl

private theorem observeTail_relabel (ctx : CpiContext) (prt : Nat) :
    ProgressTracker.observeTail (ctx.relabel rename) prt =
      (ProgressTracker.observeTail ctx prt).relabel rename := by
  simp only [ProgressTracker.observeTail, apply_ite (relabel rename)]
  rfl

private theorem markFullReady_relabel (ctx : CpiContext) :
    ProgressTracker.markFullReady (ctx.relabel rename) =
      (ProgressTracker.markFullReady ctx).relabel rename := by
  simp only [ProgressTracker.markFullReady, apply_ite (relabel rename)]
  rfl

theorem advance_relabel (spec : ProtocolSpec) (ctx : CpiContext) (prt channel : Nat)
    (sawTail : Bool) :
    ProgressTracker.advance spec (ctx.relabel rename) prt channel sawTail =
      (ProgressTracker.advance spec ctx prt channel sawTail).relabel rename := by
  simp only [ProgressTracker.advance, ProgressTracker.advancePrt]
  split_ifs <;> simp only [markChannelReady_relabel, markPrtComplete_relabel,
    observeTail_relabel, markFullReady_relabel]

theorem bindControlSnapshot_relabel (ctx : CpiContext) (control : ControlSnapshot) :
    bindControlSnapshot (ctx.relabel rename) control =
      (bindControlSnapshot ctx control).relabel rename := by
  simp only [bindControlSnapshot, apply_ite (relabel rename)]
  rfl

theorem mergeControlSnapshot_relabel (ctx : CpiContext) (candidate : ControlSnapshot) :
    mergeControlSnapshot (ctx.relabel rename) candidate =
      (mergeControlSnapshot ctx candidate).relabel rename := by
  have converges : canConvergeToControl candidate (ctx.relabel rename) =
      canConvergeToControl candidate ctx := rfl
  simp only [mergeControlSnapshot, converges, bindControlSnapshot_relabel,
    show (ctx.relabel rename).control = ctx.control from rfl]
  split_ifs <;> rfl

end CpiContext

end RxTech
