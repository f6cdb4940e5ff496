import RxTech.Core.OwnerLoopProperties
import RxTech.Core.WindowInvariant

/-!
# The timeout of a CPI

The coordinator closes every window whose stamp is old enough, but the packets
that reach it through the owner loop are never stamped.
-/

set_option autoImplicit false

namespace RxTech

/-! ## The coordinator's side -/

namespace Windows

variable {spec : ProtocolSpec}

private theorem checkPreviousTimeout_leaves (w : Windows) (nowNs : Nat) (closing : Closing) :
    (w.checkPreviousTimeout nowNs closing).active = w.active ∧
      ∀ ctx, (w.checkPreviousTimeout nowNs closing).previous = some ctx →
        System.timedOut ctx nowNs = false := by
  simp only [checkPreviousTimeout]
  cases previous : w.previous with
  | none => exact ⟨rfl, fun ctx held => by rw [previous] at held; cases held⟩
  | some late =>
      simp only
      split
      · obtain ⟨kept, vacant⟩ := closePrevious_eq (w := { w with
          previous := some (System.markTrigger late triggerTimeout) }) triggerTimeout closing
        exact ⟨kept, fun ctx held => by rw [vacant] at held; cases held⟩
      · rename_i fresh
        refine ⟨rfl, fun ctx held => ?_⟩
        cases previous.symm.trans held
        exact Bool.eq_false_iff.mpr fresh

private theorem checkActiveTimeout_leaves (w : Windows) (nowNs : Nat) (closing : Closing) :
    (w.checkActiveTimeout nowNs closing).previous = w.previous ∧
      ∀ ctx, (w.checkActiveTimeout nowNs closing).active = some ctx →
        System.timedOut ctx nowNs = false := by
  simp only [checkActiveTimeout]
  cases active : w.active with
  | none => exact ⟨rfl, fun ctx held => by rw [active] at held; cases held⟩
  | some stalled =>
      simp only
      split
      · obtain ⟨vacant, kept⟩ := closeActive_eq (w := { w with
          active := some (System.markTrigger stalled triggerTimeout) }) triggerTimeout closing
        exact ⟨kept, fun ctx held => by rw [vacant] at held; cases held⟩
      · rename_i fresh
        refine ⟨rfl, fun ctx held => ?_⟩
        cases active.symm.trans held
        exact Bool.eq_false_iff.mpr fresh

end Windows

theorem System.checkTimeout_leaves {s : System} (owned : s.Owned) (nowNs : Nat) {ctx : CpiContext}
    (held : (s.checkTimeout nowNs).1.windows.Holds ctx) : timedOut ctx nowNs = false := by
  obtain ⟨previousClosing, activeClosing, refines⟩ := checkTimeout_refines nowNs owned
  rw [refines.windows] at held
  obtain ⟨-, previous⟩ := s.windows.checkPreviousTimeout_leaves nowNs previousClosing
  obtain ⟨kept, active⟩ :=
    (s.windows.checkPreviousTimeout nowNs previousClosing).checkActiveTimeout_leaves nowNs
      activeClosing
  rcases held with isActive | isPrevious
  · exact active ctx isActive
  · exact previous ctx (kept.symm.trans isPrevious)

/-! ## Packets without a stamp -/

private theorem bindControlSnapshot_firstRxTsc (ctx : CpiContext) (control : ControlSnapshot) :
    (bindControlSnapshot ctx control).header.firstRxTsc = ctx.header.firstRxTsc := by
  unfold bindControlSnapshot
  split <;> rfl

private theorem mergeControlSnapshot_firstRxTsc (ctx : CpiContext) (candidate : ControlSnapshot) :
    (mergeControlSnapshot ctx candidate).header.firstRxTsc = ctx.header.firstRxTsc := by
  simp only [mergeControlSnapshot]
  split_ifs <;> first | rfl | exact bindControlSnapshot_firstRxTsc ctx candidate

theorem CpiContext.receive_unstamped {spec : ProtocolSpec} {ctx : CpiContext}
    {parsed : ParsedPacketView} {bytes : ByteView} (unstamped : parsed.rxTsc = 0) :
    (ctx.receive spec parsed bytes).header.firstRxTsc = ctx.header.firstRxTsc := by
  rw [receive_sameRecord.anchor]
  simp [storePacket, unstamped, copyPayload]

namespace Windows

variable {spec : ProtocolSpec}

/-- No open window carries the receive time of a packet. -/
def Unstamped (w : Windows) : Prop := ∀ ctx, w.Holds ctx → ctx.header.firstRxTsc = 0

private theorem openedCtx_unstamped (w : Windows) (cpiId : UInt16) (index : PoolIndex) :
    (w.openedCtx spec cpiId index).header.firstRxTsc = 0 :=
  bindControlSnapshot_firstRxTsc _ _

theorem Unstamped.setActive {before after : Windows} (unstamped : before.Unstamped)
    {ctx : CpiContext} (active : after.active = some ctx) (clear : ctx.header.firstRxTsc = 0)
    (previous : after.previous = before.previous) : after.Unstamped := by
  rintro held (isActive | isPrevious)
  · cases active.symm.trans isActive
    exact clear
  · exact unstamped held (.inr (previous.symm.trans isPrevious))

theorem Unstamped.setPrevious {before after : Windows} (unstamped : before.Unstamped)
    {ctx : CpiContext} (previous : after.previous = some ctx) (clear : ctx.header.firstRxTsc = 0)
    (active : after.active = before.active) : after.Unstamped := by
  rintro held (isActive | isPrevious)
  · exact unstamped held (.inl (active.symm.trans isActive))
  · cases previous.symm.trans isPrevious
    exact clear

theorem Unstamped.fewer {before after : Windows} (unstamped : before.Unstamped)
    (fewer : ∀ ctx, after.Holds ctx → before.Holds ctx) : after.Unstamped :=
  fun ctx held => unstamped ctx (fewer ctx held)

theorem Move.unstamped {op : Op} {start before after : Windows}
    (move : Move spec op start before after)
    (packets : ∀ parsed packet, op = .data parsed packet → parsed.rxTsc = 0)
    (unstamped : before.Unstamped) : after.Unstamped := by
  cases move with
  | judged | staged => exact unstamped
  | reboundActive ctx parsed control valid active =>
      refine unstamped.setActive rfl ?_ rfl
      rw [mergeControlSnapshot_firstRxTsc]
      exact unstamped ctx (.inl active)
  | reboundPrevious ctx parsed control valid notActive previous =>
      refine unstamped.setPrevious rfl ?_ rfl
      rw [mergeControlSnapshot_firstRxTsc]
      exact unstamped ctx (.inr previous)
  | discardedPrevious ctx marks previous =>
      apply unstamped.fewer
      rintro held (isActive | ⟨⟨⟩⟩)
      exact .inl isActive
  | discardedActive ctx marks active =>
      apply unstamped.fewer
      rintro held (⟨⟨⟩⟩ | isPrevious)
      exact .inr isPrevious
  | committedPrevious active previous parsed packet closing =>
      obtain ⟨kept, vacant⟩ := closePrevious_eq (w := start) triggerCpiSwitch closing
      apply unstamped.fewer
      rintro held (isActive | isPrevious)
      · exact .inl (kept.symm.trans isActive)
      · cases vacant.symm.trans isPrevious
  | shifted ctx active vacant =>
      apply unstamped.fewer
      rintro held (⟨⟨⟩⟩ | isPrevious)
      exact .inl isPrevious
  | opened index parsed packet data inactive opens =>
      exact unstamped.setActive rfl (before.openedCtx_unstamped parsed.cpi index) rfl
  | repeatedActive ctx active =>
      exact unstamped.setActive rfl (unstamped ctx (.inl active)) rfl
  | repeatedPrevious ctx previous =>
      exact unstamped.setPrevious rfl (unstamped ctx (.inr previous)) rfl
  | storedActive ctx parsed packet bytes data active =>
      refine unstamped.setActive rfl ?_ rfl
      rw [CpiContext.receive_unstamped (packets parsed packet data)]
      exact unstamped ctx (.inl active)
  | filledActive ctx parsed packet bytes closing data active =>
      obtain ⟨vacant, kept⟩ := closeActive_eq (w := { before with
        active := some (ctx.receive spec parsed bytes)
        log := before.log ++ [.stored parsed (ctx.receive spec parsed bytes)] })
        ((ctx.receive spec parsed bytes).header.triggerBits &&& System.finalizeMask) closing
      apply unstamped.fewer
      rintro held (isActive | isPrevious)
      · cases vacant.symm.trans isActive
      · exact .inr (kept.symm.trans isPrevious)
  | storedPrevious active previous parsed packet bytes data isActive isPrevious =>
      refine unstamped.setPrevious rfl ?_ rfl
      rw [CpiContext.receive_unstamped (packets parsed packet data)]
      exact unstamped previous (.inr isPrevious)

end Windows

theorem unstamped_kept (spec : ProtocolSpec) :
    Kept spec fun s => s.Owned ∧ s.windows.Unstamped where
  step s op delivered holds := by
    obtain ⟨owned, unstamped⟩ := holds
    obtain ⟨choices, _, refines, _⟩ := System.step_refines spec op owned
    refine ⟨refines.owned, ?_⟩
    rw [refines.windows]
    refine Windows.step_preserves delivered.valid (fun before after move => move.unstamped ?_)
      choices unstamped
    rintro parsed packet rfl
    cases delivered with
    | data frame => exact PacketParser.parse_rxTsc spec frame
  status s metrics runStatus runError backpressure holds :=
    ⟨holds.1.congr rfl rfl rfl rfl rfl rfl backpressure, holds.2⟩

theorem System.timedOut_unstamped {ctx : CpiContext} (unstamped : ctx.header.firstRxTsc = 0)
    (nowNs : Nat) : timedOut ctx nowNs = false := by
  simp [timedOut, unstamped]

/-- A check at which no window is due leaves everything as it is. -/
theorem System.checkTimeout_quiet {s : System} {nowNs : Nat}
    (early : ∀ ctx, s.windows.Holds ctx → timedOut ctx nowNs = false) :
    s.checkTimeout nowNs = (s, false) := by
  have quiet (index : PoolIndex) (holds : s.activeCtxIndex = some index ∨
      s.previousCtxIndex = some index) : timedOut (s.ctxPool.contexts index) nowNs = false := by
    apply early _
    rcases holds with active | previous
    · exact .inl (congrArg (Option.map s.ctxPool.contexts) active)
    · exact .inr (congrArg (Option.map s.ctxPool.contexts) previous)
  have previous : s.checkPreviousTimeout nowNs = (s, false) := by
    simp only [checkPreviousTimeout]
    cases holds : s.previousCtxIndex with
    | none => rfl
    | some index => simp [quiet index (.inr holds)]
  simp only [checkTimeout, previous]
  cases holds : s.activeCtxIndex with
  | none => rfl
  | some index => simp [quiet index (.inl holds)]

theorem System.checkTimeout_unstamped {s : System} (unstamped : s.windows.Unstamped)
    (nowNs : Nat) : s.checkTimeout nowNs = (s, false) :=
  checkTimeout_quiet fun ctx holds => timedOut_unstamped (unstamped ctx holds) nowNs

/-! ## The owner loop's side -/

def Windows.openWindows (w : Windows) : List CpiContext := w.active.toList ++ w.previous.toList

namespace OwnerLoop

/-- The `ts_ns` of the first data datagram that a context accepted. -/
def firstArrival (loop : OwnerLoop) (ctx : CpiContext) : Option Nat :=
  (loop.arrivals.find? fun arrival => arrival.1 == ctx.birth).map Prod.snd

/-- The open windows whose first data datagram arrived a timeout ago. -/
def overdue (loop : OwnerLoop) (timeoutNs nowNs : Nat) : List CpiContext :=
  loop.system.windows.openWindows.filter fun ctx => (loop.firstArrival ctx).any fun tsNs =>
    decide (nowNs > tsNs ∧ nowNs - tsNs ≥ timeoutNs)

end OwnerLoop

/-- A timeout check of the owner loop does nothing at all, so it leaves no window
overdue exactly when none was overdue before it. -/
theorem timeout_check_leaves_none_overdue_iff (config : RxConfig)
    (allowedSourceIpv4Be receiverIpv4Be : Nat) (consumerSchedule clock : List Nat)
    (earlier : List Received) (datagrams : List UdpDatagramDesc) (nowNs : Nat) :
    let before := (OwnerLoop.start config consumerSchedule clock).atCheck
      (.ofConfig config allowedSourceIpv4Be receiverIpv4Be) earlier datagrams
    before.checkTimeout nowNs = before ∧
      ((before.checkTimeout nowNs).overdue config.protocolCpiTimeoutNs nowNs = [] ↔
        before.overdue config.protocolCpiTimeoutNs nowNs = []) := by
  intro before
  have start : (OwnerLoop.start config consumerSchedule clock).system.Owned ∧
      (OwnerLoop.start config consumerSchedule clock).system.windows.Unstamped := by
    refine ⟨System.ofConfig_owned config consumerSchedule clock, ?_⟩
    rintro ctx (⟨⟨⟩⟩ | ⟨⟨⟩⟩)
  have kept := unstamped_kept
    (UdpDatagramPipeline.ofConfig config allowedSourceIpv4Be receiverIpv4Be).spec
  have unstamped : before.system.windows.Unstamped :=
    (OwnerLoop.atCheck_kept kept earlier datagrams start).2
  have nothing : before.checkTimeout nowNs = before := by
    simp only [OwnerLoop.checkTimeout, System.checkTimeout_unstamped unstamped]
  exact ⟨nothing, by rw [nothing]⟩

/-- The first of two packets of PRT 1 and channel 0. -/
def UdpDatagramDesc.firstOfPair (tsNs : Nat) : UdpDatagramDesc where
  payloadData := some fun offset =>
    [0x03, 0xff, 0xaa, 0x55, 1, 0, 0, 0, 1, 0, 1, 0, 0, 0, 0, 0].getD offset 0
  payloadLen := 2048
  tsNs := tsNs

/-- A CPI that got one of its two packets is open and overdue after the check. -/
theorem stalled_window_stays_overdue :
    let config := { pairConfig with protocolCpiTimeoutNs := 1000 }
    let before := (OwnerLoop.start config [] []).atCheck (.ofConfig config 0 0) [] [.firstOfPair 5]
    before.system.runError = "" ∧
      ((before.checkTimeout 1000000).overdue 1000 1000000).map (·.header.cpiId) = [1] := by
  decide +kernel

end RxTech
