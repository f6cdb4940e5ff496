import RxTech.Core.FixedModeProperties
import RxTech.Core.SmallRings
import RxTech.Core.StreamProperties

/-!
# Streams through the owner loop

What a run of the owner loop puts out when its datagrams are whole CPIs: with fixed PRT
counts the outputs are those of the data packets alone, whatever control tables come in
between, wherever the bursts end and however far the consumer gets.
-/

set_option autoImplicit false

namespace RxTech

/-! ## What a datagram asks of the coordinator -/

/-- What `on_packet` does with a packet at the coordinator. -/
def ProcessedPacket.op? (processed : ProcessedPacket) : Option Op :=
  match processed.interpreted.kind with
  | .dataPacket => some (.data processed.parsed processed.interpreted)
  | .controlTable => some (.control processed.parsed)
  | .unknown => none

def UdpDatagramPipeline.op? (pipeline : UdpDatagramPipeline) (datagram : UdpDatagramDesc) :
    Option Op :=
  (pipeline.processDatagram datagram {}).2.2.bind ProcessedPacket.op?

namespace LoopResults

private theorem onPacket_windows (spec : ProtocolSpec) (results : LoopResults)
    (processed : ProcessedPacket) (canonical : results.windows.anonymous = results.windows) :
    (results.onPacket spec processed).1.windows =
      results.windows.determined spec processed.op?.toList := by
  rw [ProcessedPacket.op?, onPacket]
  cases processed.interpreted.kind with
  | dataPacket =>
      rw [Option.toList_some, Windows.determined, Machine.run_cons, Machine.run_nil, canonical]
      rfl
  | controlTable =>
      rw [Option.toList_some, Windows.determined, Machine.run_cons, Machine.run_nil, canonical]
      rfl
  | unknown => exact canonical.symm

private theorem onDatagrams_windows (pipeline : UdpDatagramPipeline)
    (datagrams : List UdpDatagramDesc)
    {results : LoopResults} (canonical : results.windows.anonymous = results.windows) :
    (onDatagrams pipeline datagrams results).1.windows =
      results.windows.determined pipeline.spec (datagrams.filterMap pipeline.op?) := by
  induction datagrams generalizing results with
  | nil => exact canonical.symm
  | cons datagram rest ih =>
      have one : (results.onDatagram pipeline datagram).1.windows =
          results.windows.determined pipeline.spec (pipeline.op? datagram).toList := by
        have handed : (results.onDatagram pipeline datagram).1 =
            ((pipeline.processDatagram datagram {}).2.2.elim (results, none)
              (results.onPacket pipeline.spec)).1 := rfl
        rw [handed, UdpDatagramPipeline.op?]
        cases (pipeline.processDatagram datagram {}).2.2 with
        | none => exact canonical.symm
        | some processed => exact onPacket_windows pipeline.spec results processed canonical
      have kept : (results.onDatagram pipeline datagram).1.windows.anonymous =
          (results.onDatagram pipeline datagram).1.windows := by
        rw [one]
        cases pipeline.op? datagram with
        | none => exact results.windows.anonymous_anonymous
        | some op => exact Windows.anonymous_anonymous _
      have split : (datagram :: rest).filterMap pipeline.op? =
          (pipeline.op? datagram).toList ++ rest.filterMap pipeline.op? := by
        rw [List.filterMap_cons]
        cases pipeline.op? datagram <;> rfl
      refine (ih kept).trans ?_
      rw [split, Windows.determined, kept, one, Windows.determined, Windows.determined,
        Machine.run_append]

end LoopResults

/-! ## What an output carries -/

/-- What an output says of its CPI, and the bytes in the slots of its context. -/
structure CpiContents where
  cpiId : UInt16
  decision : CpiDecision
  receivedSlotCount : Nat
  missingSlotCount : Nat
  slotByte : Nat → Nat → UInt8

def Production.contents (production : Production) : CpiContents where
  cpiId := production.output.cpiId
  decision := production.output.decision
  receivedSlotCount := production.output.receivedSlotCount
  missingSlotCount := production.output.missingSlotCount
  slotByte := production.ctx.slotByte

/-- The contents of the outputs, in the order in which they were made. -/
def outputContents (log : List WindowEvent) : List CpiContents :=
  (productions log).map Production.contents

private theorem outputContents_anonymous (log : List WindowEvent) :
    outputContents (log.map WindowEvent.anonymous) = outputContents log := by
  rw [outputContents, outputContents, productions, productions, List.map_filterMap,
    List.map_filterMap, List.filterMap_map]
  refine List.filterMap_congr fun event _ => ?_
  cases event <;> rfl

private theorem outputContents_untimed (log : List WindowEvent) :
    outputContents (log.filterMap WindowEvent.untimed) = outputContents log := by
  rw [outputContents, outputContents, productions, productions, List.map_filterMap,
    List.map_filterMap, List.filterMap_filterMap]
  refine List.filterMap_congr fun event _ => ?_
  cases event <;> rfl

/-! ## A run on a stream -/

/-- A coordinator without rings on which no acquire can fail. -/
def System.ringless : System := .withRings none [] []

theorem System.ringless_owned : System.ringless.Owned := System.withRings_owned none [] []

theorem System.ringless_run (spec : ProtocolSpec) (ops : List Op) :
    (Machine.run (System.step spec) ops ringless).runError = "" ∧
      (Machine.run (System.step spec) ops ringless).windows.anonymous =
        ({} : Windows).determined spec ops := by
  obtain ⟨advances, windows⟩ := run_determined spec ops ringless_owned (by decide)
  exact ⟨advances.error, windows⟩

/-- A stop between two CPIs makes no output. -/
theorem Windows.shutdown_idle {w : Windows} (active : w.active = none)
    (previous : w.previous = none)
    (choices : Choices) : w.shutdown choices = w := by
  simp only [shutdown, closePrevious, previous, active]

namespace OwnerLoop

variable {config : RxConfig} {start : UInt16} {blocks : List (List Op)}

/-- A run on whole CPIs in which no acquire fails puts out what the coordinator makes of the
data packets alone. -/
theorem run_streams (fixed : config.FixedMode)
    (stream : Stream (protocolSpecFromConfig config) start blocks)
    (allowedSourceIpv4Be receiverIpv4Be : Nat) (consumerSchedule clock : List Nat)
    {received : List Received}
    (sent : ((datagramsReceived received).filterMap
      (UdpDatagramPipeline.ofConfig config allowedSourceIpv4Be receiverIpv4Be).op?).filter
        (fun op => !op.isControl) = blocks.flatten)
    (unexhausted : (run config allowedSourceIpv4Be receiverIpv4Be consumerSchedule clock
      received).exhaustions = 0) : ∃ next,
    StreamResult (protocolSpecFromConfig config) start blocks System.ringless next ∧
      outputContents (run config allowedSourceIpv4Be receiverIpv4Be consumerSchedule clock
        received).system.windowLog = outputContents next.windowLog := by
  let spec := protocolSpecFromConfig config
  let pipeline := UdpDatagramPipeline.ofConfig config allowedSourceIpv4Be receiverIpv4Be
  let ops := (datagramsReceived received).filterMap pipeline.op?
  have mode : System.ringless.FixedMode spec :=
    ⟨System.ringless_owned, fun ctx holds => by
      rcases holds with impossible | impossible <;> cases impossible⟩
  have views := ((System.fixedMode_hides fixed.static).run ops mode rfl).1
  rw [sent] at views
  have result : StreamResult spec start blocks _ _ := System.run_stream fixed.protocol stream
    System.ringless_owned ⟨rfl, rfl, .fresh⟩ rfl rfl
    (.inr (System.ringless_run spec blocks.flatten).1)
  refine ⟨_, result, ?_⟩
  generalize Machine.run (System.step spec) blocks.flatten System.ringless = next at views result ⊢
  obtain ⟨-, windows⟩ := System.ringless_run spec ops
  generalize Machine.run (System.step spec) ops System.ringless = whole at views windows
  have active : whole.windows.active = none := by
    have same : whole.fixedView.activeCtxIndex = next.fixedView.activeCtxIndex :=
      congrArg System.activeCtxIndex views
    have idle : next.activeCtxIndex = none := Option.map_eq_none_iff.mp result.idle.active
    exact Option.map_eq_none_iff.mpr (same.trans idle)
  have previous : whole.windows.previous = none := by
    have same : whole.fixedView.previousCtxIndex = next.fixedView.previousCtxIndex :=
      congrArg System.previousCtxIndex views
    have idle : next.previousCtxIndex = none := Option.map_eq_none_iff.mp result.idle.previous
    exact Option.map_eq_none_iff.mpr (same.trans idle)
  have contents : outputContents whole.windowLog = outputContents next.windowLog := by
    have logs := congrArg (fun view : System => outputContents view.windowLog) views
    exact (outputContents_untimed whole.windowLog).symm.trans
      (logs.trans (outputContents_untimed next.windowLog))
  -- The windows that the datagrams determine are those of the run with the control packets.
  have folded := @LoopResults.onDatagrams_windows pipeline (datagramsReceived received)
    ⟨({} : Windows).anonymous, {}⟩ (Windows.anonymous_anonymous {})
  have reached : (LoopResults.onDatagrams pipeline (datagramsReceived received)
      ⟨({} : Windows).anonymous, {}⟩).1.windows = whole.windows.anonymous :=
    folded.trans windows.symm
  have left : outputContents (run config allowedSourceIpv4Be receiverIpv4Be consumerSchedule clock
      received).results.windows.log =
        outputContents (whole.windows.anonymous.shutdown .canonical).anonymous.log := by
    rw [(run_reaches unexhausted).1, ← reached]
  rw [Windows.shutdown_idle (Option.map_eq_none_iff.mpr active)
    (Option.map_eq_none_iff.mpr previous), Windows.anonymous_anonymous] at left
  exact (outputContents_anonymous _).symm.trans
    (left.trans ((outputContents_anonymous _).trans contents))

end OwnerLoop

end RxTech
