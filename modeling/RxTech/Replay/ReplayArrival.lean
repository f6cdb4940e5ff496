import RxTech.Core.SmallRings
import RxTech.Ingress.FrameArrival
import RxTech.Protocol.WireGrammar
import RxTech.Replay.ReplaySender

/-!
# Replays over the wire

What the replay sender sends and the DPDK backend receives leaves a run of the owner loop
with the results of any other run on the same payloads.
-/

set_option autoImplicit false

namespace RxTech

/-- A well-formed datagram with the payload and the configured addresses. -/
def FrameConfig.Addresses (cfg : FrameConfig) (datagram : UdpDatagramDesc)
    (payload : List UInt8) : Prop :=
  isMalformedDescriptor datagram = false ∧ datagram.udpFrame = cfg.udpFrame payload

namespace LoopResults

variable {pipeline : UdpDatagramPipeline} {cfg : FrameConfig}

/-- Only the frame of a well-formed datagram enters into the results. -/
theorem onDatagram_congr {first second : UdpDatagramDesc}
    (formed : isMalformedDescriptor first = false) (formed' : isMalformedDescriptor second = false)
    (frame : first.udpFrame = second.udpFrame) (results : LoopResults) :
    results.onDatagram pipeline first = results.onDatagram pipeline second := by
  simp only [onDatagram, UdpDatagramPipeline.processDatagram, formed, formed', frame]
  split_ifs <;> rfl

private theorem onDatagrams_addressed {payloads : List (List UInt8)}
    {datagrams others : List UdpDatagramDesc}
    (first : List.Forall₂ cfg.Addresses datagrams payloads)
    (second : List.Forall₂ cfg.Addresses others payloads) (results : LoopResults) :
    onDatagrams pipeline datagrams results = onDatagrams pipeline others results := by
  induction first generalizing others results with
  | nil =>
      cases second
      rfl
  | cons head _ ih =>
      cases second with
      | cons other rest =>
          have same := @onDatagram_congr pipeline _ _ head.1 other.1 (head.2.trans other.2.symm)
            results
          simp only [onDatagrams, same, ih rest]

end LoopResults

/-- A frame that is built for the payload, with some sequence number. -/
def FrameConfig.Builds (cfg : FrameConfig) (payload frame : List UInt8) : Prop :=
  payload.length ≤ 65507 ∧ ∃ seq, frame = buildEthFrame payload cfg seq

theorem FrameConfig.Builds.length {cfg : FrameConfig} {payload frame : List UInt8}
    (builds : cfg.Builds payload frame) : frame.length = 42 + payload.length := by
  obtain ⟨-, seq, rfl⟩ := builds
  rw [buildEthFrame_frame]
  exact UdpFrameHeader.frame_length ..

theorem FrameConfig.builds_fit {cfg : FrameConfig} {payloads frames : List (List UInt8)}
    (built : List.Forall₂ cfg.Builds payloads frames) : ∀ frame ∈ frames, frame.length < 2 ^ 32 := by
  induction built with
  | nil => exact List.forall_mem_nil _
  | cons builds _ ih =>
      refine List.forall_mem_cons.mpr ⟨?_, ih⟩
      rw [builds.length]
      exact Nat.lt_of_le_of_lt (Nat.add_le_add_left builds.1 42) (by decide)

/-- The datagrams of built frames. -/
theorem FrameConfig.builds_arrive {cfg : FrameConfig} {payloads frames : List (List UInt8)}
    {mbufs : List RxMbuf} (built : List.Forall₂ cfg.Builds payloads frames)
    (carried : List.Forall₂ RxMbuf.Carries mbufs frames) (localIpBe : Nat) :
    List.Forall₂ cfg.Addresses (mbufs.filterMap (·.extractUdpDatagram localIpBe)) payloads := by
  induction built generalizing mbufs with
  | nil =>
      cases carried
      exact .nil
  | cons builds _ ih =>
      cases carried with
      | @cons mbuf _ others _ carries rest =>
          obtain ⟨short, seq, rfl⟩ := builds
          have clear : (0x4000 : UInt16).toNat &&& 0x3FFF = 0 := by decide
          rw [buildEthFrame_frame] at carries
          obtain ⟨datagram, extracted, formed, frame⟩ :=
            carries.extracts (header_sized short) clear localIpBe
          rw [header_read short] at frame
          have first : (mbuf :: others).filterMap (·.extractUdpDatagram localIpBe) =
              datagram :: others.filterMap (·.extractUdpDatagram localIpBe) :=
            List.filterMap_cons_some extracted
          rw [first]
          exact .cons ⟨formed, frame⟩ (ih rest)

open FileReplayBackend (buildFrames)

/-- The frames of entries that can all be read. -/
theorem buildFrames_builds (cfg : FrameConfig) {payloads : List (List UInt8)}
    (short : ∀ payload ∈ payloads, payload.length ≤ 65507) (seq : UInt16) :
    List.Forall₂ cfg.Builds payloads (buildFrames cfg (payloads.map .ok) seq).1 := by
  induction payloads generalizing seq with
  | nil => exact .nil
  | cons payload rest ih =>
      obtain ⟨fits, others⟩ := List.forall_mem_cons.mp short
      exact .cons ⟨fits, seq, rfl⟩ (ih others (seq + 1))

private theorem replicate_builds {cfg : FrameConfig} {payloads frames : List (List UInt8)}
    (built : List.Forall₂ cfg.Builds payloads frames) (loops : Nat) :
    List.Forall₂ cfg.Builds (List.replicate loops payloads).flatten
      (List.replicate loops frames).flatten := by
  induction loops with
  | zero => exact .nil
  | succ loops ih =>
      rw [List.replicate_succ, List.replicate_succ, List.flatten_cons, List.flatten_cons]
      exact List.rel_append built ih

/-- A replay reproduces a run. If the frames of a finished replay arrive, in whatever bursts,
at the DPDK backend, and another run of the owner loop, on any backend, has got the same
payloads from the same addresses, then both capture the same packets and make the same
windows, provided that no acquire fails in either. -/
theorem replay_reproduces (config : RxConfig) (allowedSourceIpv4Be receiverIpv4Be : Nat)
    (consumerSchedule clock otherSchedule otherClock : List Nat) (cfg : FrameConfig)
    (payloads : List (List UInt8)) (short : ∀ payload ∈ payloads, payload.length ≤ 65507)
    (loopCount pps : UInt32) (accepts : Nat → Bool) (startNs : Nat) (answers : List Nat)
    (localIpBe : Nat) (localMac : Vector UInt8 6) (maxBurst : Nat)
    (polls : List (RxPoll (List RxMbuf))) (others : List Received)
    (same : List.Forall₂ cfg.Addresses (datagramsReceived others)
      (List.replicate loopCount.toNat payloads).flatten) :
    let replay := ReplaySender.main cfg loopCount pps (.ok (payloads.map .ok)) accepts startNs
      answers
    let ingress : DpdkIngress := { localIpBe, localMac }
    let loop := (OwnerLoop.mainLoopOn (DpdkIngress.calls maxBurst)
      (.ofConfig config allowedSourceIpv4Be receiverIpv4Be) polls ingress
      (OwnerLoop.start config consumerSchedule clock)).2.shutdown
    let other := OwnerLoop.run config allowedSourceIpv4Be receiverIpv4Be otherSchedule otherClock
      others
    replay.2 = .finished →
      List.Forall₂ RxMbuf.Carries (ingress.bursts maxBurst polls).flatten
        (replay.1.sent.map Prod.fst) →
      loop.exhaustions = 0 → other.exhaustions = 0 →
      loop.artifacts = other.artifacts ∧
        loop.system.windows.anonymous = other.system.windows.anonymous := by
  intro replay ingress loop other finished carried unexhausted otherUnexhausted
  have sent : replay.1.sent.map Prod.fst =
      (List.replicate loopCount.toNat (buildFrames cfg (payloads.map .ok) 0).1).flatten :=
    ReplaySender.main_sends finished
  have built := replicate_builds (buildFrames_builds cfg short 0) loopCount.toNat
  rw [sent] at carried
  have started : ingress.started = true := rfl
  have arrived : List.Forall₂ cfg.Addresses
      (datagramsReceived (polls.map (ingress.received maxBurst)))
      (List.replicate loopCount.toNat payloads).flatten := by
    rw [DpdkIngress.datagramsReceived_polls started]
    exact FrameConfig.builds_arrive built carried localIpBe
  have run : loop = OwnerLoop.run config allowedSourceIpv4Be receiverIpv4Be consumerSchedule clock
      (polls.map (ingress.received maxBurst)) := OwnerLoop.mainLoopOn_run ..
  rw [run] at unexhausted ⊢
  obtain ⟨results, -⟩ := OwnerLoop.run_reaches unexhausted
  obtain ⟨otherResults, -⟩ := OwnerLoop.run_reaches otherUnexhausted
  rw [LoopResults.onDatagrams_addressed arrived same] at results
  have agree := results.trans otherResults.symm
  exact ⟨congrArg LoopResults.artifacts agree, congrArg LoopResults.windows agree⟩

/-- A receiver for short control tables that can lend few contexts. -/
def shortTablesConfig : RxConfig := { smallConfig with outputRingCapacity := 14 }

/-- A control table for CPI 1 and the first data packet of the CPI. -/
def replayedPayloads : List (List UInt8) :=
  let spec := protocolSpecFromConfig shortTablesConfig
  [controlPayload spec 1 (List.replicate 11 0), dataPayload spec 1 0 1 1 0 [42]]

def lanFrameConfig : FrameConfig := { srcMac := .replicate 6 3, dstMac := .replicate 6 2 }

/-- A replay that sends both payloads twice. -/
def replayedTwice : ReplaySender × ReplayExit :=
  ReplaySender.main lanFrameConfig 2 0 (.ok (replayedPayloads.map .ok)) (fun _ => true) 0 []

/-- The frames of the replay come one by one, and the other payloads in one burst. Neither
run captures the data packet again. -/
theorem replay_reproduces_twice :
    let loop := (OwnerLoop.mainLoopOn (DpdkIngress.calls 32) (.ofConfig shortTablesConfig 0 0)
      ((replayedTwice.1.sent.map Prod.fst).map RxPoll.ofFrame)
      { localIpBe := 0, localMac := .replicate 6 2 } (.start shortTablesConfig [] [])).2.shutdown
    let datagrams := (replayedPayloads ++ replayedPayloads).map fun payload =>
      (lanFrameConfig.udpFrame payload).datagram {}
    let other := OwnerLoop.run shortTablesConfig 0 0 [] [] [.burst datagrams 0]
    other.artifacts.indexStream.map (fun row => (row.packetKind, row.cpi)) =
        [(.controlTable, 1), (.dataPacket, 1), (.controlTable, 1)] ∧
      loop.artifacts = other.artifacts ∧
      loop.system.windows.anonymous = other.system.windows.anonymous := by
  have short : ∀ payload ∈ replayedPayloads, payload.length ≤ 65507 := by
    decide
  have finished : replayedTwice.2 = .finished := rfl
  have fits : ∀ frame ∈ replayedTwice.1.sent.map Prod.fst, frame.length < 2 ^ 32 := by
    rw [replayedTwice, ReplaySender.main_sends finished]
    exact FrameConfig.builds_fit (replicate_builds (buildFrames_builds lanFrameConfig short 0) _)
  have addressed : ∀ payload ∈ replayedPayloads ++ replayedPayloads,
      lanFrameConfig.Addresses ((lanFrameConfig.udpFrame payload).datagram {}) payload := by
    intro payload member
    have length := short payload ((List.mem_append.mp member).elim id id)
    refine ⟨UdpPayloadFrame.datagram_formed .., UdpPayloadFrame.datagram_udpFrame ?_ {}⟩
    exact length.trans_lt (by decide)
  refine ⟨by decide +kernel, replay_reproduces shortTablesConfig 0 0 [] [] [] [] lanFrameConfig
    replayedPayloads short 2 0 _ 0 [] 0 (.replicate 6 2) 32 _ _ ?_ finished
    (DpdkIngress.bursts_ofFrames rfl (by decide) fits) ?_ ?_⟩
  · exact List.forall₂_map_left_iff.mpr (List.forall₂_same.mpr addressed)
  · rw [OwnerLoop.mainLoopOn_run]
    exact OwnerLoop.run_unexhausted (Nat.le_refl 14) ..
  · exact OwnerLoop.run_unexhausted (Nat.le_refl 14) ..

end RxTech
