import RxTech.Core.OwnerLoopProperties
import RxTech.Core.Tally
import RxTech.Core.TimeoutProperties

/-!
# Conservation of packets

Every datagram that passes the filter ends up captured or dropped, exactly once, and
the counter of received packets counts exactly these datagrams.
-/

set_option autoImplicit false

namespace RxTech

/-- The datagrams of a burst. -/
def Received.datagrams : Received → List UdpDatagramDesc
  | .failed => []
  | .burst datagrams _ => datagrams

/-- The datagram is well formed and the filter lets it through. -/
def UdpDatagramPipeline.admits (pipeline : UdpDatagramPipeline) (datagram : UdpDatagramDesc) :
    Bool :=
  !isMalformedDescriptor datagram && pipeline.matchesPacketFilter datagram.udpFrame

theorem UdpDatagramPipeline.processDatagram_accepted (pipeline : UdpDatagramPipeline)
    (datagram : UdpDatagramDesc) (metrics : MetricsCollector) :
    (pipeline.processDatagram datagram metrics).1.acceptedPackets =
      if pipeline.admits datagram then 1 else 0 := by
  simp only [processDatagram, admits]
  by_cases malformed : isMalformedDescriptor datagram = true
  · simp only [malformed, if_true, Bool.not_true, Bool.false_and, Bool.false_eq_true, if_false]
  by_cases matching : pipeline.matchesPacketFilter datagram.udpFrame = true
  · simp only [malformed, matching, if_false, if_true, Bool.not_false, Bool.true_and,
      Bool.true_eq_false, Bool.false_eq_true]
    split
    · rfl
    split <;> rfl
  · simp only [malformed, matching, if_true, if_false, Bool.not_false, Bool.true_and,
      Bool.false_eq_true]

@[simp] theorem MetricsCollector.onValidPacket_tally (metrics : MetricsCollector)
    (kind : PacketKind) : (metrics.onValidPacket kind).tally = metrics.tally := by
  cases kind <;> rfl

namespace System

@[simp] theorem degradeRunStatus_tally (s : System) : s.degradeRunStatus.tally = s.tally := by
  simp only [degradeRunStatus, applyOutputDegradation]
  split_ifs <;> rfl

@[simp] theorem degradeRunStatus_runError (s : System) :
    s.degradeRunStatus.runError = s.runError := by
  simp only [degradeRunStatus, applyOutputDegradation]
  split_ifs <;> rfl

end System

namespace OwnerLoop

/-- The datagrams that were received, and those that were captured or dropped. -/
def account (loop : OwnerLoop) : Nat × Nat :=
  (loop.system.metrics.rxPackets,
    loop.artifacts.capturedPackets + loop.system.metrics.droppedPackets)

/-- A step that settles `count` datagrams, unless it ends in an error. -/
def Settles (loop next : OwnerLoop) (count : Nat) : Prop :=
  next.system.runError = "" → next.account = (loop.account.1, loop.account.2 + count)

private theorem account_of_tally {loop next : OwnerLoop} {drops : Nat}
    (artifacts : next.artifacts = loop.artifacts)
    (tally : next.system.tally = (loop.system.tally.1, loop.system.tally.2 + drops)) :
    next.account = (loop.account.1, loop.account.2 + drops) := by
  have rxPackets : next.system.metrics.rxPackets = loop.system.metrics.rxPackets :=
    congrArg Prod.fst tally
  have dropped : next.system.metrics.droppedPackets = loop.system.metrics.droppedPackets + drops :=
    congrArg Prod.snd tally
  rw [account, account, rxPackets, dropped, artifacts, Nat.add_assoc]

private theorem account_of_kept {loop next : OwnerLoop}
    (artifacts : next.artifacts = loop.artifacts)
    (tally : next.system.tally = loop.system.tally) : next.account = loop.account :=
  @account_of_tally loop next 0 artifacts tally

private theorem capture_account (loop : OwnerLoop) (processed : ProcessedPacket) :
    (loop.capture processed).account = (loop.account.1, loop.account.2 + 1) := by
  simp only [account, capture, CaptureArtifacts.capture]
  congr 1
  omega

private theorem onDataPacket_account (spec : ProtocolSpec) (loop : OwnerLoop)
    (processed : ProcessedPacket)
    (noError : (loop.onDataPacket spec processed).1.system.runError = "") :
    (loop.onDataPacket spec processed).1.account =
      (loop.account.1,
        loop.account.2 + if (loop.onDataPacket spec processed).2 then 0 else 1) := by
  have tallied := System.processDataPacket_tallied spec loop.system processed.parsed
    processed.interpreted
  exact account_of_tally rfl (tallied noError)

private theorem onPacket_settles (spec : ProtocolSpec) (loop : OwnerLoop)
    (processed : ProcessedPacket) :
    Settles loop (loop.onPacket spec processed) 1 := by
  intro noError
  revert noError
  simp only [onPacket]
  cases processed.interpreted.kind with
  | unknown => exact fun _ => capture_account loop processed
  | controlTable =>
      intro _
      have kept : { loop with
          system := loop.system.processControlPacket spec processed.parsed }.account =
          loop.account :=
        account_of_kept rfl (System.processControlPacket_tally spec loop.system processed.parsed)
      rw [capture_account, kept]
  | dataPacket =>
      have counted := onDataPacket_account spec loop processed
      simp only
      split
      · rename_i accepted
        intro noError
        rw [capture_account, counted noError, if_pos accepted, Nat.add_zero]
      · rename_i rejected
        intro noError
        rw [counted noError, if_neg rejected]

/-- A datagram is settled once if the filter lets it through, and else not at all. -/
theorem onDatagram_settles (pipeline : UdpDatagramPipeline) (loop : OwnerLoop)
    (datagram : UdpDatagramDesc) :
    Settles loop (loop.onDatagram pipeline datagram).1
      (loop.onDatagram pipeline datagram).2.acceptedPackets := by
  have drained := System.drainRecycle_tally loop.system
  have outcome := pipeline.processDatagram_outcome datagram loop.system.drainRecycle.metrics
  intro noError
  simp only [onDatagram] at noError ⊢
  generalize pipeline.processDatagram datagram loop.system.drainRecycle.metrics = result
    at outcome noError ⊢
  cases outcome with
  | malformed | filtered =>
      exact account_of_kept rfl ((System.degradeRunStatus_tally _).trans drained)
  | rejected stats reason counted =>
      simp only [Option.elim_none] at noError ⊢
      rw [counted]
      refine account_of_tally rfl ((System.degradeRunStatus_tally _).trans ?_)
      have rxPackets := congrArg Prod.fst drained
      have dropped := congrArg Prod.snd drained
      exact Prod.ext rxPackets (congrArg (· + 1) dropped)
  | handed stats processed counted =>
      simp only [Option.elim_some] at noError ⊢
      rw [System.degradeRunStatus_runError] at noError
      have settled := onPacket_settles pipeline.spec _ processed noError
      have valid : { loop with system := { loop.system.drainRecycle with
          metrics := loop.system.drainRecycle.metrics.onValidPacket
            processed.interpreted.kind } }.account = loop.account :=
        account_of_kept rfl ((MetricsCollector.onValidPacket_tally _ _).trans drained)
      rw [valid] at settled
      rw [counted, ← settled]
      exact account_of_kept rfl (System.degradeRunStatus_tally _)

private theorem onDatagram_stats (pipeline : UdpDatagramPipeline) (loop : OwnerLoop)
    (datagram : UdpDatagramDesc) :
    (loop.onDatagram pipeline datagram).2.acceptedPackets =
      if pipeline.admits datagram then 1 else 0 := by
  rw [← pipeline.processDatagram_accepted datagram loop.system.drainRecycle.metrics]
  rfl

private theorem datagramLoop_settles (pipeline : UdpDatagramPipeline)
    (datagrams : List UdpDatagramDesc)
    (loop : OwnerLoop) (total : PacketProcessStats)
    (noError : (datagramLoop pipeline datagrams loop total).1.system.runError = "") :
    (datagramLoop pipeline datagrams loop total).1.account =
        (loop.account.1, loop.account.2 + datagrams.countP pipeline.admits) ∧
      (datagramLoop pipeline datagrams loop total).2.acceptedPackets =
        total.acceptedPackets + datagrams.countP pipeline.admits := by
  induction datagrams generalizing loop total with
  | nil => exact ⟨rfl, rfl⟩
  | cons datagram rest ih =>
      have settles := onDatagram_settles pipeline loop datagram
      have stats := onDatagram_stats pipeline loop datagram
      revert noError
      simp only [datagramLoop, List.countP_cons]
      split
      · rename_i failed
        exact fun noError => absurd noError failed
      · rename_i passed
        intro noError
        have settled := settles (Classical.not_not.mp passed)
        obtain ⟨account, accepted⟩ := ih _ _ noError
        rw [account, accepted]
        have kept : { (loop.onDatagram pipeline datagram).1 with
            filteredPackets := (loop.onDatagram pipeline datagram).1.filteredPackets +
              (loop.onDatagram pipeline datagram).2.filteredPackets }.account =
            (loop.onDatagram pipeline datagram).1.account := rfl
        rw [kept, settled, stats]
        refine ⟨Prod.ext rfl ?_, ?_⟩
        · simp only
          omega
        · simp only
          omega

/-- The counters agree, and both count the datagrams `admitted` so far. -/
def Balanced (loop : OwnerLoop) (admitted : Nat) : Prop := loop.account = (admitted, admitted)

private theorem processBurst_balanced (pipeline : UdpDatagramPipeline)
    (datagrams : List UdpDatagramDesc)
    {loop : OwnerLoop} {admitted : Nat} (balanced : loop.Balanced admitted)
    (noError : (loop.processBurst pipeline datagrams).system.runError = "") :
    (loop.processBurst pipeline datagrams).Balanced
      (admitted + datagrams.countP pipeline.admits) := by
  have settles := datagramLoop_settles pipeline datagrams loop {}
  rw [balanced] at settles
  revert noError
  simp only [processBurst, Balanced]
  generalize datagramLoop pipeline datagrams loop {} = result at settles
  obtain ⟨next, total⟩ := result
  simp only at settles ⊢
  intro noError
  have passed : next.system.runError = "" := by
    revert noError
    split <;> exact id
  obtain ⟨account, accepted⟩ := settles passed
  rw [Nat.zero_add] at accepted
  split
  · rename_i nothing
    have none : datagrams.countP pipeline.admits = 0 :=
      accepted.symm.trans (nothing.resolve_left (not_not.mpr passed))
    rw [account, none, Nat.add_zero]
  · have rxPackets : next.system.metrics.rxPackets = admitted := congrArg Prod.fst account
    have settled : next.artifacts.capturedPackets + next.system.metrics.droppedPackets =
        admitted + datagrams.countP pipeline.admits := congrArg Prod.snd account
    refine Prod.ext ?_ settled
    simp only [OwnerLoop.account, MetricsCollector.onBurst]
    rw [rxPackets, accepted]

private theorem checkTimeout_balanced {loop : OwnerLoop} {admitted : Nat}
    (balanced : loop.Balanced admitted) (nowNs : Nat) :
    (loop.checkTimeout nowNs).drainRecycle.Balanced admitted := by
  have tally : (loop.checkTimeout nowNs).drainRecycle.system.tally = loop.system.tally :=
    (System.drainRecycle_tally _).trans (System.checkTimeout_tally _ nowNs)
  have kept : (loop.checkTimeout nowNs).drainRecycle.account = loop.account :=
    account_of_kept rfl tally
  exact kept.trans balanced

private theorem mainLoop_balanced (pipeline : UdpDatagramPipeline) (received : List Received)
    {loop : OwnerLoop} {admitted : Nat} (balanced : loop.Balanced admitted)
    (noError : (mainLoop pipeline received loop).system.runError = "") :
    (mainLoop pipeline received loop).Balanced
      (admitted + (received.flatMap Received.datagrams).countP pipeline.admits) := by
  induction received generalizing loop admitted with
  | nil => exact balanced
  | cons first rest ih =>
      cases first with
      | failed => simp [mainLoop, failReceive] at noError
      | burst datagrams nowNs =>
          revert noError
          simp only [mainLoop, List.flatMap_cons, List.countP_append, Received.datagrams]
          split
          · rename_i failed
            exact fun noError => absurd noError failed
          · rename_i passed
            intro noError
            have processed := processBurst_balanced pipeline datagrams balanced
              (Classical.not_not.mp passed)
            have after := ih (checkTimeout_balanced processed nowNs) noError
            rwa [Nat.add_assoc] at after

end OwnerLoop

/-- At the end of every iteration without a run error, the packets received are the
datagrams the filter let through, and each of them was captured or dropped. -/
theorem packet_accounting_conserved (config : RxConfig)
    (allowedSourceIpv4Be receiverIpv4Be : Nat) (consumerSchedule clock : List Nat)
    (received : List Received) :
    let pipeline := UdpDatagramPipeline.ofConfig config allowedSourceIpv4Be receiverIpv4Be
    let loop := OwnerLoop.mainLoop pipeline received
      (OwnerLoop.start config consumerSchedule clock)
    loop.system.runError = "" →
    loop.system.metrics.rxPackets =
        loop.artifacts.capturedPackets + loop.system.metrics.droppedPackets ∧
      loop.system.metrics.rxPackets =
        (received.flatMap Received.datagrams).countP pipeline.admits := by
  intro pipeline loop noError
  have start : (OwnerLoop.start config consumerSchedule clock).Balanced 0 := rfl
  have balanced := OwnerLoop.mainLoop_balanced pipeline received start noError
  rw [Nat.zero_add] at balanced
  have rxPackets : loop.system.metrics.rxPackets = _ := congrArg Prod.fst balanced
  have settled : loop.artifacts.capturedPackets + loop.system.metrics.droppedPackets = _ :=
    congrArg Prod.snd balanced
  exact ⟨rxPackets.trans settled.symm, rxPackets⟩

/-- A datagram of zeros, which is rejected. -/
def UdpDatagramDesc.zeros : UdpDatagramDesc where
  payloadData := some fun _ => 0
  payloadLen := 2048

/-- Two packets, one of them twice, a rejected datagram and a malformed one. -/
theorem packet_accounting_conserved_repeated :
    let pipeline := UdpDatagramPipeline.ofConfig pairConfig 0 0
    let received := [Received.burst [.firstOfPair 5, .firstOfPair 6, .zeros,
      { payloadLen := 1 }] 0]
    let loop := OwnerLoop.mainLoop pipeline received (OwnerLoop.start pairConfig [] [])
    loop.system.metrics.rxPackets =
        loop.artifacts.capturedPackets + loop.system.metrics.droppedPackets ∧
      loop.system.metrics.rxPackets = (received.flatMap Received.datagrams).countP pipeline.admits :=
  packet_accounting_conserved pairConfig 0 0 [] [] _ (by decide +kernel)

end RxTech
