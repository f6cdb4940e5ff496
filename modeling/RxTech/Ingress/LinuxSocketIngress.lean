import RxTech.Ingress.DpdkDatagramAdapter
import RxTech.Ingress.RxBackend
import RxTech.Library.CounterDelta
import Mathlib.Algebra.Ring.Nat

/-!
# The Linux socket backend

`LinuxSocketIngress`: `recvmmsg` fills the slots of a batch, and every message becomes a
datagram or a drop. What the kernel returns is an input here.
-/

set_option autoImplicit false

namespace RxTech

/-- An entry of the control data of a message; `complete` is the check of its `cmsg_len`. -/
inductive ControlMessage where
  | rxqOvfl (complete : Bool) (kernelDropTotal : UInt32)
  | pktinfo (complete : Bool) (ipiAddr : UInt32)
  | other
  deriving DecidableEq, Repr

/-- What `recvmmsg` leaves in a slot: `inet` is `sin_family == AF_INET`, and `ctrunc` the flag
`MSG_CTRUNC`. `tsNs` is what the clock answers for its datagram. -/
structure SocketMessage where
  payload : ByteView
  msgLen : UInt32
  inet : Bool := true
  srcIpv4Be : UInt32 := 0
  srcPort : UInt16 := 0
  ctrunc : Bool := false
  control : List ControlMessage := []
  tsNs : Nat := 0

/-- The outcomes of `recvmmsg`; `interrupted` is one of `EINTR`, `EAGAIN` and
`EWOULDBLOCK`. -/
inductive RecvResult where
  | interrupted
  | failed
  | received (messages : List SocketMessage)

structure SocketStats extends BackendStats where
  rxErrors : Nat := 0
  backendDrops : Nat := 0
  kernelDropCount : Nat := 0
  receiveBatches : Nat := 0
  maxBurstSize : Nat := 0
  deriving DecidableEq, Repr

/-- `isOpen` is `socket_fd >= 0`. -/
structure LinuxSocketIngress where
  isOpen : Bool := true
  destIpv4Be : Nat
  bindPort : UInt16
  queueId : Nat
  lastSeenKernelDropCount : UInt32 := 0
  stats : SocketStats := {}

/-- `update_kernel_drop_count_from_cmsg`, with the new `last_seen_kernel_drop_count`. -/
def updateKernelDropCountFromCmsg : List ControlMessage → UInt32 → UInt32 × Nat
  | [], lastSeen => (lastSeen, 0)
  | .rxqOvfl true kernelDropTotal :: _, lastSeen =>
      if kernelDropTotal < lastSeen then (kernelDropTotal, 0)
      else (kernelDropTotal, (kernelDropTotal - lastSeen).toNat)
  | _ :: rest, lastSeen => updateKernelDropCountFromCmsg rest lastSeen

/-- The loop that copies `in_pktinfo`; the slot is cleared before. -/
def pktinfoAddr : List ControlMessage → UInt32
  | [] => 0
  | .pktinfo true ipiAddr :: _ => ipiAddr
  | _ :: rest => pktinfoAddr rest

def socketDestIpv4Be (peer pktinfo : UInt32) (defaultDestIpv4Be : Nat) : Nat :=
  if pktinfo ≠ 0 then pktinfo.toNat
  else if defaultDestIpv4Be ≠ 0 then defaultDestIpv4Be else peer.toNat

namespace LinuxSocketIngress

/-- The control data of a message, unless it was truncated. -/
def readControl (ingress : LinuxSocketIngress) (message : SocketMessage) : LinuxSocketIngress :=
  if message.ctrunc then
    { ingress with stats := { ingress.stats with rxErrors := ingress.stats.rxErrors + 1 } }
  else
    let (lastSeen, delta) :=
      updateKernelDropCountFromCmsg message.control ingress.lastSeenKernelDropCount
    { ingress with
      lastSeenKernelDropCount := lastSeen
      stats := { ingress.stats with
        kernelDropCount := ingress.stats.kernelDropCount + delta } }

/-- The datagram of slot `index`. -/
def describe (ingress : LinuxSocketIngress) (message : SocketMessage) (index : Nat) :
    UdpDatagramDesc where
  payloadData := some message.payload
  payloadLen := message.msgLen
  rawFrameData := none
  rawFrameLen := 0
  srcIpv4Be := message.srcIpv4Be.toNat
  dstIpv4Be := socketDestIpv4Be message.srcIpv4Be
    (if message.ctrunc then 0 else pktinfoAddr message.control) ingress.destIpv4Be
  srcPort := message.srcPort.toNat
  dstPort := ingress.bindPort.toNat
  tsNs := message.tsNs
  queueId := ingress.queueId
  cookie := index
  backendKind := .socket

/-- The loop of `recv_burst` over the messages received, from slot `index` on. -/
def recvLoop : List SocketMessage → Nat → LinuxSocketIngress →
    LinuxSocketIngress × List UdpDatagramDesc
  | [], _, ingress => (ingress, [])
  | message :: rest, index, ingress =>
      let ingress := ingress.readControl message
      if message.inet then
        let datagram := ingress.describe message index
        let (ingress, datagrams) := recvLoop rest (index + 1) { ingress with
          stats := { ingress.stats with
            rxPackets := ingress.stats.rxPackets + 1
            rxBytes := ingress.stats.rxBytes + datagram.payloadLen.toNat } }
        (ingress, datagram :: datagrams)
      else
        recvLoop rest (index + 1) { ingress with
          stats := { ingress.stats with backendDrops := ingress.stats.backendDrops + 1 } }

def countEmptyPoll (ingress : LinuxSocketIngress) : LinuxSocketIngress :=
  { ingress with stats := { ingress.stats with emptyPolls := ingress.stats.emptyPolls + 1 } }

/-- `recv_burst` behind the system call; at most `maxBurst` messages are received. -/
def acceptBatch (maxBurst : Nat) (result : RecvResult) (ingress : LinuxSocketIngress) :
    LinuxSocketIngress × Option (List UdpDatagramDesc) :=
  match result with
  | .interrupted => (ingress.countEmptyPoll, some [])
  | .failed =>
      ({ ingress with stats := { ingress.stats with rxErrors := ingress.stats.rxErrors + 1 } },
        none)
  | .received messages =>
      let messages := messages.take maxBurst
      if messages.isEmpty then (ingress.countEmptyPoll, some [])
      else
        let ingress := { ingress with
          stats := { ingress.stats with
            receiveBatches := ingress.stats.receiveBatches + 1
            maxBurstSize := max ingress.stats.maxBurstSize messages.length } }
        let (ingress, datagrams) := recvLoop messages 0 ingress
        if datagrams.isEmpty then (ingress.countEmptyPoll, some datagrams)
        else (ingress, some datagrams)

def recvBurst (maxBurst : Nat) (result : RecvResult) (ingress : LinuxSocketIngress) :
    LinuxSocketIngress × Option (List UdpDatagramDesc) :=
  if ingress.isOpen then
    let ingress := { ingress with
      stats := { ingress.stats with rxPolls := ingress.stats.rxPolls + 1 } }
    if maxBurst = 0 then (ingress.countEmptyPoll, some [])
    else ingress.acceptBatch maxBurst result
  else (ingress, none)

/-- The backend of an owner loop. `release_burst` only clears the burst. -/
def calls (maxBurst : Nat) : RxBackend LinuxSocketIngress RecvResult where
  recvBurst := recvBurst maxBurst
  releaseBurst _ ingress := ingress

end LinuxSocketIngress

/-! ## The kernel's drop counter -/

/-- The drop total that an entry carries. -/
def ControlMessage.dropTotal? : ControlMessage → Option UInt32
  | .rxqOvfl true kernelDropTotal => some kernelDropTotal
  | .rxqOvfl false _ | .pktinfo _ _ | .other => none

/-- The drop total that is read from a message. -/
def SocketMessage.report (message : SocketMessage) : Option UInt32 :=
  if message.ctrunc then none else message.control.findSome? ControlMessage.dropTotal?

private theorem updateKernelDropCountFromCmsg_eq (control : List ControlMessage)
    (lastSeen : UInt32) :
    updateKernelDropCountFromCmsg control lastSeen =
      match control.findSome? ControlMessage.dropTotal? with
      | none => (lastSeen, 0)
      | some total =>
          if total < lastSeen then (total, 0) else (total, (total - lastSeen).toNat) := by
  induction control with
  | nil => rfl
  | cons entry rest ih =>
      cases entry with
      | rxqOvfl complete kernelDropTotal =>
          cases complete with
          | false => exact ih
          | true => rfl
      | pktinfo complete ipiAddr => exact ih
      | other => exact ih

namespace LinuxSocketIngress

/-- The kernel's counter as the backend follows it. -/
def tracker (ingress : LinuxSocketIngress) : CounterDelta.Tracker where
  last := ingress.lastSeenKernelDropCount.toNat
  sum := ingress.stats.kernelDropCount

/-! ## What a run counts -/

/-- What the backend has counted of some messages since `before`, and of `failures` calls
that failed. -/
structure Tallied (before after : LinuxSocketIngress) (messages : List SocketMessage)
    (failures : Nat) : Prop where
  isOpen : after.isOpen = before.isOpen
  destIpv4Be : after.destIpv4Be = before.destIpv4Be
  bindPort : after.bindPort = before.bindPort
  queueId : after.queueId = before.queueId
  rxPackets : after.stats.rxPackets = before.stats.rxPackets + messages.countP SocketMessage.inet
  rxBytes : after.stats.rxBytes = before.stats.rxBytes +
    ((messages.filter SocketMessage.inet).map fun message => message.msgLen.toNat).sum
  backendDrops : after.stats.backendDrops =
    before.stats.backendDrops + messages.countP fun message => !message.inet
  rxErrors : after.stats.rxErrors =
    before.stats.rxErrors + failures + messages.countP SocketMessage.ctrunc
  tracker : after.tracker = ((messages.filterMap SocketMessage.report).map UInt32.toNat).foldl
    CounterDelta.observe before.tracker

theorem Tallied.trans {before between after : LinuxSocketIngress}
    {first second : List SocketMessage} {one two : Nat}
    (early : before.Tallied between first one) (late : between.Tallied after second two) :
    before.Tallied after (first ++ second) (one + two) := by
  constructor
  · exact late.isOpen.trans early.isOpen
  · exact late.destIpv4Be.trans early.destIpv4Be
  · exact late.bindPort.trans early.bindPort
  · exact late.queueId.trans early.queueId
  · rw [late.rxPackets, early.rxPackets, List.countP_append, Nat.add_assoc]
  · rw [late.rxBytes, early.rxBytes, List.filter_append, List.map_append, List.sum_append,
      Nat.add_assoc]
  · rw [late.backendDrops, early.backendDrops, List.countP_append, Nat.add_assoc]
  · rw [late.rxErrors, early.rxErrors, List.countP_append]
    omega
  · rw [late.tracker, early.tracker, List.filterMap_append, List.map_append, List.foldl_append]

/-- Reading the control data of a message counts its drops and errors. -/
theorem readControl_spec (ingress : LinuxSocketIngress) (message : SocketMessage) :
    ∃ lastSeen kernelDropCount,
      ingress.readControl message = { ingress with
        lastSeenKernelDropCount := lastSeen
        stats := { ingress.stats with
          rxErrors := ingress.stats.rxErrors + [message].countP SocketMessage.ctrunc
          kernelDropCount } } ∧
      CounterDelta.Tracker.mk lastSeen.toNat kernelDropCount =
        (([message].filterMap SocketMessage.report).map UInt32.toNat).foldl CounterDelta.observe
          ingress.tracker := by
  cases truncated : message.ctrunc with
  | true =>
      refine ⟨ingress.lastSeenKernelDropCount, ingress.stats.kernelDropCount, ?_, ?_⟩
      · simp [readControl, truncated]
      · simp [SocketMessage.report, truncated, tracker]
  | false =>
      have read := updateKernelDropCountFromCmsg_eq message.control
        ingress.lastSeenKernelDropCount
      refine ⟨(updateKernelDropCountFromCmsg message.control ingress.lastSeenKernelDropCount).1,
        ingress.stats.kernelDropCount + (updateKernelDropCountFromCmsg message.control
          ingress.lastSeenKernelDropCount).2, by simp [readControl, truncated], ?_⟩
      have report : message.report = message.control.findSome? ControlMessage.dropTotal? := by
        simp [SocketMessage.report, truncated]
      rw [read]
      cases total : message.control.findSome? ControlMessage.dropTotal? with
      | none => simp [report, total, tracker]
      | some total' =>
          simp only [List.filterMap_cons, List.filterMap_nil, report, total, List.map_cons,
            List.map_nil, List.foldl_cons, List.foldl_nil, CounterDelta.observe, tracker]
          by_cases fallen : total' < ingress.lastSeenKernelDropCount
          · rw [if_pos fallen, if_pos (UInt32.lt_iff_toNat_lt.mp fallen)]
            rfl
          · rw [if_neg fallen, if_neg (mt UInt32.lt_iff_toNat_lt.mpr fallen)]
            have order : ingress.lastSeenKernelDropCount ≤ total' := UInt32.not_lt.mp fallen
            rw [UInt32.toNat_sub_of_le _ _ order]

/-- One message of the loop. -/
def recvOne (ingress : LinuxSocketIngress) (message : SocketMessage) : LinuxSocketIngress :=
  let ingress := ingress.readControl message
  if message.inet then
    { ingress with
      stats := { ingress.stats with
        rxPackets := ingress.stats.rxPackets + 1
        rxBytes := ingress.stats.rxBytes + message.msgLen.toNat } }
  else
    { ingress with stats := { ingress.stats with backendDrops := ingress.stats.backendDrops + 1 } }

private theorem recvOne_tallied (ingress : LinuxSocketIngress) (message : SocketMessage) :
    ingress.Tallied (ingress.recvOne message) [message] 0 := by
  obtain ⟨lastSeen, kernelDropCount, read, tracked⟩ := ingress.readControl_spec message
  rw [recvOne, read]
  cases family : message.inet with
  | true =>
      exact ⟨rfl, rfl, rfl, rfl, by simp [family], by simp [family], by simp [family], rfl,
        tracked⟩
  | false =>
      exact ⟨rfl, rfl, rfl, rfl, by simp [family], by simp [family], by simp [family], rfl,
        tracked⟩

/-- The counters of polls, which the loop over the messages leaves alone. -/
def pollCounters (ingress : LinuxSocketIngress) : Nat × Nat × Nat × Nat :=
  (ingress.stats.rxPolls, ingress.stats.emptyPolls, ingress.stats.receiveBatches,
    ingress.stats.maxBurstSize)

private theorem recvOne_pollCounters (ingress : LinuxSocketIngress) (message : SocketMessage) :
    (ingress.recvOne message).pollCounters = ingress.pollCounters := by
  obtain ⟨lastSeen, kernelDropCount, read, -⟩ := ingress.readControl_spec message
  rw [recvOne, read]
  cases message.inet <;> rfl

/-- The datagrams of messages in the slots from `index` on. -/
def datagrams (ingress : LinuxSocketIngress) (messages : List SocketMessage) (index : Nat) :
    List UdpDatagramDesc :=
  (messages.zipIdx index).filterMap fun (message, index) =>
    if message.inet then some (ingress.describe message index) else none

private theorem datagrams_cons (ingress : LinuxSocketIngress) (message : SocketMessage)
    (rest : List SocketMessage) (index : Nat) : ingress.datagrams (message :: rest) index =
      (if message.inet then [ingress.describe message index] else []) ++
        ingress.datagrams rest (index + 1) := by
  cases family : message.inet <;> simp [datagrams, List.zipIdx_cons, family]

theorem Tallied.datagrams_eq {before after : LinuxSocketIngress} {messages : List SocketMessage}
    {failures : Nat} (tallied : before.Tallied after messages failures) :
    after.datagrams = before.datagrams := by
  funext messages index
  simp only [datagrams, describe, tallied.destIpv4Be, tallied.bindPort, tallied.queueId]

theorem recvLoop_cons (message : SocketMessage) (rest : List SocketMessage) (index : Nat)
    (ingress : LinuxSocketIngress) :
    recvLoop (message :: rest) index ingress =
      ((recvLoop rest (index + 1) (ingress.recvOne message)).1,
        (if message.inet then [ingress.describe message index] else []) ++
          (recvLoop rest (index + 1) (ingress.recvOne message)).2) := by
  obtain ⟨lastSeen, kernelDropCount, read, -⟩ := ingress.readControl_spec message
  rw [recvLoop, recvOne, read]
  cases message.inet <;> rfl

private theorem recvLoop_spec (messages : List SocketMessage) (index : Nat)
    (ingress : LinuxSocketIngress) :
    (recvLoop messages index ingress).2 = ingress.datagrams messages index ∧
      ingress.Tallied (recvLoop messages index ingress).1 messages 0 ∧
      (recvLoop messages index ingress).1.pollCounters = ingress.pollCounters := by
  induction messages generalizing index ingress with
  | nil => exact ⟨rfl, ⟨rfl, rfl, rfl, rfl, rfl, rfl, rfl, rfl, rfl⟩, rfl⟩
  | cons message rest ih =>
      obtain ⟨same, tallied, counters⟩ := ih (index + 1) (ingress.recvOne message)
      have one := ingress.recvOne_tallied message
      have all := one.trans tallied
      rw [one.datagrams_eq] at same
      rw [ingress.recvOne_pollCounters] at counters
      rw [recvLoop_cons]
      refine ⟨?_, all, counters⟩
      rw [same, datagrams_cons]

end LinuxSocketIngress

/-! ## Polls -/

namespace RecvResult

variable (maxBurst : Nat)

/-- The messages that a call delivers. -/
def messages : RecvResult → List SocketMessage
  | .interrupted | .failed => []
  | .received messages => messages.take maxBurst

/-- The call is made and fails. -/
def fails : RecvResult → Bool
  | .interrupted | .received _ => false
  | .failed => maxBurst != 0

/-- The call does not fail, and no datagram comes of it. -/
def quiet (result : RecvResult) : Bool :=
  !result.fails maxBurst && (result.messages maxBurst).all fun message => !message.inet

end RecvResult

namespace LinuxSocketIngress

/-- A run of polls. -/
structure Polled (maxBurst : Nat) (before after : LinuxSocketIngress) (results : List RecvResult) :
    Prop where
  tallied : before.Tallied after (results.flatMap (RecvResult.messages maxBurst))
    (results.countP (RecvResult.fails maxBurst))
  rxPolls : after.stats.rxPolls = before.stats.rxPolls + results.length
  emptyPolls : after.stats.emptyPolls =
    before.stats.emptyPolls + results.countP (RecvResult.quiet maxBurst)
  receiveBatches : after.stats.receiveBatches = before.stats.receiveBatches +
    results.countP fun result => !(result.messages maxBurst).isEmpty
  maxBurstSize : after.stats.maxBurstSize =
    (results.map fun result => (result.messages maxBurst).length).foldl max
      before.stats.maxBurstSize

variable {maxBurst : Nat}

theorem Polled.refl (ingress : LinuxSocketIngress) : ingress.Polled maxBurst ingress [] :=
  ⟨⟨rfl, rfl, rfl, rfl, rfl, rfl, rfl, rfl, rfl⟩, rfl, rfl, rfl, rfl⟩

theorem Polled.trans {before between after : LinuxSocketIngress} {first second : List RecvResult}
    (early : Polled maxBurst before between first) (late : Polled maxBurst between after second) :
    Polled maxBurst before after (first ++ second) := by
  constructor
  · rw [List.flatMap_append, List.countP_append]
    exact early.tallied.trans late.tallied
  · rw [late.rxPolls, early.rxPolls, List.length_append, Nat.add_assoc]
  · rw [late.emptyPolls, early.emptyPolls, List.countP_append, Nat.add_assoc]
  · rw [late.receiveBatches, early.receiveBatches, List.countP_append, Nat.add_assoc]
  · rw [late.maxBurstSize, early.maxBurstSize, List.map_append, List.foldl_append]

theorem Polled.single {before after : LinuxSocketIngress} {result : RecvResult}
    (tallied : before.Tallied after (result.messages maxBurst)
      (if result.fails maxBurst then 1 else 0))
    (counters : after.pollCounters = (before.stats.rxPolls + 1,
      before.stats.emptyPolls + (if result.quiet maxBurst then 1 else 0),
      before.stats.receiveBatches + (if (result.messages maxBurst).isEmpty then 0 else 1),
      max before.stats.maxBurstSize (result.messages maxBurst).length)) :
    Polled maxBurst before after [result] := by
  simp only [pollCounters, Prod.mk.injEq] at counters
  obtain ⟨rxPolls, emptyPolls, receiveBatches, maxBurstSize⟩ := counters
  constructor
  · rw [List.flatMap_singleton, List.countP_singleton]
    exact tallied
  · exact rxPolls
  · rw [List.countP_singleton]
    exact emptyPolls
  · rw [List.countP_singleton, receiveBatches]
    cases (result.messages maxBurst).isEmpty <;> rfl
  · exact maxBurstSize

private theorem datagrams_isEmpty (ingress : LinuxSocketIngress) (messages : List SocketMessage)
    (index : Nat) : (ingress.datagrams messages index).isEmpty =
      messages.all fun message => !message.inet := by
  induction messages generalizing index with
  | nil => rfl
  | cons message rest ih =>
      have rest' := ih (index + 1)
      rw [datagrams_cons, List.all_cons]
      cases message.inet with
      | true => rfl
      | false => exact rest'

/-- A poll counts itself before it asks the kernel. -/
theorem countEmptyPoll_tallied (ingress : LinuxSocketIngress) :
    ingress.Tallied ingress.countEmptyPoll [] 0 :=
  ⟨rfl, rfl, rfl, rfl, rfl, rfl, rfl, rfl, rfl⟩

/-- What a batch of messages delivers, and what it counts. -/
theorem acceptBatch_received (messages : List SocketMessage) (ingress : LinuxSocketIngress)
    (arrived : (messages.take maxBurst).isEmpty = false) : ∃ after,
      ingress.acceptBatch maxBurst (.received messages) =
        (after, some (ingress.datagrams (messages.take maxBurst) 0)) ∧
      ingress.Tallied after (messages.take maxBurst) 0 ∧
      after.pollCounters = (ingress.stats.rxPolls,
        ingress.stats.emptyPolls +
          [RecvResult.received messages].countP (RecvResult.quiet maxBurst),
        ingress.stats.receiveBatches + 1,
        max ingress.stats.maxBurstSize (messages.take maxBurst).length) := by
  let batch := { ingress with
    stats := { ingress.stats with
      receiveBatches := ingress.stats.receiveBatches + 1
      maxBurstSize := max ingress.stats.maxBurstSize (messages.take maxBurst).length } }
  have begun : ingress.Tallied batch [] 0 := ⟨rfl, rfl, rfl, rfl, rfl, rfl, rfl, rfl, rfl⟩
  obtain ⟨same, tallied, counters⟩ := recvLoop_spec (messages.take maxBurst) 0 batch
  rw [begun.datagrams_eq] at same
  have all := begun.trans tallied
  have quiet := ingress.datagrams_isEmpty (messages.take maxBurst) 0
  have counted : [RecvResult.received messages].countP (RecvResult.quiet maxBurst) =
      if (ingress.datagrams (messages.take maxBurst) 0).isEmpty then 1 else 0 := by
    rw [quiet, List.countP_singleton]
    rfl
  simp only [pollCounters, Prod.mk.injEq] at counters
  obtain ⟨rxPolls, emptyPolls, receiveBatches, maxBurstSize⟩ := counters
  have accepted : ingress.acceptBatch maxBurst (.received messages) =
      if (ingress.datagrams (messages.take maxBurst) 0).isEmpty then
        ((recvLoop (messages.take maxBurst) 0 batch).1.countEmptyPoll,
          some (ingress.datagrams (messages.take maxBurst) 0))
      else
        ((recvLoop (messages.take maxBurst) 0 batch).1,
          some (ingress.datagrams (messages.take maxBurst) 0)) := by
    rw [← same]
    exact if_neg (ne_true_of_eq_false arrived)
  rw [accepted, counted]
  split
  · refine ⟨_, rfl, by simpa using all.trans (countEmptyPoll_tallied _), ?_⟩
    simp only [pollCounters, countEmptyPoll, rxPolls, emptyPolls, receiveBatches, maxBurstSize]
    rfl
  · refine ⟨_, rfl, all, ?_⟩
    simp only [pollCounters, rxPolls, emptyPolls, receiveBatches, maxBurstSize]
    rfl

/-- What the owner loop sees of a poll. -/
def received (ingress : LinuxSocketIngress) (maxBurst : Nat) (poll : RxPoll RecvResult) :
    Received :=
  if ingress.isOpen && !poll.waiting.fails maxBurst then
    .burst (ingress.datagrams (poll.waiting.messages maxBurst) 0) poll.nowNs
  else .failed

/-- The calls that a run of polls makes; none once the socket is closed. -/
def results (ingress : LinuxSocketIngress) (polls : List (RxPoll RecvResult)) :
    List RecvResult :=
  if ingress.isOpen then polls.map RxPoll.waiting else []

/-- The system call of an open socket. -/
theorem recvBurst_open {ingress : LinuxSocketIngress} (isOpen : ingress.isOpen = true)
    (result : RecvResult) : ∃ after,
      recvBurst maxBurst result ingress = (after,
        if result.fails maxBurst then none
        else some (ingress.datagrams (result.messages maxBurst) 0)) ∧
      Polled maxBurst ingress after [result] := by
  let polling := { ingress with
    stats := { ingress.stats with rxPolls := ingress.stats.rxPolls + 1 } }
  have begun : ingress.Tallied polling [] 0 := ⟨rfl, rfl, rfl, rfl, rfl, rfl, rfl, rfl, rfl⟩
  by_cases none : maxBurst = 0
  · subst none
    have idle : result.fails 0 = false ∧ result.messages 0 = [] := by
      cases result with
      | interrupted => exact ⟨rfl, rfl⟩
      | failed => exact ⟨rfl, rfl⟩
      | received messages => exact ⟨rfl, rfl⟩
    refine ⟨polling.countEmptyPoll, ?_, ?_⟩
    · rw [recvBurst, if_pos isOpen, if_pos rfl, idle.1, idle.2]
      rfl
    · apply Polled.single
      · rw [idle.1, idle.2]
        exact begun.trans (countEmptyPoll_tallied polling)
      · simp only [RecvResult.quiet, idle.1, idle.2]
        simp [pollCounters, countEmptyPoll, polling]
  · have call : recvBurst maxBurst result ingress = polling.acceptBatch maxBurst result := by
      rw [recvBurst, if_pos isOpen, if_neg none]
    have made : (maxBurst != 0) = true := bne_iff_ne.mpr none
    rw [call]
    cases result with
    | interrupted =>
        refine ⟨polling.countEmptyPoll, rfl, Polled.single ?_ ?_⟩
        · exact begun.trans (countEmptyPoll_tallied polling)
        · simp [pollCounters, countEmptyPoll, RecvResult.quiet, RecvResult.messages,
            RecvResult.fails, polling]
    | failed =>
        have failure : (RecvResult.failed).fails maxBurst = true := made
        let after := { polling with
          stats := { polling.stats with rxErrors := polling.stats.rxErrors + 1 } }
        have error : polling.Tallied after [] 1 := ⟨rfl, rfl, rfl, rfl, rfl, rfl, rfl, rfl, rfl⟩
        refine ⟨after, ?_, Polled.single ?_ ?_⟩
        · rw [failure]
          rfl
        · rw [failure]
          exact begun.trans error
        · simp [pollCounters, RecvResult.quiet, failure, RecvResult.messages, after, polling]
    | received messages =>
        cases arrived : (messages.take maxBurst).isEmpty with
        | true =>
            have nothing : messages.take maxBurst = [] := List.isEmpty_iff.mp arrived
            have quiet : (RecvResult.received messages).quiet maxBurst = true := by
              simp [RecvResult.quiet, RecvResult.fails, RecvResult.messages, nothing]
            refine ⟨polling.countEmptyPoll, ?_, Polled.single ?_ ?_⟩
            · simp [acceptBatch, RecvResult.fails, RecvResult.messages, nothing, datagrams]
            · simp only [RecvResult.messages, nothing]
              exact begun.trans (countEmptyPoll_tallied polling)
            · rw [quiet]
              simp [pollCounters, countEmptyPoll, RecvResult.messages, nothing, polling]
        | false =>
            obtain ⟨after, accepted, tallied, counters⟩ :=
              acceptBatch_received messages polling arrived
            refine ⟨after, accepted, Polled.single (begun.trans tallied) ?_⟩
            rw [counters, List.countP_singleton]
            simp only [RecvResult.messages, arrived]
            rfl

/-! ## Runs -/

/-- What a poll delivers is a matter of the configuration. -/
theorem Polled.received_eq {before after : LinuxSocketIngress} {results : List RecvResult}
    (polled : Polled maxBurst before after results) :
    after.received maxBurst = before.received maxBurst := by
  funext poll
  rw [received, received, polled.tallied.isOpen, polled.tallied.datagrams_eq]

variable (maxBurst : Nat)

theorem serve_spec (poll : RxPoll RecvResult) (ingress : LinuxSocketIngress) :
    (calls maxBurst).delivered poll ingress = ingress.received maxBurst poll ∧
      Polled maxBurst ingress ((calls maxBurst).serve poll ingress) (ingress.results [poll]) := by
  change Received.ofBurst poll.nowNs (recvBurst maxBurst poll.waiting ingress).2 = _ ∧
      Polled maxBurst ingress (recvBurst maxBurst poll.waiting ingress).1 _
  rw [received, results]
  cases isOpen : ingress.isOpen with
  | false =>
      have closed : recvBurst maxBurst poll.waiting ingress = (ingress, none) := by
        rw [recvBurst, if_neg (ne_true_of_eq_false isOpen)]
      rw [closed]
      exact ⟨rfl, .refl ingress⟩
  | true =>
      obtain ⟨after, call, polled⟩ := @recvBurst_open maxBurst ingress isOpen poll.waiting
      rw [call]
      refine ⟨?_, polled⟩
      cases poll.waiting.fails maxBurst <;> rfl

theorem run_spec (polls : List (RxPoll RecvResult)) (ingress : LinuxSocketIngress) :
    (calls maxBurst).deliveries polls ingress = polls.map (ingress.received maxBurst) ∧
      Polled maxBurst ingress (Machine.run (calls maxBurst).serve polls ingress)
        (ingress.results polls) := by
  induction polls generalizing ingress with
  | nil =>
      refine ⟨rfl, ?_⟩
      rw [results, List.map_nil, ite_self]
      exact .refl ingress
  | cons poll rest ih =>
      obtain ⟨delivered, polled⟩ := serve_spec maxBurst poll ingress
      obtain ⟨deliveries, later⟩ := ih ((calls maxBurst).serve poll ingress)
      have step : (calls maxBurst).deliveries (poll :: rest) ingress =
          (calls maxBurst).delivered poll ingress ::
            (calls maxBurst).deliveries rest ((calls maxBurst).serve poll ingress) := rfl
      have more : ingress.results (poll :: rest) = ingress.results [poll] ++
          ((calls maxBurst).serve poll ingress).results rest := by
        rw [results, results, results, polled.tallied.isOpen]
        cases ingress.isOpen <;> rfl
      constructor
      · rw [step, delivered, deliveries, polled.received_eq, List.map_cons]
      · rw [more]
        exact polled.trans later

end LinuxSocketIngress

/-- A run on the socket backend is a run on the datagrams of the messages received, and the
counters account for every message, failure and poll up to its end. -/
theorem socket_run_accounts (config : RxConfig) (allowedSourceIpv4Be receiverIpv4Be : Nat)
    (consumerSchedule clock : List Nat) (destIpv4Be : Nat) (bindPort : UInt16)
    (queueId maxBurst : Nat) (polls : List (RxPoll RecvResult)) :
    let ingress : LinuxSocketIngress := { destIpv4Be, bindPort, queueId }
    let final := OwnerLoop.mainLoopOn (LinuxSocketIngress.calls maxBurst)
      (UdpDatagramPipeline.ofConfig config allowedSourceIpv4Be receiverIpv4Be) polls
      ingress (OwnerLoop.start config consumerSchedule clock)
    final.2.shutdown = OwnerLoop.run config allowedSourceIpv4Be receiverIpv4Be consumerSchedule
        clock (polls.map (ingress.received maxBurst)) ∧
      ∃ served, served <+: polls ∧
        ingress.Polled maxBurst final.1 (served.map RxPoll.waiting) := by
  intro ingress final
  obtain ⟨same, served, early, run⟩ :=
    OwnerLoop.mainLoopOn_spec (LinuxSocketIngress.calls maxBurst)
      (UdpDatagramPipeline.ofConfig config allowedSourceIpv4Be receiverIpv4Be) polls ingress
      (OwnerLoop.start config consumerSchedule clock)
  have polled := (LinuxSocketIngress.run_spec maxBurst served ingress).2
  rw [(LinuxSocketIngress.run_spec maxBurst polls ingress).1] at same
  rw [← run] at polled
  exact ⟨congrArg OwnerLoop.shutdown same, served, early, polled⟩

/-- Where the kernel's drop totals are a rising count modulo `2 ^ 32`, the drops counted
never exceed it, and are exactly it until the kernel's counter wraps around. -/
theorem kernel_drop_count_exact_iff (destIpv4Be : Nat) (bindPort : UInt16)
    (queueId maxBurst : Nat) (polls : List (RxPoll RecvResult)) (counts : List Nat)
    (rising : counts.Pairwise (· ≤ ·))
    (reported : ((polls.map RxPoll.waiting).flatMap (RecvResult.messages maxBurst)).filterMap
      SocketMessage.report = counts.map UInt32.ofNat) :
    let final := Machine.run (LinuxSocketIngress.calls maxBurst).serve polls
      { destIpv4Be, bindPort, queueId }
    final.stats.kernelDropCount ≤ counts.getLastD 0 ∧
      (final.stats.kernelDropCount = counts.getLastD 0 ↔ counts.getLastD 0 < 2 ^ 32) := by
  intro final
  have polled := (LinuxSocketIngress.run_spec maxBurst polls { destIpv4Be, bindPort, queueId }).2
  have tracker := polled.tallied.tracker
  have open' : LinuxSocketIngress.results { destIpv4Be, bindPort, queueId } polls =
      polls.map RxPoll.waiting := rfl
  have readings : (counts.map UInt32.ofNat).map UInt32.toNat = counts.map (· % 2 ^ 32) := by
    rw [List.map_map]
    exact List.map_congr_left fun count _ => UInt32.toNat_ofNat'
  rw [open', reported, readings] at tracker
  have follows := CounterDelta.follows_foldl (by decide : 0 < 2 ^ 32)
    (List.pairwise_cons.mpr ⟨fun _ _ => Nat.zero_le _, rising⟩)
    (CounterDelta.follows_zero (by decide : 0 < 2 ^ 32))
  have same : final.stats.kernelDropCount =
      ((counts.map (· % 2 ^ 32)).foldl CounterDelta.observe {}).sum :=
    congrArg CounterDelta.Tracker.sum tracker
  rw [same]
  exact ⟨follows.sum, follows.exact⟩

/-- A counter that wraps around between two messages loses what it counted there. -/
theorem kernel_drop_count_exact_iff_wrapped :
    let message (total : UInt32) : SocketMessage :=
      { payload := fun _ => 0, msgLen := 0, control := [.other, .rxqOvfl true total] }
    let final := Machine.run (LinuxSocketIngress.calls 8).serve
      [{ waiting := .received [message 4294967290], nowNs := 0 },
        { waiting := .received [message 4], nowNs := 0 }]
      { destIpv4Be := 0, bindPort := 1, queueId := 0 }
    final.stats.kernelDropCount = 4294967290 ∧ final.stats.kernelDropCount ≠ 4294967300 := by
  intro message final
  refine ⟨by decide +kernel, fun exact => ?_⟩
  have small := (kernel_drop_count_exact_iff 0 1 0 8
    [{ waiting := .received [message 4294967290], nowNs := 0 },
      { waiting := .received [message 4], nowNs := 0 }] [4294967290, 4294967300] (by decide)
    (by decide +kernel)).2.mp exact
  exact absurd small (by decide)

end RxTech
