import RxTech.Ingress.ArpResponder
import RxTech.Ingress.RxBackend
import Mathlib.Algebra.Ring.Nat

/-!
# The DPDK backend

`DpdkIngress`: a poll takes buffers from the driver, answers ARP requests, passes the UDP
datagrams on and frees the rest; the owner loop gives the buffers of a burst back when it
is done with it. What the driver hands over and answers is an input here.
-/

set_option autoImplicit false

namespace RxTech

/-! ## Custody of buffers -/

/-- The buffers that the application holds. `misused` remembers that a buffer was given
back that it did not hold. -/
structure Custody where
  held : List Nat := []
  misused : Bool := false
  deriving DecidableEq, Repr

namespace Custody

def take (custody : Custody) (address : Nat) : Custody :=
  { custody with held := address :: custody.held }

def give (custody : Custody) (address : Nat) : Custody :=
  if address ∈ custody.held then { custody with held := custody.held.erase address }
  else { custody with misused := true }

/-- Exactly these buffers are held, and none was ever given back without being held. -/
structure Holds (custody : Custody) (addresses : List Nat) : Prop where
  held : custody.held.Perm addresses
  proper : custody.misused = false

variable {custody : Custody} {addresses others : List Nat} {address : Nat}

theorem Holds.perm (holds : custody.Holds addresses) (same : addresses.Perm others) :
    custody.Holds others :=
  ⟨holds.held.trans same, holds.proper⟩

theorem Holds.take (holds : custody.Holds addresses) (address : Nat) :
    (custody.take address).Holds (address :: addresses) :=
  ⟨holds.held.cons address, holds.proper⟩

theorem Holds.give (holds : custody.Holds (address :: addresses)) :
    (custody.give address).Holds addresses := by
  have member : address ∈ custody.held := holds.held.mem_iff.mpr List.mem_cons_self
  rw [Custody.give, if_pos member]
  have erased := holds.held.erase address
  rw [List.erase_cons_head] at erased
  exact ⟨erased, holds.proper⟩

/-- The driver hands over several buffers. -/
theorem Holds.takeAll (holds : custody.Holds addresses) (taken : List Nat) :
    (taken.foldl Custody.take custody).Holds (taken ++ addresses) := by
  induction taken generalizing custody addresses with
  | nil => exact holds
  | cons address rest ih => exact (ih (holds.take address)).perm List.perm_middle

theorem Holds.giveAll {given : List Nat} (holds : custody.Holds (given ++ addresses)) :
    (given.foldl Custody.give custody).Holds addresses := by
  induction given generalizing custody with
  | nil => exact holds
  | cons address rest ih => exact ih holds.give

end Custody

/-! ## The backend -/

/-- What the driver answers when a reply is sent: the buffer allocated, the room in it, and
how many buffers `rte_eth_tx_burst` takes. -/
structure TxAnswer where
  mbuf : Option Nat := none
  tailroom : Nat := 0
  sent : Nat := 0
  deriving DecidableEq, Repr

/-- An `rte_mbuf` with a received frame. `tsNs` is what the clock answers when the frame
is looked at, and `tx` what the driver answers if the frame asks for a reply. -/
structure RxMbuf where
  address : Nat
  nonNull : address ≠ 0
  data : ByteView
  pktLen : UInt32
  tsNs : Nat := 0
  tx : TxAnswer := {}

/-- `custody` and `transmitted` are history: the buffers held, and the frames that the
driver took for transmission. -/
structure DpdkIngress where
  localIpBe : Nat
  localMac : Vector UInt8 6
  started : Bool := true
  stats : BackendStats := {}
  arpReplyPackets : Nat := 0
  custody : Custody := {}
  transmitted : List (List UInt8) := []

def RxMbuf.request (mbuf : RxMbuf) (localIpBe : Nat) : Option ArpRequestInfo :=
  parseArpRequest (some mbuf.data) mbuf.pktLen.toNat localIpBe

/-- `extract_udp_datagram`; what the adapter counts is thrown away. -/
def RxMbuf.extractUdpDatagram (mbuf : RxMbuf) (localIpBe : Nat) : Option UdpDatagramDesc :=
  (DpdkDatagramAdapter.adaptFrame { localIpBe }
    { data := some mbuf.data
      len := mbuf.pktLen
      tsNs := mbuf.tsNs
      queueId := 0
      cookie := mbuf.address } {}).2

namespace DpdkIngress

/-- `rte_pktmbuf_free`. -/
def free (ingress : DpdkIngress) (address : Nat) : DpdkIngress :=
  { ingress with custody := ingress.custody.give address }

/-- What `maybe_reply_arp` does with a buffer of its own. -/
def sendReply (ingress : DpdkIngress) (answer : TxAnswer) (reply : List UInt8) : DpdkIngress :=
  match answer.mbuf with
  | none => ingress
  | some tx =>
      let ingress := { ingress with custody := ingress.custody.take tx }
      if answer.tailroom < reply.length then ingress.free tx
      else if answer.sent = 0 then ingress.free tx
      else
        { ingress with
          custody := ingress.custody.give tx
          transmitted := ingress.transmitted ++ [reply]
          arpReplyPackets := ingress.arpReplyPackets + 1 }

def maybeReplyArp (ingress : DpdkIngress) (mbuf : RxMbuf) : DpdkIngress × Bool :=
  match mbuf.request ingress.localIpBe with
  | none => (ingress, false)
  | some request =>
      let ingress := { ingress with
        stats := { ingress.stats with
          arpRequestPackets := ingress.stats.arpRequestPackets + 1 } }
      (ingress.sendReply mbuf.tx (buildArpReply request ingress.localMac), true)

/-- The loop of `recv_burst` over the buffers received. -/
def recvLoop : List RxMbuf → DpdkIngress → List UdpDatagramDesc →
    DpdkIngress × List UdpDatagramDesc
  | [], ingress, datagrams => (ingress, datagrams)
  | mbuf :: rest, ingress, datagrams =>
      let ingress := { ingress with
        stats := { ingress.stats with
          rxPackets := ingress.stats.rxPackets + 1
          rxBytes := ingress.stats.rxBytes + mbuf.pktLen.toNat } }
      let (ingress, replied) := ingress.maybeReplyArp mbuf
      if replied then recvLoop rest (ingress.free mbuf.address) datagrams
      else
        match mbuf.extractUdpDatagram ingress.localIpBe with
        | none => recvLoop rest (ingress.free mbuf.address) datagrams
        | some datagram => recvLoop rest ingress (datagrams ++ [datagram])

/-- What `rte_eth_rx_burst` delivers of the frames in its queue. -/
def rxBurst (maxBurst : Nat) (queue : List RxMbuf) : List RxMbuf := queue.take (min maxBurst 64)

def recvBurst (maxBurst : Nat) (queue : List RxMbuf) (ingress : DpdkIngress) :
    DpdkIngress × Option (List UdpDatagramDesc) :=
  if ingress.started then
    let received := rxBurst maxBurst queue
    let ingress := { ingress with
      stats := { ingress.stats with rxPolls := ingress.stats.rxPolls + 1 }
      custody := (received.map RxMbuf.address).foldl Custody.take ingress.custody }
    if received.isEmpty then
      ({ ingress with
        stats := { ingress.stats with emptyPolls := ingress.stats.emptyPolls + 1 } }, some [])
    else
      let (ingress, datagrams) := recvLoop received ingress []
      (ingress, some datagrams)
  else (ingress, none)

def releaseBurst (datagrams : List UdpDatagramDesc) (ingress : DpdkIngress) : DpdkIngress :=
  datagrams.foldl (fun ingress datagram =>
    if datagram.cookie ≠ 0 then ingress.free datagram.cookie else ingress) ingress

/-- The backend of an owner loop; at a poll frames wait in the queue of the device. -/
def calls (maxBurst : Nat) : RxBackend DpdkIngress (List RxMbuf) where
  recvBurst := recvBurst maxBurst
  releaseBurst := releaseBurst

/-! ## A poll -/

/-- What the backend has counted and answered since `before`, of the buffers received
since then. Only replies to requests are transmitted. -/
structure Counted (before after : DpdkIngress) (received : List RxMbuf) : Prop where
  localIpBe : after.localIpBe = before.localIpBe
  localMac : after.localMac = before.localMac
  started : after.started = before.started
  rxPackets : after.stats.rxPackets = before.stats.rxPackets + received.length
  rxBytes : after.stats.rxBytes =
    before.stats.rxBytes + (received.map fun mbuf => mbuf.pktLen.toNat).sum
  arpRequestPackets : after.stats.arpRequestPackets = before.stats.arpRequestPackets +
    (received.filterMap (·.request before.localIpBe)).length
  replies : ∃ replies, after.transmitted = before.transmitted ++ replies ∧
    after.arpReplyPackets = before.arpReplyPackets + replies.length ∧
    replies.Sublist ((received.filterMap (·.request before.localIpBe)).map
      (buildArpReply · before.localMac))

theorem Counted.trans {before between after : DpdkIngress} {first second : List RxMbuf}
    (one : Counted before between first) (two : Counted between after second) :
    Counted before after (first ++ second) := by
  obtain ⟨ip, mac, started, packets, bytes, requests, replies, transmitted, replied, sublist⟩ := one
  obtain ⟨ip', mac', started', packets', bytes', requests', replies', transmitted', replied',
    sublist'⟩ := two
  rw [ip] at requests' sublist'
  rw [mac] at sublist'
  refine ⟨ip'.trans ip, mac'.trans mac, started'.trans started, ?_, ?_, ?_, replies ++ replies', ?_,
    ?_, ?_⟩
  · rw [packets', packets, List.length_append, Nat.add_assoc]
  · rw [bytes', bytes, List.map_append, List.sum_append, Nat.add_assoc]
  · rw [requests', requests, List.filterMap_append, List.length_append, Nat.add_assoc]
  · rw [transmitted', transmitted, List.append_assoc]
  · rw [replied', replied, List.length_append, Nat.add_assoc]
  · rw [List.filterMap_append, List.map_append]
    exact sublist.append sublist'

/-- The reply's buffer is given back or taken for transmission. -/
theorem sendReply_outcome (ingress : DpdkIngress) (answer : TxAnswer) (reply : List UInt8) :
    ∃ custody : Custody, (∀ addresses, ingress.custody.Holds addresses → custody.Holds addresses) ∧
      (ingress.sendReply answer reply = { ingress with custody } ∨
        ingress.sendReply answer reply =
          { ingress with
            custody
            transmitted := ingress.transmitted ++ [reply]
            arpReplyPackets := ingress.arpReplyPackets + 1 }) := by
  cases allocated : answer.mbuf with
  | none =>
      refine ⟨ingress.custody, fun _ holds => holds, .inl ?_⟩
      rw [sendReply, allocated]
  | some tx =>
      refine ⟨(ingress.custody.take tx).give tx, fun _ holds => (holds.take tx).give, ?_⟩
      simp only [sendReply, allocated, free]
      by_cases small : answer.tailroom < reply.length
      · exact .inl (if_pos small)
      · rw [if_neg small]
        by_cases refused : answer.sent = 0
        · exact .inl (if_pos refused)
        · exact .inr (if_neg refused)

/-- One buffer of `recv_burst`: it is freed, or its datagram goes into the burst. -/
def recvOne (ingress : DpdkIngress) (mbuf : RxMbuf) : DpdkIngress × Option UdpDatagramDesc :=
  let ingress := { ingress with
    stats := { ingress.stats with
      rxPackets := ingress.stats.rxPackets + 1
      rxBytes := ingress.stats.rxBytes + mbuf.pktLen.toNat } }
  let (ingress, replied) := ingress.maybeReplyArp mbuf
  if replied then (ingress.free mbuf.address, none)
  else
    match mbuf.extractUdpDatagram ingress.localIpBe with
    | none => (ingress.free mbuf.address, none)
    | some datagram => (ingress, some datagram)

theorem recvLoop_cons (mbuf : RxMbuf) (rest : List RxMbuf) (ingress : DpdkIngress)
    (datagrams : List UdpDatagramDesc) : recvLoop (mbuf :: rest) ingress datagrams =
      recvLoop rest (ingress.recvOne mbuf).1 (datagrams ++ (ingress.recvOne mbuf).2.toList) := by
  simp only [recvLoop, recvOne]
  split
  · simp
  · split <;> simp

end DpdkIngress

/-- A request is no datagram. -/
theorem RxMbuf.extractUdpDatagram_request {mbuf : RxMbuf} {localIpBe : Nat}
    {request : ArpRequestInfo} (asks : mbuf.request localIpBe = some request) :
    mbuf.extractUdpDatagram localIpBe = none := by
  obtain ⟨long, ⟨etherType, -⟩, -⟩ := parseArpRequest_eq_some.mp asks
  have header : ¬ mbuf.pktLen.toNat < DpdkDatagramAdapter.kEthernetHeaderBytes := by
    change ¬ mbuf.pktLen.toNat < 14
    omega
  rw [RxMbuf.request] at asks
  simp only [extractUdpDatagram, DpdkDatagramAdapter.adaptFrame, if_neg header, if_pos etherType,
    asks]

theorem DpdkDatagramAdapter.adaptIpv4_cookie {packet : PacketDesc} {data : ByteView}
    {datagram : UdpDatagramDesc} (adapted : adaptIpv4 packet data = some datagram) :
    datagram.cookie = packet.cookie := by
  simp only [adaptIpv4, Option.ite_none_left_eq_some, Option.some.injEq] at adapted
  obtain ⟨-, -, -, -, -, -, -, rfl⟩ := adapted
  rfl

/-- A datagram carries the address of its buffer. -/
theorem RxMbuf.extractUdpDatagram_cookie {mbuf : RxMbuf} {localIpBe : Nat}
    {datagram : UdpDatagramDesc} (extracted : mbuf.extractUdpDatagram localIpBe = some datagram) :
    datagram.cookie = mbuf.address := by
  simp only [extractUdpDatagram, DpdkDatagramAdapter.adaptFrame] at extracted
  split at extracted
  · cases extracted
  · split at extracted
    · split at extracted <;> cases extracted
    · exact DpdkDatagramAdapter.adaptIpv4_cookie extracted

namespace DpdkIngress

/-- A frame that is no request is only counted. -/
theorem counted_silent (ingress : DpdkIngress) {mbuf : RxMbuf} (custody : Custody)
    (silent : mbuf.request ingress.localIpBe = none) :
    ingress.Counted { ingress with
      stats := { ingress.stats with
        rxPackets := ingress.stats.rxPackets + 1
        rxBytes := ingress.stats.rxBytes + mbuf.pktLen.toNat }
      custody } [mbuf] := by
  have none : [mbuf].filterMap (·.request ingress.localIpBe) = [] := by simp [silent]
  refine ⟨rfl, rfl, rfl, rfl, by simp, ?_, [], by simp, rfl, List.nil_sublist _⟩
  rw [none]
  rfl

/-- A request is counted, and what the driver takes is the reply to it. -/
theorem counted_request (ingress : DpdkIngress) {mbuf : RxMbuf} (custody : Custody)
    {request : ArpRequestInfo} (asks : mbuf.request ingress.localIpBe = some request)
    {replies : List (List UInt8)}
    (taken : replies.Sublist [buildArpReply request ingress.localMac]) :
    ingress.Counted { ingress with
      stats := { ingress.stats with
        rxPackets := ingress.stats.rxPackets + 1
        rxBytes := ingress.stats.rxBytes + mbuf.pktLen.toNat
        arpRequestPackets := ingress.stats.arpRequestPackets + 1 }
      transmitted := ingress.transmitted ++ replies
      arpReplyPackets := ingress.arpReplyPackets + replies.length
      custody } [mbuf] := by
  have one : [mbuf].filterMap (·.request ingress.localIpBe) = [request] := by simp [asks]
  refine ⟨rfl, rfl, rfl, rfl, by simp, ?_, replies, rfl, rfl, ?_⟩
  · rw [one]
    rfl
  · rw [one]
    exact taken

/-- What one buffer does: to the counters, to the burst, and to the buffers held. -/
structure Polled (before after : DpdkIngress) (received : List RxMbuf)
    (datagrams : List UdpDatagramDesc) : Prop where
  counted : before.Counted after received
  passed : datagrams = received.filterMap (·.extractUdpDatagram before.localIpBe)
  rxPolls : after.stats.rxPolls = before.stats.rxPolls
  emptyPolls : after.stats.emptyPolls = before.stats.emptyPolls
  custody : ∀ addresses, before.custody.Holds (received.map RxMbuf.address ++ addresses) →
    after.custody.Holds (datagrams.map UdpDatagramDesc.cookie ++ addresses)

private theorem recvOne_polled (ingress : DpdkIngress) (mbuf : RxMbuf) :
    ingress.Polled (ingress.recvOne mbuf).1 [mbuf] (ingress.recvOne mbuf).2.toList := by
  cases asks : mbuf.request ingress.localIpBe with
  | none =>
      cases extracted : mbuf.extractUdpDatagram ingress.localIpBe with
      | none =>
          simp only [recvOne, maybeReplyArp, asks, extracted]
          exact ⟨ingress.counted_silent _ asks, by simp [extracted], rfl, rfl,
            fun _ holds => holds.give⟩
      | some datagram =>
          have cookie := RxMbuf.extractUdpDatagram_cookie extracted
          simp only [recvOne, maybeReplyArp, asks, extracted]
          refine ⟨ingress.counted_silent _ asks, by simp [extracted], rfl, rfl,
            fun _ holds => ?_⟩
          simpa [cookie] using holds
  | some request =>
      have nothing := RxMbuf.extractUdpDatagram_request asks
      obtain ⟨custody, returned, outcome⟩ := sendReply_outcome
        { ingress with
          stats := { ingress.stats with
            rxPackets := ingress.stats.rxPackets + 1
            rxBytes := ingress.stats.rxBytes + mbuf.pktLen.toNat
            arpRequestPackets := ingress.stats.arpRequestPackets + 1 } }
        mbuf.tx (buildArpReply request ingress.localMac)
      have given (addresses : List Nat)
          (holds : ingress.custody.Holds ([mbuf].map RxMbuf.address ++ addresses)) :
          (custody.give mbuf.address).Holds addresses := (returned _ holds).give
      simp only [recvOne, maybeReplyArp, asks]
      rcases outcome with unsent | sent
      · rw [unsent]
        refine ⟨?_, by simp [nothing], rfl, rfl, given⟩
        simpa [free] using
          ingress.counted_request (custody.give mbuf.address) asks (List.nil_sublist _)
      · rw [sent]
        exact ⟨ingress.counted_request _ asks (List.Sublist.refl _), by simp [nothing], rfl, rfl,
          given⟩

theorem Polled.trans {before between after : DpdkIngress} {first second : List RxMbuf}
    {one two : List UdpDatagramDesc} (early : before.Polled between first one)
    (late : between.Polled after second two) :
    before.Polled after (first ++ second) (one ++ two) := by
  refine ⟨early.counted.trans late.counted, ?_, late.rxPolls.trans early.rxPolls,
    late.emptyPolls.trans early.emptyPolls, fun addresses holds => ?_⟩
  · rw [early.passed, late.passed, early.counted.localIpBe, List.filterMap_append]
  · rw [List.map_append, List.append_assoc] at holds
    have middle := (early.custody _ holds).perm (List.perm_append_comm_assoc ..)
    rw [List.map_append, List.append_assoc]
    exact (late.custody _ middle).perm (List.perm_append_comm_assoc ..)

theorem Polled.refl (ingress : DpdkIngress) : ingress.Polled ingress [] [] :=
  ⟨⟨rfl, rfl, rfl, rfl, rfl, rfl, [], by simp, rfl, List.nil_sublist _⟩, rfl, rfl, rfl,
    fun _ holds => holds⟩

private theorem recvLoop_polled (received : List RxMbuf) (ingress : DpdkIngress)
    (datagrams : List UdpDatagramDesc) :
    ∃ new, (recvLoop received ingress datagrams).2 = datagrams ++ new ∧
      ingress.Polled (recvLoop received ingress datagrams).1 received new := by
  induction received generalizing ingress datagrams with
  | nil => exact ⟨[], (List.append_nil _).symm, .refl ingress⟩
  | cons mbuf rest ih =>
      obtain ⟨new, loop, later⟩ := ih (ingress.recvOne mbuf).1
        (datagrams ++ (ingress.recvOne mbuf).2.toList)
      rw [recvLoop_cons]
      refine ⟨(ingress.recvOne mbuf).2.toList ++ new, ?_, ?_⟩
      · rw [loop, List.append_assoc]
      · exact (ingress.recvOne_polled mbuf).trans later

/-- The datagrams of what a poll receives. -/
def burst (ingress : DpdkIngress) (maxBurst : Nat) (queue : List RxMbuf) :
    List UdpDatagramDesc :=
  (rxBurst maxBurst queue).filterMap (·.extractUdpDatagram ingress.localIpBe)

private theorem recvBurst_stopped {ingress : DpdkIngress} (stopped : ingress.started = false)
    (maxBurst : Nat) (queue : List RxMbuf) :
    recvBurst maxBurst queue ingress = (ingress, none) := by
  simp [recvBurst, stopped]

/-- A poll of a started backend holds the buffers of the burst and no others. -/
theorem recvBurst_started {ingress : DpdkIngress} (started : ingress.started = true)
    (maxBurst : Nat) (queue : List RxMbuf) : ∃ after,
      recvBurst maxBurst queue ingress = (after, some (ingress.burst maxBurst queue)) ∧
        ingress.Counted after (rxBurst maxBurst queue) ∧
        after.stats.rxPolls = ingress.stats.rxPolls + 1 ∧
        after.stats.emptyPolls = ingress.stats.emptyPolls +
          [rxBurst maxBurst queue].countP List.isEmpty ∧
        ∀ addresses, ingress.custody.Holds addresses → after.custody.Holds
          ((ingress.burst maxBurst queue).map UdpDatagramDesc.cookie ++ addresses) := by
  rw [recvBurst, if_pos started, burst]
  generalize rxBurst maxBurst queue = received
  let custody := (received.map RxMbuf.address).foldl Custody.take ingress.custody
  have taken (addresses : List Nat) (holds : ingress.custody.Holds addresses) :
      custody.Holds (received.map RxMbuf.address ++ addresses) := holds.takeAll _
  cases idle : received.isEmpty with
  | true =>
      rw [List.isEmpty_iff] at idle
      subst idle
      exact ⟨_, rfl, ⟨rfl, rfl, rfl, rfl, rfl, rfl, [], (List.append_nil _).symm, rfl,
        List.nil_sublist _⟩, rfl, rfl, fun _ holds => holds⟩
  | false =>
      let polling := { ingress with
        stats := { ingress.stats with rxPolls := ingress.stats.rxPolls + 1 }
        custody }
      have begun : ingress.Counted polling [] :=
        ⟨rfl, rfl, rfl, rfl, rfl, rfl, [], (List.append_nil _).symm, rfl, List.nil_sublist _⟩
      obtain ⟨new, loop, polled⟩ := recvLoop_polled received polling []
      have passed : (recvLoop received polling []).2 =
          received.filterMap (·.extractUdpDatagram ingress.localIpBe) := loop.trans polled.passed
      refine ⟨(recvLoop received polling []).1, ?_, begun.trans polled.counted, polled.rxPolls, ?_,
        fun addresses holds => ?_⟩
      · rw [← passed]
        exact if_neg (ne_true_of_eq_false idle)
      · simpa [idle] using polled.emptyPolls
      · have left := polled.custody addresses (taken addresses holds)
        rwa [polled.passed] at left

/-- Giving back a burst changes nothing but the buffers held. -/
theorem releaseBurst_eq {datagrams : List UdpDatagramDesc}
    (nonNull : ∀ datagram ∈ datagrams, datagram.cookie ≠ 0) (ingress : DpdkIngress) :
    releaseBurst datagrams ingress = { ingress with
      custody := (datagrams.map UdpDatagramDesc.cookie).foldl Custody.give ingress.custody } := by
  induction datagrams generalizing ingress with
  | nil => rfl
  | cons datagram rest ih =>
      obtain ⟨first, others⟩ := List.forall_mem_cons.mp nonNull
      rw [releaseBurst, List.foldl_cons, if_pos first]
      exact ih others (ingress.free datagram.cookie)

private theorem burst_nonNull {ingress : DpdkIngress} {maxBurst : Nat} {queue : List RxMbuf}
    {datagram : UdpDatagramDesc} (member : datagram ∈ ingress.burst maxBurst queue) :
    datagram.cookie ≠ 0 := by
  obtain ⟨mbuf, -, extracted⟩ := List.mem_filterMap.mp member
  rw [RxMbuf.extractUdpDatagram_cookie extracted]
  exact mbuf.nonNull

end DpdkIngress

/-! ## Runs of the backend -/

namespace DpdkIngress

/-- What the owner loop sees of a poll. -/
def received (ingress : DpdkIngress) (maxBurst : Nat) (poll : RxPoll (List RxMbuf)) : Received :=
  if ingress.started then .burst (ingress.burst maxBurst poll.waiting) poll.nowNs else .failed

/-- A run of polls, each of whose bursts was given back. -/
structure Drained (before after : DpdkIngress) (bursts : List (List RxMbuf)) : Prop where
  counted : before.Counted after bursts.flatten
  rxPolls : after.stats.rxPolls = before.stats.rxPolls + bursts.length
  emptyPolls : after.stats.emptyPolls = before.stats.emptyPolls + bursts.countP List.isEmpty
  custody : ∀ addresses, before.custody.Holds addresses → after.custody.Holds addresses

variable {before between after : DpdkIngress}

theorem Drained.refl (ingress : DpdkIngress) : ingress.Drained ingress [] :=
  ⟨(Polled.refl ingress).counted, rfl, rfl, fun _ holds => holds⟩

theorem Drained.trans {first second : List (List RxMbuf)} (early : before.Drained between first)
    (late : between.Drained after second) : before.Drained after (first ++ second) := by
  refine ⟨?_, ?_, ?_, fun addresses holds => late.custody _ (early.custody _ holds)⟩
  · rw [List.flatten_append]
    exact early.counted.trans late.counted
  · rw [late.rxPolls, early.rxPolls, List.length_append, Nat.add_assoc]
  · rw [late.emptyPolls, early.emptyPolls, List.countP_append, Nat.add_assoc]

/-- What a poll delivers is a matter of the configuration. -/
theorem Drained.received_eq {bursts : List (List RxMbuf)} (drained : before.Drained after bursts)
    (maxBurst : Nat) : after.received maxBurst = before.received maxBurst := by
  obtain ⟨ip, -, started, -⟩ := drained.counted
  funext poll
  rw [received, received, burst, burst, ip, started]

variable (maxBurst : Nat)

/-- What a run of polls receives; nothing from a device that is not started. -/
def bursts (ingress : DpdkIngress) (polls : List (RxPoll (List RxMbuf))) :
    List (List RxMbuf) :=
  if ingress.started then polls.map fun poll => rxBurst maxBurst poll.waiting else []

/-- One poll: the burst delivered is given back. -/
theorem serve_spec (poll : RxPoll (List RxMbuf)) (ingress : DpdkIngress) :
    (calls maxBurst).delivered poll ingress = ingress.received maxBurst poll ∧
      ingress.Drained ((calls maxBurst).serve poll ingress) (ingress.bursts maxBurst [poll]) := by
  rw [RxBackend.delivered, RxBackend.serve, received, bursts]
  change Received.ofBurst poll.nowNs (recvBurst maxBurst poll.waiting ingress).2 = _ ∧
    ingress.Drained (releaseBurst ((recvBurst maxBurst poll.waiting ingress).2.getD [])
      (recvBurst maxBurst poll.waiting ingress).1) _
  cases started : ingress.started with
  | false =>
      rw [recvBurst_stopped started]
      exact ⟨rfl, .refl ingress⟩
  | true =>
      obtain ⟨after, polled, counted, rxPolls, emptyPolls, custody⟩ :=
        recvBurst_started started maxBurst poll.waiting
      obtain ⟨ip, mac, running, packets, bytes, requests, replies⟩ := counted
      rw [polled]
      refine ⟨rfl, ?_⟩
      rw [Option.getD_some, releaseBurst_eq fun _ => burst_nonNull]
      refine ⟨?_, rxPolls, emptyPolls, fun addresses holds => (custody addresses holds).giveAll⟩
      rw [if_pos rfl, List.map_singleton, List.flatten_singleton]
      exact ⟨ip, mac, running, packets, bytes, requests, replies⟩

theorem run_spec (polls : List (RxPoll (List RxMbuf))) (ingress : DpdkIngress) :
    (calls maxBurst).deliveries polls ingress = polls.map (ingress.received maxBurst) ∧
      ingress.Drained (Machine.run (calls maxBurst).serve polls ingress)
        (ingress.bursts maxBurst polls) := by
  induction polls generalizing ingress with
  | nil =>
      refine ⟨rfl, ?_⟩
      rw [bursts, List.map_nil, ite_self]
      exact .refl ingress
  | cons poll rest ih =>
      obtain ⟨delivered, drained⟩ := serve_spec maxBurst poll ingress
      obtain ⟨deliveries, later⟩ := ih ((calls maxBurst).serve poll ingress)
      have step : (calls maxBurst).deliveries (poll :: rest) ingress =
          (calls maxBurst).delivered poll ingress ::
            (calls maxBurst).deliveries rest ((calls maxBurst).serve poll ingress) := rfl
      have more : ingress.bursts maxBurst (poll :: rest) = ingress.bursts maxBurst [poll] ++
          ((calls maxBurst).serve poll ingress).bursts maxBurst rest := by
        rw [bursts, bursts, bursts, drained.counted.started]
        cases ingress.started <;> rfl
      constructor
      · rw [step, delivered, deliveries, drained.received_eq, List.map_cons]
      · rw [more]
        exact drained.trans later

end DpdkIngress

/-- A run on the DPDK backend is a run on the datagrams extracted from the frames. At its
end every buffer received or allocated was freed or transmitted, once, and the counters
account for every frame and every reply of the polls that were made. -/
theorem dpdk_run_returns_every_mbuf (config : RxConfig)
    (allowedSourceIpv4Be receiverIpv4Be : Nat) (consumerSchedule clock : List Nat)
    (localIpBe : Nat) (localMac : Vector UInt8 6) (started : Bool) (maxBurst : Nat)
    (polls : List (RxPoll (List RxMbuf))) :
    let ingress : DpdkIngress := { localIpBe, localMac, started }
    let final := OwnerLoop.mainLoopOn (DpdkIngress.calls maxBurst)
      (UdpDatagramPipeline.ofConfig config allowedSourceIpv4Be receiverIpv4Be) polls
      ingress (OwnerLoop.start config consumerSchedule clock)
    final.2.shutdown = OwnerLoop.run config allowedSourceIpv4Be receiverIpv4Be consumerSchedule
        clock (polls.map (ingress.received maxBurst)) ∧
      final.1.custody = {} ∧
      ∃ served, served <+: polls ∧ ingress.Drained final.1 (ingress.bursts maxBurst served) := by
  intro ingress final
  obtain ⟨same, served, early, run⟩ := OwnerLoop.mainLoopOn_spec (DpdkIngress.calls maxBurst)
    (UdpDatagramPipeline.ofConfig config allowedSourceIpv4Be receiverIpv4Be) polls ingress
    (OwnerLoop.start config consumerSchedule clock)
  have drained := (DpdkIngress.run_spec maxBurst served ingress).2
  rw [(DpdkIngress.run_spec maxBurst polls ingress).1] at same
  rw [← run] at drained
  have returned : final.1.custody.Holds [] := drained.custody [] ⟨List.Perm.refl [], rfl⟩
  have empty : final.1.custody = {} := by
    obtain ⟨held, proper⟩ := returned
    cases state : final.1.custody
    rw [state] at held proper
    cases held.eq_nil
    cases proper
    rfl
  exact ⟨congrArg OwnerLoop.shutdown same, empty, served, early, drained⟩

end RxTech
