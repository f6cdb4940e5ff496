import RxTech.Core.BurstIndependence
import RxTech.Ingress.DpdkIngress

/-!
# Frames that arrive

The DPDK backend reads nothing behind the end of a frame, so the datagram that it makes of
a buffer is that of the frame in it.
-/

set_option autoImplicit false

namespace RxTech

/-! ## Bytes that are not read -/

/-- Two pointers to the same `length` bytes. -/
def ByteView.Agrees (data other : ByteView) (length : Nat) : Prop :=
  ∀ offset < length, data offset = other offset

namespace ByteView.Agrees

variable {data other : ByteView} {length : Nat}

theorem readU16Be (agrees : data.Agrees other length) (offset : Nat)
    (inside : offset + 2 ≤ length) : readU16Be data offset = RxTech.readU16Be other offset := by
  rw [RxTech.readU16Be, RxTech.readU16Be, agrees offset (Nat.lt_of_lt_of_le (by omega) inside),
    agrees (offset + 1) inside]

theorem readU32Be (agrees : data.Agrees other length) (offset : Nat)
    (inside : offset + 4 ≤ length) : readU32Be data offset = RxTech.readU32Be other offset := by
  have byte (index : Nat) (early : index < 4) : data (offset + index) = other (offset + index) :=
    agrees (offset + index) (Nat.lt_of_lt_of_le (Nat.add_lt_add_left early offset) inside)
  have first : data offset = other offset := byte 0 (by decide)
  rw [RxTech.readU32Be, RxTech.readU32Be, first, byte 1 (by decide), byte 2 (by decide),
    byte 3 (by decide)]

theorem bytes (agrees : data.Agrees other length) {start count : Nat}
    (inside : start + count ≤ length) : data.bytes start count = other.bytes start count := by
  refine List.map_congr_left fun index member => agrees _ ?_
  exact Nat.lt_of_lt_of_le (Nat.add_lt_add_left (List.mem_range.mp member) start) inside

end ByteView.Agrees

/-- The UDP datagram of an IPv4 packet lies in the packet's payload. -/
theorem Ipv4Packet.wholeFrame_congr {packet other : Ipv4Packet}
    (source : packet.sourceIpv4Be = other.sourceIpv4Be)
    (dest : packet.destIpv4Be = other.destIpv4Be)
    (length : packet.ipPayloadLength = other.ipPayloadLength)
    (agrees : packet.ipPayload.Agrees other.ipPayload packet.ipPayloadLength) :
    packet.wholeFrame = other.wholeFrame := by
  rw [wholeFrame, wholeFrame, ← length]
  by_cases short : packet.ipPayloadLength < 8
  · rw [if_pos short, if_pos short]
  · rw [if_neg short, if_neg short, agrees.readU16Be 4 (by omega)]
    by_cases bad : readU16Be other.ipPayload 4 < 8 ∨
        packet.ipPayloadLength < readU16Be other.ipPayload 4
    · exact (if_pos bad).trans (if_pos bad).symm
    · refine (if_neg bad).trans (Eq.trans ?_ (if_neg bad).symm)
      rw [source, dest, agrees.readU16Be 0 (by omega),
        agrees.readU16Be 2 (by omega), agrees.bytes (by omega)]

namespace PacketDesc

variable {packet : PacketDesc} {data other : ByteView}

theorem IsIpv4.congr (checks : packet.IsIpv4 data)
    (agrees : data.Agrees other packet.len.toNat) : packet.IsIpv4 other := by
  obtain ⟨long, etherType, version, ihl, header, payload, total, protocol⟩ := checks
  have words : ihlWords data = ihlWords other := by rw [ihlWords, ihlWords, agrees 14 (by omega)]
  have sized : totalLength data = totalLength other := agrees.readU16Be _ (by omega)
  rw [words] at ihl header payload
  rw [sized] at payload total
  rw [agrees.readU16Be _ (by omega)] at etherType
  rw [agrees 14 (by omega)] at version
  rw [agrees 23 (by omega)] at protocol
  exact ⟨long, etherType, version, ihl, header, payload, total, protocol⟩

theorem IsIpv4.wholeFrame_congr (checks : packet.IsIpv4 data)
    (agrees : data.Agrees other packet.len.toNat) :
    (ipv4Packet data).wholeFrame = (ipv4Packet other).wholeFrame := by
  obtain ⟨long, -, -, ihl, header, payload, total, -⟩ := checks
  have words : ihlWords data = ihlWords other := by rw [ihlWords, ihlWords, agrees 14 (by omega)]
  have sized : totalLength data = totalLength other := agrees.readU16Be _ (by omega)
  refine Ipv4Packet.wholeFrame_congr (agrees.readU32Be _ (by omega))
    (agrees.readU32Be _ (by omega)) ?_ fun index inside => ?_
  · simp only [ipv4Packet, words, sized]
  · simp only [ipv4Packet] at inside ⊢
    rw [← words]
    exact agrees _ (by omega)

/-- Reading a frame reads nothing behind its end. -/
theorem readIpv4_congr {twin : PacketDesc} (is : packet.data = some data)
    (isTwin : twin.data = some other) (length : packet.len = twin.len)
    (agrees : data.Agrees other packet.len.toNat) :
    packet.readIpv4.bind Ipv4Packet.wholeFrame = twin.readIpv4.bind Ipv4Packet.wholeFrame := by
  have back : other.Agrees data packet.len.toNat := fun offset inside =>
    (agrees offset inside).symm
  have relabel (bytes : ByteView) : packet.IsIpv4 bytes ↔ twin.IsIpv4 bytes := by
    constructor
    · rintro ⟨long, etherType, version, ihl, header, payload, total, protocol⟩
      rw [length] at long header total
      exact ⟨long, etherType, version, ihl, header, payload, total, protocol⟩
    · rintro ⟨long, etherType, version, ihl, header, payload, total, protocol⟩
      rw [← length] at long header total
      exact ⟨long, etherType, version, ihl, header, payload, total, protocol⟩
  by_cases checks : packet.IsIpv4 data
  · have twinChecks : twin.IsIpv4 other := (relabel other).mp (checks.congr agrees)
    rw [readIpv4_eq_some is checks, readIpv4_eq_some isTwin twinChecks]
    exact checks.wholeFrame_congr agrees
  · have twinFails : ¬ twin.IsIpv4 other := fun passes =>
      checks (((relabel other).mpr passes).congr back)
    rw [readIpv4_eq_none is checks, readIpv4_eq_none isTwin twinFails]

end PacketDesc

/-! ## Frames in buffers -/

/-- A run of the owner loop on the DPDK backend is one on the bursts of its polls. -/
theorem OwnerLoop.mainLoopOn_run (config : RxConfig) (allowedSourceIpv4Be receiverIpv4Be : Nat)
    (consumerSchedule clock : List Nat) (maxBurst : Nat) (polls : List (RxPoll (List RxMbuf)))
    (ingress : DpdkIngress) :
    (mainLoopOn (DpdkIngress.calls maxBurst)
      (.ofConfig config allowedSourceIpv4Be receiverIpv4Be) polls ingress
      (start config consumerSchedule clock)).2.shutdown =
    run config allowedSourceIpv4Be receiverIpv4Be consumerSchedule clock
      (polls.map (ingress.received maxBurst)) := by
  have same := (mainLoopOn_spec (DpdkIngress.calls maxBurst)
    (.ofConfig config allowedSourceIpv4Be receiverIpv4Be) polls ingress
    (start config consumerSchedule clock)).1
  rw [(DpdkIngress.run_spec maxBurst polls ingress).1] at same
  exact congrArg shutdown same

/-- The datagrams of the polls of a device that is started. -/
theorem DpdkIngress.datagramsReceived_polls {ingress : DpdkIngress}
    (started : ingress.started = true) (maxBurst : Nat) (polls : List (RxPoll (List RxMbuf))) :
    datagramsReceived (polls.map (ingress.received maxBurst)) =
      (ingress.bursts maxBurst polls).flatten.filterMap
        (·.extractUdpDatagram ingress.localIpBe) := by
  rw [bursts, if_pos started]
  induction polls with
  | nil => rfl
  | cons poll rest ih =>
      rw [List.map_cons, received, if_pos started, datagramsReceived, ih, List.map_cons,
        List.flatten_cons, List.filterMap_append, burst]

/-- The buffer holds the frame, with anything behind it. -/
structure RxMbuf.Carries (mbuf : RxMbuf) (frame : List UInt8) : Prop where
  length : mbuf.pktLen.toNat = frame.length
  bytes : mbuf.data.Agrees (fun offset => frame.getD offset 0) frame.length

/-- A buffer with nothing behind the frame. -/
def RxMbuf.ofFrame (frame : List UInt8) : RxMbuf where
  address := 1
  nonNull := Nat.one_ne_zero
  data := fun offset => frame.getD offset 0
  pktLen := UInt32.ofNat frame.length

/-- One frame in each poll. -/
def RxPoll.ofFrame (frame : List UInt8) : RxPoll (List RxMbuf) := ⟨[.ofFrame frame], 0⟩

theorem DpdkIngress.bursts_ofFrames {ingress : DpdkIngress} (started : ingress.started = true)
    {maxBurst : Nat} (pos : 0 < maxBurst) {frames : List (List UInt8)}
    (fits : ∀ frame ∈ frames, frame.length < 2 ^ 32) :
    List.Forall₂ RxMbuf.Carries (ingress.bursts maxBurst (frames.map RxPoll.ofFrame)).flatten
      frames := by
  rw [bursts, if_pos started, List.map_map]
  induction frames with
  | nil => exact .nil
  | cons frame rest ih =>
      obtain ⟨short, later⟩ := List.forall_mem_cons.mp fits
      have one : rxBurst maxBurst (RxPoll.ofFrame frame).waiting = [.ofFrame frame] :=
        List.take_of_length_le (Nat.le_min.mpr ⟨pos, Nat.le_of_ble_eq_true rfl⟩)
      have holds : (RxMbuf.ofFrame frame).Carries frame :=
        ⟨UInt32.toNat_ofNat_of_lt' short, fun _ _ => rfl⟩
      rw [List.map_cons, List.flatten_cons, Function.comp_apply, one, List.singleton_append]
      exact .cons holds (ih later)

variable {header : UdpFrameHeader} {payload : List UInt8}

/-- The datagram of a frame that is no fragment is taken from its buffer. -/
theorem RxMbuf.Carries.extracts {mbuf : RxMbuf} (carries : mbuf.Carries (header.frame payload))
    (sized : header.Sized payload) (clear : header.flagsAndOffset.toNat &&& 0x3FFF = 0)
    (localIpBe : Nat) : ∃ datagram, mbuf.extractUdpDatagram localIpBe = some datagram ∧
      isMalformedDescriptor datagram = false ∧ datagram.udpFrame = header.read payload := by
  let packet : PacketDesc :=
    { data := some mbuf.data
      len := mbuf.pktLen
      tsNs := mbuf.tsNs
      queueId := 0
      cookie := mbuf.address }
  have long : 42 ≤ mbuf.pktLen.toNat := by
    rw [carries.length, header.frame_length]
    exact Nat.le_add_right 42 payload.length
  have agrees : mbuf.data.Agrees (header.data payload) mbuf.pktLen.toNat := by
    rw [carries.length]
    exact carries.bytes
  have same : (PacketDesc.ofBytes (header.frame payload)).len = packet.len := by
    apply UInt32.toNat_inj.mp
    rw [carries.length]
    apply UInt32.toNat_ofNat_of_lt'
    rw [header.frame_length]
    exact sized.fits
  have reads : packet.readIpv4.bind Ipv4Packet.wholeFrame = some (header.read payload) := by
    rw [← sized.reads]
    exact PacketDesc.readIpv4_congr rfl rfl same.symm agrees
  have unfragmented : packet.Unfragmented := by
    intro data is _ _ _
    cases is
    have field : PacketDesc.flagsAndOffset mbuf.data =
        PacketDesc.flagsAndOffset (header.data payload) := agrees.readU16Be _ (by omega)
    rw [field, UdpFrameHeader.data_flagsAndOffset]
    exact clear
  have adapts := DpdkDatagramAdapter.adaptFrame_adapts { localIpBe } unfragmented {}
  rw [extractUdpDatagram]
  generalize (DpdkDatagramAdapter.adaptFrame { localIpBe } packet {}).2 = adapted at adapts ⊢
  cases adapts with
  | refused unread => cases unread.symm.trans reads
  | adapted frame datagram read formed framed =>
      exact ⟨datagram, rfl, formed, framed.trans (Option.some.inj (read.symm.trans reads))⟩

end RxTech
