import RxTech.Ingress.DpdkDatagramAdapter
import RxTech.Protocol.DatagramProperties
import RxTech.Protocol.Ipv4Frame
import RxTech.Protocol.PacketPipeline

/-!
# The two frame decoders

On frames that are no fragments the payload assembler and the DPDK adapter read the
same datagrams, so the packet pipeline does what the datagram pipeline does behind the
adapter.
-/

set_option autoImplicit false

namespace RxTech

/-- The frame is no IPv4 frame, or its fragment field has MF = 0 and offset 0. -/
def PacketDesc.Unfragmented (packet : PacketDesc) : Prop :=
  ∀ data ∈ packet.data, 14 + 20 ≤ packet.len.toNat → readU16Be data 12 = kEtherTypeIpv4 →
    (data 14).toNat >>> 4 = 4 → PacketDesc.flagsAndOffset data &&& 0x3FFF = 0

private theorem land_of_land_mask {value mask other : Nat} (within : mask &&& other = other)
    (zero : value &&& mask = 0) : value &&& other = 0 := by
  rw [← within, ← Nat.and_assoc, zero, Nat.zero_and]

namespace PacketDesc

variable {packet : PacketDesc} {data : ByteView}

theorem Unfragmented.offset (unfragmented : packet.Unfragmented) (is : packet.data = some data)
    (checks : packet.IsIpv4 data) : (ipv4Packet data).fragmentOffsetBytes = 0 := by
  have zero := unfragmented data is checks.long checks.etherType checks.version
  simp only [ipv4Packet, land_of_land_mask (by decide : 0x3FFF &&& 0x1FFF = 0x1FFF) zero]
  rfl

theorem Unfragmented.last (unfragmented : packet.Unfragmented) (is : packet.data = some data)
    (checks : packet.IsIpv4 data) : (ipv4Packet data).moreFragments = false := by
  have zero := unfragmented data is checks.long checks.etherType checks.version
  simp only [ipv4Packet, land_of_land_mask (by decide : 0x3FFF &&& 0x2000 = 0x2000) zero]
  rfl

end PacketDesc

namespace UdpPayloadAssembler

/-- An unfragmented frame leaves the assembler alone. -/
theorem push_unfragmented (assembler : UdpPayloadAssembler) {packet : PacketDesc}
    (unfragmented : packet.Unfragmented) :
    assembler.push packet =
      some (assembler, (packet.readIpv4.bind Ipv4Packet.wholeFrame).toList) := by
  rcases packet.readIpv4_cases with none | ⟨data, is, checks, reads⟩
  · simp only [push, none]
    rfl
  · have whole := And.intro (unfragmented.offset is checks) (unfragmented.last is checks)
    simp only [push, reads, if_pos whole]
    rfl

end UdpPayloadAssembler

namespace DpdkDatagramAdapter

variable {packet : PacketDesc} {data : ByteView}

/-- The datagram that the adapter makes of a frame. -/
def datagramOf (packet : PacketDesc) (data : ByteView) : UdpDatagramDesc :=
  let ip := PacketDesc.ipv4Packet data
  { payloadData := some fun index => ip.ipPayload (8 + index)
    payloadLen := UInt32.ofNat (readU16Be ip.ipPayload 4 - 8)
    rawFrameData := some data
    rawFrameLen := packet.len
    srcIpv4Be := ip.sourceIpv4Be
    dstIpv4Be := ip.destIpv4Be
    srcPort := readU16Be ip.ipPayload 0
    dstPort := readU16Be ip.ipPayload 2
    tsNs := packet.tsNs
    queueId := packet.queueId
    cookie := packet.cookie
    backendKind := .dpdk }

theorem adaptIpv4_eq_some (checks : packet.IsIpv4 data)
    (whole : PacketDesc.flagsAndOffset data &&& 0x3FFF = 0)
    (udp : (PacketDesc.ipv4Packet data).HasUdp) :
    adaptIpv4 packet data = some (datagramOf packet data) := by
  obtain ⟨long, etherType, version, ihl, header, payload, total, protocol⟩ := checks
  obtain ⟨udpHeader, udpLength, udpPayload⟩ := udp
  simp only [PacketDesc.ihlWords, PacketDesc.totalLength] at ihl header payload total
  have first : ¬ (readU16Be data 12 ≠ kEtherTypeIpv4 ∨ packet.len.toNat < 14 + 20) := by
    rw [not_or, not_not]
    exact ⟨etherType, Nat.not_lt.mpr long⟩
  have second : ¬ ((data 14).toNat >>> 4 ≠ 4 ∨ (data 14).toNat &&& 0x0F < 5 ∨
      packet.len.toNat < 14 + ((data 14).toNat &&& 0x0F) * 4) := by omega
  have third : ¬ (readU16Be data 16 < ((data 14).toNat &&& 0x0F) * 4 ∨
      packet.len.toNat < 14 + readU16Be data 16) := by omega
  refine (if_neg first).trans ((if_neg second).trans ((if_neg third).trans ?_))
  refine (if_neg (not_not.mpr whole)).trans ((if_neg (not_not.mpr protocol)).trans ?_)
  refine (if_neg (Nat.not_lt.mpr udpHeader)).trans ((if_neg (not_or.mpr
    ⟨Nat.not_lt.mpr udpLength, Nat.not_lt.mpr udpPayload⟩)).trans ?_)
  simp only [datagramOf, PacketDesc.ipv4Packet, PacketDesc.ihlWords, Nat.add_assoc]
  rfl

theorem adaptIpv4_eq_none
    (fails : packet.IsIpv4 data → ¬ (PacketDesc.ipv4Packet data).HasUdp) :
    adaptIpv4 packet data = none := by
  simp only [adaptIpv4]
  split
  · rfl
  rename_i first
  split
  · rfl
  rename_i second
  split
  · rfl
  rename_i third
  split
  · rfl
  split
  · rfl
  rename_i protocol
  split
  · rfl
  rename_i header
  split
  · rfl
  rename_i length
  rw [not_or, not_not, Nat.not_lt] at first
  rw [not_or, not_or, not_not, Nat.not_lt, Nat.not_lt] at second
  rw [not_or, Nat.not_lt, Nat.not_lt] at third
  rw [not_or, Nat.not_lt, Nat.not_lt] at length
  have checks : packet.IsIpv4 data := ⟨first.2, first.1, second.1, second.2.1, second.2.2,
    third.1, third.2, not_not.mp protocol⟩
  exact absurd ⟨Nat.not_lt.mp header, length.1, length.2⟩ (fails checks)

/-- The adapter on a frame that is no fragment. -/
inductive Adapts (packet : PacketDesc) : Option UdpDatagramDesc → Prop where
  | refused (unread : packet.readIpv4.bind Ipv4Packet.wholeFrame = none) : Adapts packet none
  | adapted (frame : UdpPayloadFrame) (datagram : UdpDatagramDesc)
      (read : packet.readIpv4.bind Ipv4Packet.wholeFrame = some frame)
      (formed : isMalformedDescriptor datagram = false) (same : datagram.udpFrame = frame)
      (tsNs : datagram.tsNs = packet.tsNs) (queueId : datagram.queueId = packet.queueId) :
      Adapts packet (some datagram)

theorem adaptFrame_adapts (adapter : DpdkDatagramAdapter) (unfragmented : packet.Unfragmented)
    (stats : BackendStats) : Adapts packet (adapter.adaptFrame packet stats).2 := by
  cases is : packet.data with
  | none =>
      have refused : (adapter.adaptFrame packet stats).2 = none := by
        simp only [adaptFrame, is]
      have unread : packet.readIpv4 = none := by simp only [PacketDesc.readIpv4, is]
      rw [refused]
      exact .refused (by rw [unread]; rfl)
  | some data =>
      by_cases checks : packet.IsIpv4 data
      · have long : ¬ packet.len.toNat < 14 := by
          have := checks.long
          omega
        have noArp : ¬ readU16Be data 12 = kEtherTypeArp := by
          rw [checks.etherType]
          decide
        have adapts : (adapter.adaptFrame packet stats).2 = adaptIpv4 packet data := by
          simp only [adaptFrame, is]
          rw [if_neg noArp]
          exact congrArg Prod.snd (if_neg long)
        have reads := PacketDesc.readIpv4_eq_some is checks
        rw [adapts]
        by_cases udp : (PacketDesc.ipv4Packet data).HasUdp
        · have whole := unfragmented data is checks.long checks.etherType checks.version
          rw [adaptIpv4_eq_some checks whole udp]
          have fits : readU16Be (PacketDesc.ipv4Packet data).ipPayload 4 - 8 < UInt32.size :=
            Nat.lt_of_le_of_lt (Nat.sub_le ..) (Nat.lt_trans (readU16Be_lt ..) (by decide))
          refine .adapted _ (datagramOf packet data)
            (by rw [reads]; exact Ipv4Packet.wholeFrame_eq_some udp)
            (by simp [isMalformedDescriptor, datagramOf]) ?_ rfl rfl
          simp [UdpDatagramDesc.udpFrame, datagramOf, ByteView.bytes, UInt32.toNat_ofNat_of_lt' fits]
        · rw [adaptIpv4_eq_none fun _ => udp]
          exact .refused (by rw [reads]; exact Ipv4Packet.wholeFrame_eq_none udp)
      · have unread := PacketDesc.readIpv4_eq_none is checks
        have refused : (adapter.adaptFrame packet stats).2 = none := by
          have ipv4 := adaptIpv4_eq_none fun formed => absurd formed checks
          simp only [adaptFrame, is, ipv4]
          split
          · rfl
          split
          · split <;> rfl
          · rfl
        rw [refused]
        exact .refused (by rw [unread]; rfl)

end DpdkDatagramAdapter

/-! ## What is processed -/

namespace UdpDatagramPipeline

variable (pipeline : UdpDatagramPipeline) (metrics : MetricsCollector)

/-- Of a well-formed descriptor only the frame, the time stamp and the queue matter. -/
theorem processDatagram_congr {first second : UdpDatagramDesc}
    (formed : isMalformedDescriptor first = false) (formed' : isMalformedDescriptor second = false)
    (frame : first.udpFrame = second.udpFrame) (tsNs : first.tsNs = second.tsNs)
    (queueId : first.queueId = second.queueId) :
    pipeline.processDatagram first metrics = pipeline.processDatagram second metrics := by
  simp only [processDatagram, formed, formed', frame, tsNs, queueId]

end UdpDatagramPipeline

theorem UdpPayloadFrame.datagram_formed (frame : UdpPayloadFrame) (packet : PacketDesc) :
    isMalformedDescriptor (frame.datagram packet) = false := by
  by_cases empty : frame.udpPayload = []
  · simp [isMalformedDescriptor, datagram, empty]
  · simp [isMalformedDescriptor, datagram, empty]

/-- A payload that was read from a datagram is read again. -/
theorem UdpPayloadFrame.datagram_udpFrame {frame : UdpPayloadFrame}
    (fits : frame.udpPayload.length < 2 ^ 32) (packet : PacketDesc) :
    (frame.datagram packet).udpFrame = frame := by
  have length : (UInt32.ofNat frame.udpPayload.length).toNat = frame.udpPayload.length :=
    UInt32.toNat_ofNat_of_lt' fits
  by_cases empty : frame.udpPayload = []
  · cases frame with
    | mk udpPayload sourceIpv4Be destIpv4Be sourcePort destPort =>
        obtain rfl : udpPayload = [] := empty
        rfl
  · have payload : (List.range frame.udpPayload.length).map frame.data = frame.udpPayload := by
      refine List.ext_getElem (by simp) fun index _ inside => ?_
      simp [data, List.getElem?_eq_getElem inside]
    cases frame with
    | mk udpPayload sourceIpv4Be destIpv4Be sourcePort destPort =>
        simp only [UdpDatagramDesc.udpFrame, datagram, if_neg empty, Option.elim_some, length,
          payload]

/-- `adapt_frame`, and `process_datagram` if it returns true. -/
def DpdkDatagramAdapter.process (adapter : DpdkDatagramAdapter) (pipeline : UdpDatagramPipeline)
    (packet : PacketDesc) (stats : BackendStats) (metrics : MetricsCollector) :
    PacketProcessStats × MetricsCollector × Option ProcessedPacket :=
  match (adapter.adaptFrame packet stats).2 with
  | none => ({}, metrics, none)
  | some datagram => pipeline.processDatagram datagram metrics

/-- On every frame that is no fragment the assembler yields a frame exactly if the
adapter returns true, and both pipelines do the same. -/
theorem frame_decoders_agree (pipeline : UdpDatagramPipeline) (assembler : UdpPayloadAssembler)
    (adapter : DpdkDatagramAdapter) (packet : PacketDesc) (stats : BackendStats)
    (metrics : MetricsCollector) (unfragmented : packet.Unfragmented) :
    ∃ frames, assembler.push packet = some (assembler, frames) ∧
      ((adapter.adaptFrame packet stats).2 = none ↔ frames = []) ∧
      let result := adapter.process pipeline packet stats metrics
      PacketPipeline.processPacket ⟨assembler, pipeline⟩ packet metrics =
        some (⟨assembler, pipeline⟩, result.1, result.2.1, result.2.2.toList) := by
  have pushed := assembler.push_unfragmented unfragmented
  have adapts := adapter.adaptFrame_adapts unfragmented stats
  refine ⟨_, pushed, ?_, ?_⟩
  · generalize (adapter.adaptFrame packet stats).2 = adapted at adapts
    cases adapts with
    | refused unread => simp [unread]
    | adapted frame datagram read => simp [read]
  · simp only [PacketPipeline.processPacket, pushed, Option.map_some, DpdkDatagramAdapter.process]
    generalize (adapter.adaptFrame packet stats).2 = adapted at adapts
    cases adapts with
    | refused unread =>
        rw [unread]
        rfl
    | adapted frame datagram read formed same tsNs queueId =>
        have fits : frame.udpPayload.length < 2 ^ 32 := by
          rw [← same]
          exact datagram.udpPayload_length_lt
        have processed := pipeline.processDatagram_congr metrics
          (frame.datagram_formed packet) formed
          ((frame.datagram_udpFrame fits packet).trans same.symm) tsNs.symm queueId.symm
        simp only [read, Option.toList_some, PacketPipeline.processFrames, processed,
          PacketProcessStats.add, Nat.zero_add, List.append_nil]

/-- A padded frame with two bytes of payload. -/
theorem frame_decoders_agree_padded :
    let packet := ipv4Frame 0 0x4000 ([0x75, 0x31, 0x27, 0x0F, 0, 10, 0, 0, 0xAB, 0xCD] ++ [0, 0])
    let adapter : DpdkDatagramAdapter := ⟨0⟩
    let pipeline := UdpDatagramPipeline.ofConfig {} 0 0
    (adapter.adaptFrame packet {}).2.isSome = true ∧
      ∃ frames, UdpPayloadAssembler.push {} packet = some ({}, frames) ∧
        ((adapter.adaptFrame packet {}).2 = none ↔ frames = []) ∧
        let result := adapter.process pipeline packet {} {}
        PacketPipeline.processPacket ⟨{}, pipeline⟩ packet {} =
          some (⟨{}, pipeline⟩, result.1, result.2.1, result.2.2.toList) :=
  ⟨by decide +kernel, frame_decoders_agree _ {} _ _ {} {} fun data is _ _ _ => by
    cases is
    decide +kernel⟩

end RxTech
