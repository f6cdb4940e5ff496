import RxTech.Protocol.WireGrammar
import RxTech.Sender.ProtocolSender

/-!
# From the sender to the receiver

The receiver reads from the sender's frames what the sender put into them.
-/

set_option autoImplicit false

namespace RxTech

namespace ProtocolSender

open LittleEndian (encode)

/-! ## Payloads -/

/-- The next field of a buffer that is zero behind its first fields. -/
theorem packInto_next {width value offset total count : Nat} (fits : value < 256 ^ width)
    {front : List UInt8} (at_front : front.length = offset) (room : width + count = total) :
    packInto width (front ++ List.replicate total 0) offset value =
      .ok (front ++ encode width value ++ List.replicate count 0) := by
  subst at_front room
  have inside : front.length + width ≤ (front ++ List.replicate (width + count) 0).length := by
    simp only [List.length_append, List.length_replicate]
    omega
  rw [packInto, if_pos ⟨fits, inside⟩, List.take_left, List.drop_append,
    List.drop_eq_nil_of_le (Nat.le_add_right ..), List.nil_append, Nat.add_sub_cancel_left,
    List.drop_replicate, Nat.add_sub_cancel_left]

/-- Overwriting the end of a buffer. -/
theorem assignRange_end {start stop count : Nat} {front : List UInt8}
    (at_front : front.length = start) (reaches : start + count = stop) (value other : UInt8) :
    assignRange (front ++ List.replicate count other) start stop value =
      front ++ List.replicate count value := by
  subst at_front reaches
  refine List.ext_getElem (by simp [assignRange]) fun index inside _ => ?_
  simp only [assignRange, List.getElem_mapIdx]
  simp only [assignRange, List.length_mapIdx, List.length_append, List.length_replicate] at inside
  by_cases early : index < front.length
  · rw [if_neg (by omega), List.getElem_append_left early, List.getElem_append_left early]
  · rw [if_pos (by omega), List.getElem_append_right (by omega), List.getElem_replicate]

def dataHeader (cpi channel prt packetIndex tail : Nat) : List UInt8 :=
  encode 4 magicData ++ encode 2 cpi ++ encode 2 channel ++ encode 2 prt ++
    encode 2 packetIndex ++ encode 4 tail

theorem dataHeader_length (cpi channel prt packetIndex tail : Nat) :
    (dataHeader cpi channel prt packetIndex tail).length = headerSize := by
  simp [dataHeader, headerSize]

/-- The samples of a packet, and the zeros behind them in the last one. -/
def dataBody (dataPattern : UInt8) (packetIndex packetsPerChannel udpPacketSize
    iqPerLastPacket : Nat) : List UInt8 :=
  if packetIndex = packetsPerChannel then
    List.replicate (iqPerLastPacket * iqBytes) dataPattern ++
      List.replicate (udpPacketSize - headerSize - iqPerLastPacket * iqBytes) 0
  else List.replicate (udpPacketSize - headerSize) dataPattern

/-- What fits the fields of a data packet. -/
structure Packs (cpi channel prt packetIndex : Nat) : Prop where
  cpi : cpi < 256 ^ 2
  channel : channel < 256 ^ 2
  prt : prt < 256 ^ 2
  packetIndex : packetIndex < 256 ^ 2

theorem makeDataPacketPayload_eq {cpi channel prt packetIndex packetsPerChannel udpPacketSize
    iqPerFullPacket iqPerLastPacket : Nat} (packs : Packs cpi channel prt packetIndex)
    (full : headerSize + iqPerFullPacket * iqBytes ≤ udpPacketSize)
    (last : headerSize + iqPerLastPacket * iqBytes ≤ udpPacketSize) :
    makeDataPacketPayload cpi channel prt packetIndex packetsPerChannel udpPacketSize
        iqPerFullPacket iqPerLastPacket =
      .ok (dataHeader cpi channel prt packetIndex
          (if packetIndex = packetsPerChannel then magicTail else 0) ++
        dataBody (UInt8.ofNat (cpi + channel + prt + packetIndex)) packetIndex packetsPerChannel
          udpPacketSize iqPerLastPacket) := by
  simp only [headerSize] at full last
  obtain ⟨count, rfl⟩ : ∃ count, udpPacketSize = 16 + count := ⟨udpPacketSize - 16, by omega⟩
  have magic := @packInto_next 4 magicData 0 (16 + count) (12 + count) (by decide) []
    rfl (by omega)
  have cpiPacked := @packInto_next 2 cpi 4 (12 + count) (10 + count) packs.cpi
    (encode 4 magicData) rfl (by omega)
  have channelPacked := @packInto_next 2 channel 6 (10 + count) (8 + count) packs.channel
    (encode 4 magicData ++ encode 2 cpi) rfl (by omega)
  have prtPacked := @packInto_next 2 prt 8 (8 + count) (6 + count) packs.prt
    (encode 4 magicData ++ encode 2 cpi ++ encode 2 channel) rfl (by omega)
  have indexPacked := @packInto_next 2 packetIndex 10 (6 + count) (4 + count) packs.packetIndex
    (encode 4 magicData ++ encode 2 cpi ++ encode 2 channel ++ encode 2 prt) rfl (by omega)
  have tailPacked (tail : Nat) (fits : tail < 256 ^ 4) :=
    @packInto_next 4 tail 12 (4 + count) count fits
      (encode 4 magicData ++ encode 2 cpi ++ encode 2 channel ++ encode 2 prt ++
        encode 2 packetIndex) rfl (by omega)
  have patterned (tail : Nat) := @assignRange_end 16 (16 + count) count
    (dataHeader cpi channel prt packetIndex tail) rfl rfl
    (UInt8.ofNat (cpi + channel + prt + packetIndex)) 0
  have long : ¬ 16 + count < 16 := by omega
  simp only [List.nil_append] at magic
  simp only [makeDataPacketPayload, headerSize, if_neg long, magic, cpiPacked, channelPacked,
    prtPacked, indexPacked, bind, Except.bind, pure, Except.pure]
  by_cases final : packetIndex = packetsPerChannel
  · have ended := tailPacked magicTail (by decide)
    have used : ¬ 16 + iqPerLastPacket * iqBytes > 16 + count := by omega
    simp only [if_pos final, ended]
    refine (if_neg used).trans (congrArg Except.ok ?_)
    apply (congrArg (assignRange · _ _ 0) (patterned magicTail)).trans
    have split : count = iqPerLastPacket * iqBytes + (count - iqPerLastPacket * iqBytes) := by
      omega
    have samples : (dataHeader cpi channel prt packetIndex magicTail ++
        List.replicate (iqPerLastPacket * iqBytes)
          (UInt8.ofNat (cpi + channel + prt + packetIndex))).length =
        16 + iqPerLastPacket * iqBytes := by
      rw [List.length_append, dataHeader_length, List.length_replicate, headerSize]
    have padded := @assignRange_end (16 + iqPerLastPacket * iqBytes) (16 + count)
      (count - iqPerLastPacket * iqBytes) _ samples (by omega) 0
      (UInt8.ofNat (cpi + channel + prt + packetIndex))
    rw [List.append_assoc, ← List.replicate_add, ← split] at padded
    rw [padded, dataBody, if_pos final, headerSize, Nat.add_sub_cancel_left, List.append_assoc]
  · have ended := tailPacked 0 (by decide)
    have used : ¬ 16 + iqPerFullPacket * iqBytes > 16 + count := by omega
    simp only [if_neg final, ended]
    refine (if_neg used).trans (congrArg Except.ok ?_)
    apply (patterned 0).trans
    rw [dataBody, if_neg final, headerSize, Nat.add_sub_cancel_left]

/-! ## Frames -/

private theorem packU16Be_eq {value : Nat} (fits : value < 2 ^ 16) :
    packU16Be value = .ok (be16 (UInt16.ofNat value)) := if_pos fits

private theorem udpChecksum_eq (srcIp dstIp : UInt32) {udpHeader payload : List UInt8}
    (fits : udpHeader.length + payload.length < 2 ^ 16) :
    ∃ udpCsum, udpChecksum srcIp dstIp udpHeader payload = .ok udpCsum ∧ udpCsum < 2 ^ 16 := by
  simp only [udpChecksum, packU16Be_eq fits]
  refine ⟨_, rfl, ?_⟩
  split
  · exact InternetChecksum.checksum_lt _
  · decide

private theorem packUdpHeader_eq {srcPort dstPort udpLength udpCsum : Nat} (src : srcPort < 2 ^ 16)
    (dst : dstPort < 2 ^ 16) (length : udpLength < 2 ^ 16) (csum : udpCsum < 2 ^ 16) :
    packUdpHeader srcPort dstPort udpLength udpCsum =
      .ok (be16 (UInt16.ofNat srcPort) ++ be16 (UInt16.ofNat dstPort) ++
        be16 (UInt16.ofNat udpLength) ++ be16 (UInt16.ofNat udpCsum)) := by
  simp only [packUdpHeader, packU16Be_eq src, packU16Be_eq dst, packU16Be_eq length,
    packU16Be_eq csum]
  rfl

private theorem packIpHeader_eq {totalLength ipCsum : Nat} (sequence : Nat) (srcIp dstIp : UInt32)
    (length : totalLength < 2 ^ 16) (csum : ipCsum < 2 ^ 16) :
    packIpHeader totalLength sequence ipCsum srcIp dstIp =
      .ok ([0x45, 0] ++ be16 (UInt16.ofNat totalLength) ++
        be16 (UInt16.ofNat (sequence % 2 ^ 16)) ++ be16 0 ++ [64, 17] ++
        be16 (UInt16.ofNat ipCsum) ++ be32 srcIp ++ be32 dstIp) := by
  have masked : sequence % 2 ^ 16 < 2 ^ 16 := Nat.mod_lt _ (by decide)
  simp only [packIpHeader, packU16Be_eq length, packU16Be_eq csum, packU16Be_eq masked]
  rfl

section Frame

variable {dstMac srcMac : Vector UInt8 6} {srcIpText dstIpText : String} {srcIp dstIp : UInt32}
  {srcPort dstPort sequence : Nat} {payload : List UInt8}

/-- The headers of `build_udp_frame`, whatever the checksums. -/
def frameHeader (dstMac srcMac : Vector UInt8 6) (srcIp dstIp : UInt32)
    (srcPort dstPort sequence length ipCsum udpCsum : Nat) : UdpFrameHeader where
  dstMac
  srcMac
  totalLength := UInt16.ofNat (20 + (8 + length))
  identification := UInt16.ofNat (sequence % 2 ^ 16)
  flagsAndOffset := 0
  ttl := 64
  headerChecksum := UInt16.ofNat ipCsum
  srcIpv4Be := srcIp
  dstIpv4Be := dstIp
  srcPort := UInt16.ofNat srcPort
  dstPort := UInt16.ofNat dstPort
  udpLength := UInt16.ofNat (8 + length)
  udpChecksum := UInt16.ofNat udpCsum

theorem buildUdpFrame_eq (srcIs : inetAton srcIpText = .ok srcIp)
    (dstIs : inetAton dstIpText = .ok dstIp) (src : srcPort < 2 ^ 16) (dst : dstPort < 2 ^ 16)
    (fits : payload.length ≤ 65507) :
    ∃ ipCsum udpCsum,
      buildUdpFrame dstMac srcMac srcIpText dstIpText srcPort dstPort payload sequence =
        .ok ((frameHeader dstMac srcMac srcIp dstIp srcPort dstPort sequence payload.length ipCsum
          udpCsum).frame payload) ∧
      ipCsum = InternetChecksum.checksum (frameHeader dstMac srcMac srcIp dstIp srcPort dstPort
        sequence payload.length 0 udpCsum).ipv4Header := by
  have short : 8 + payload.length < 2 ^ 16 := by omega
  have total : 20 + (8 + payload.length) < 2 ^ 16 := by omega
  obtain ⟨udpCsum, summed, csumFits⟩ := @udpChecksum_eq srcIp dstIp
    (be16 (UInt16.ofNat srcPort) ++ be16 (UInt16.ofNat dstPort) ++
      be16 (UInt16.ofNat (8 + payload.length)) ++ be16 (UInt16.ofNat 0)) payload short
  have checked (data : List UInt8) := packIpHeader_eq sequence srcIp dstIp total
    (InternetChecksum.checksum_lt data)
  let blank := frameHeader dstMac srcMac srcIp dstIp srcPort dstPort sequence payload.length 0 0
  have even : ¬ blank.ipv4Header.length % 2 = 1 := by
    rw [blank.ipv4Header_length]
    decide
  have unpadded : ipv4Checksum blank.ipv4Header = InternetChecksum.checksum blank.ipv4Header :=
    congrArg InternetChecksum.checksum (if_neg even)
  refine ⟨ipv4Checksum blank.ipv4Header, udpCsum, ?_, unpadded⟩
  simp only [buildUdpFrame, srcIs, dstIs, packUdpHeader_eq src dst short (by decide : 0 < 2 ^ 16),
    packUdpHeader_eq src dst short csumFits, summed,
    packIpHeader_eq sequence srcIp dstIp total (by decide : 0 < 2 ^ 16), ipv4Checksum, checked, bind,
    Except.bind, pure, Except.pure]
  simp only [UdpFrameHeader.frame, List.append_assoc]
  rfl

/-- The header of a frame that `build_udp_frame` makes adds up to all ones. -/
theorem buildUdpFrame_header_verifies (srcIs : inetAton srcIpText = .ok srcIp)
    (dstIs : inetAton dstIpText = .ok dstIp) (src : srcPort < 2 ^ 16) (dst : dstPort < 2 ^ 16)
    (fits : payload.length ≤ 65507) :
    ∃ frame, buildUdpFrame dstMac srcMac srcIpText dstIpText srcPort dstPort payload sequence =
        .ok frame ∧
      InternetChecksum.onesSum (InternetChecksum.words ((frame.drop 14).take 20)) = 0xFFFF := by
  obtain ⟨ipCsum, udpCsum, built, summed⟩ := @buildUdpFrame_eq dstMac srcMac srcIpText dstIpText
    srcIp dstIp srcPort dstPort sequence payload srcIs dstIs src dst fits
  refine ⟨_, built, ?_⟩
  rw [UdpFrameHeader.frame_ipv4Header]
  apply UdpFrameHeader.ipv4Header_verifies
  have small : ipCsum < 2 ^ 16 := summed ▸ InternetChecksum.checksum_lt _
  exact (UInt16.toNat_ofNat_of_lt' small).trans summed

theorem frameHeader_sized (fits : payload.length ≤ 65507) (ipCsum udpCsum : Nat) :
    (frameHeader dstMac srcMac srcIp dstIp srcPort dstPort sequence payload.length ipCsum
      udpCsum).Sized payload := by
  obtain ⟨udp, total⟩ := lengths_of_short fits
  refine ⟨?_, ?_, ?_, by omega⟩ <;> simp only [frameHeader, udp, total] <;> omega

theorem frameHeader_read (src : srcPort < 2 ^ 16) (dst : dstPort < 2 ^ 16)
    (fits : payload.length ≤ 65507) (ipCsum udpCsum : Nat) :
    (frameHeader dstMac srcMac srcIp dstIp srcPort dstPort sequence payload.length ipCsum
        udpCsum).read payload =
      { udpPayload := payload
        sourceIpv4Be := srcIp.toNat
        destIpv4Be := dstIp.toNat
        sourcePort := srcPort
        destPort := dstPort } := by
  obtain ⟨udp, -⟩ := lengths_of_short fits
  have srcPort : (UInt16.ofNat srcPort).toNat = srcPort := UInt16.toNat_ofNat_of_lt' src
  have dstPort : (UInt16.ofNat dstPort).toNat = dstPort := UInt16.toNat_ofNat_of_lt' dst
  simp only [frameHeader, UdpFrameHeader.read, udp, srcPort, dstPort, Nat.add_sub_cancel_left,
    List.take_length]

end Frame

end ProtocolSender

/-! ## The round trip -/

/-- A configuration without an address filter whose counts the receiver keeps. -/
structure RxConfig.Receives (config : RxConfig) (udpPacketSize channels packets : Nat) : Prop where
  size : config.protocolUdpPacketSize = udpPacketSize
  channels : config.protocolChannelsPerPrt = channels
  packets : config.protocolPacketsPerChannel = packets
  source : config.allowedSourceIpv4 = ""
  receiver : config.receiverIpv4 = ""
  port : config.allowedDestPort = 0

theorem RxConfig.Receives.counts {config : RxConfig} {udpPacketSize channels packets : Nat}
    (receives : config.Receives udpPacketSize channels packets)
    (someChannels : 0 < channels ∧ channels ≤ 4) (somePackets : 0 < packets ∧ packets ≤ 9) :
    (protocolSpecFromConfig config).channelsPerPrt = channels ∧
      (protocolSpecFromConfig config).packetsPerChannel = packets := by
  obtain ⟨-, rfl, rfl, -, -, -⟩ := receives
  exact ⟨if_pos someChannels, if_pos somePackets⟩

theorem RxConfig.Receives.matches {config : RxConfig} {udpPacketSize channels packets : Nat}
    (receives : config.Receives udpPacketSize channels packets)
    (allowedSourceIpv4Be receiverIpv4Be : Nat) (frame : UdpPayloadFrame) :
    (UdpDatagramPipeline.ofConfig config allowedSourceIpv4Be receiverIpv4Be).matchesPacketFilter
      frame = true := by
  simp [UdpDatagramPipeline.matchesPacketFilter, UdpDatagramPipeline.ofConfig, receives.source,
    receives.receiver, receives.port]

/-- A data packet that the sender can be asked for. -/
structure ProtocolSender.Request (channels packets : Nat) (cpi channel prt packetIndex : Nat) :
    Prop where
  channels_le : channels ≤ 4
  packets_le : packets ≤ 9
  cpi : cpi < 2 ^ 16
  prt : prt < 2 ^ 16
  channel : channel < channels
  packetIndex_pos : 1 ≤ packetIndex
  packetIndex_le : packetIndex ≤ packets

namespace ProtocolSender

private theorem dataBody_length (dataPattern : UInt8) (packetIndex packets : Nat)
    {udpPacketSize : Nat}
    (long : 2048 ≤ udpPacketSize) :
    (dataBody dataPattern packetIndex packets udpPacketSize defaultIqPerLastPacket).length =
      udpPacketSize - 16 := by
  simp only [dataBody, headerSize, defaultIqPerLastPacket, iqBytes]
  split
  · rw [List.length_append, List.length_replicate, List.length_replicate]
    omega
  · exact List.length_replicate

private theorem dataBody_padding (dataPattern : UInt8) (packets udpPacketSize : Nat) :
    ∀ byte ∈ (dataBody dataPattern packets packets udpPacketSize defaultIqPerLastPacket).drop 1904,
      byte = 0 := by
  intro byte member
  have used : (List.replicate (defaultIqPerLastPacket * iqBytes) dataPattern).length = 1904 :=
    List.length_replicate
  rw [dataBody, if_pos rfl, List.drop_left' used] at member
  exact List.eq_of_mem_replicate member

theorem Request.sendable {config : RxConfig} {udpPacketSize channels packets cpi channel prt
    packetIndex : Nat} (receives : config.Receives udpPacketSize channels packets)
    (request : Request channels packets cpi channel prt packetIndex)
    (long : 2048 ≤ udpPacketSize) :
    Sendable (protocolSpecFromConfig config) channel prt packetIndex
      (if packetIndex = packets then magicTail else 0)
      (dataBody (UInt8.ofNat (cpi + channel + prt + packetIndex)) packetIndex packets
        udpPacketSize defaultIqPerLastPacket) := by
  obtain ⟨channels_le, packets_le, cpiFits, prtFits, channelIn, packetPos, packetIn⟩ := request
  obtain ⟨channelsAre, packetsAre⟩ :=
    receives.counts ⟨by omega, channels_le⟩ ⟨by omega, packets_le⟩
  have length := dataBody_length (UInt8.ofNat (cpi + channel + prt + packetIndex)) packetIndex
    packets long
  constructor
  · rw [channelsAre]
    exact channelIn
  · exact prtFits
  · exact packetPos
  · rw [packetsAre]
    exact packetIn
  · rw [packetsAre]
    split
    · rename_i last
      exact .inr ⟨rfl, last⟩
    · exact .inl rfl
  · rw [length, ← receives.size]
    rfl
  · rw [packetsAre]
    rintro rfl
    exact ⟨by omega, dataBody_padding _ _ _⟩

theorem dataHeader_append (config : RxConfig) {cpi : Nat} (fits : cpi < 2 ^ 16)
    (channel prt packetIndex tail : Nat) (body : List UInt8) :
    dataHeader cpi channel prt packetIndex tail ++ body =
      dataPayload (protocolSpecFromConfig config) (UInt16.ofNat cpi) channel prt packetIndex tail
        body := by
  have same : (UInt16.ofNat cpi).toNat = cpi := UInt16.toNat_ofNat_of_lt' fits
  simp only [dataHeader, dataPayload, same, List.append_assoc]
  rfl

end ProtocolSender

/-- Every data packet of the sender is accepted by the receiver behind the adapter,
with its fields and its payload. -/
theorem sender_frame_round_trip (config : RxConfig) (udpPacketSize channels packets : Nat)
    (receives : config.Receives udpPacketSize channels packets)
    (size : 2048 ≤ udpPacketSize ∧ udpPacketSize ≤ 65507) (cpi channel prt packetIndex : Nat)
    (request : ProtocolSender.Request channels packets cpi channel prt packetIndex)
    (dstMac srcMac : Vector UInt8 6) (srcIpText dstIpText : String) (srcIp dstIp : UInt32)
    (srcIs : ProtocolSender.inetAton srcIpText = .ok srcIp)
    (dstIs : ProtocolSender.inetAton dstIpText = .ok dstIp) (srcPort dstPort sequence : Nat)
    (ports : srcPort < 2 ^ 16 ∧ dstPort < 2 ^ 16) (allowedSourceIpv4Be receiverIpv4Be : Nat)
    (adapter : DpdkDatagramAdapter) (stats : BackendStats) (metrics : MetricsCollector) :
    let pipeline := UdpDatagramPipeline.ofConfig config allowedSourceIpv4Be receiverIpv4Be
    ∃ payload frame datagram processed,
      ProtocolSender.makeDataPacketPayload cpi channel prt packetIndex packets udpPacketSize
          ProtocolSender.defaultIqPerFullPacket ProtocolSender.defaultIqPerLastPacket =
        .ok payload ∧
      ProtocolSender.buildUdpFrame dstMac srcMac srcIpText dstIpText srcPort dstPort payload
          sequence = .ok frame ∧
      (adapter.adaptFrame (.ofBytes frame) stats).2 = some datagram ∧
      (pipeline.processDatagram datagram metrics).2.2 = some processed ∧
      processed.interpreted.kind = .dataPacket ∧
      processed.interpreted.cpi.toNat = cpi ∧ processed.interpreted.channel = channel ∧
      processed.interpreted.prt = prt ∧ processed.interpreted.packetIndex = packetIndex ∧
      (processed.parsed.tail = pipeline.spec.magicTail ↔ packetIndex = packets) ∧
      processed.udpFrame.udpPayload = payload := by
  intro pipeline
  obtain ⟨long, short⟩ := size
  have sendable := request.sendable receives long
  have constants := protocolSpecFromConfig_fromConfig config
  have formed := protocolSpecFromConfig_wellFormed config
  have packs : ProtocolSender.Packs cpi channel prt packetIndex := by
    obtain ⟨channels_le, packets_le, cpiFits, prtFits, channelIn, -, packetIn⟩ := request
    exact ⟨cpiFits, by omega, prtFits, by omega⟩
  have made := @ProtocolSender.makeDataPacketPayload_eq cpi channel prt packetIndex packets
    udpPacketSize ProtocolSender.defaultIqPerFullPacket ProtocolSender.defaultIqPerLastPacket packs
    long (Nat.le_trans (by decide) long)
  rw [ProtocolSender.dataHeader_append config request.cpi] at made
  have wire := sendable.wirePayload constants formed (UInt16.ofNat cpi)
  have decoded := @Sendable.decoded _ _ _ _ _ _ sendable constants formed (UInt16.ofNat cpi)
  generalize dataPayload (protocolSpecFromConfig config) (UInt16.ofNat cpi) channel prt
    packetIndex _ _ = payload at made wire decoded
  have fits : payload.length ≤ 65507 := by
    have length := wire.length
    have sized : (protocolSpecFromConfig config).udpPacketSize = udpPacketSize := receives.size
    omega
  obtain ⟨ipCsum, udpCsum, built, -⟩ := @ProtocolSender.buildUdpFrame_eq dstMac srcMac srcIpText
    dstIpText srcIp dstIp srcPort dstPort sequence payload srcIs dstIs ports.1 ports.2 fits
  have sized := @ProtocolSender.frameHeader_sized dstMac srcMac srcIp dstIp srcPort dstPort
    sequence payload fits ipCsum udpCsum
  have clear : (0 : UInt16).toNat &&& 0x3FFF = 0 := by decide
  obtain ⟨datagram, adapts, descriptor, framed⟩ := sized.adapts clear adapter stats
  rw [ProtocolSender.frameHeader_read ports.1 ports.2 fits] at framed
  have carried : datagram.udpFrame.udpPayload = payload := congrArg (·.udpPayload) framed
  have handed := UdpDatagramPipeline.processDatagram_handed_iff metrics descriptor
    (receives.matches allowedSourceIpv4Be receiverIpv4Be datagram.udpFrame)
  rw [UdpDatagramPipeline.not_refuses_iff constants formed datagram.udpPayload_length_lt, carried]
    at handed
  obtain ⟨processed, delivered⟩ := Option.isSome_iff_exists.mp (handed.mpr wire)
  have frame := UdpDatagramPipeline.processDatagram_frame delivered
  have decodes := (UdpDatagramPipeline.processDatagram_passed delivered).decodes constants
  have payloadIs : processed.udpFrame.udpPayload = payload := by rw [frame, carried]
  rw [payloadIs] at decodes
  obtain ⟨kind, cpiIs, channelIs, prtIs, indexIs, tailIs⟩ := decoded decodes
  refine ⟨payload, _, datagram, processed, made, built, adapts, delivered, ?_, ?_, ?_, ?_, ?_, ?_,
    payloadIs⟩
  · exact decodes.kind.trans kind
  · rw [decodes.interpretedCpi, cpiIs]
    exact UInt16.toNat_ofNat_of_lt' request.cpi
  · exact decodes.interpretedChannel.trans channelIs
  · exact decodes.interpretedPrt.trans prtIs
  · exact decodes.interpretedIndex.trans indexIs
  · rw [tailIs]
    split
    · rename_i last
      exact iff_of_true rfl last
    · rename_i other
      exact iff_of_false (fun marked => absurd marked.symm formed.tail_ne_zero) other

/-- The last packet of a channel in the shortest datagram. -/
theorem sender_frame_round_trip_last :
    let config : RxConfig := { protocolChannelsPerPrt := 2, protocolPacketsPerChannel := 3 }
    let pipeline := UdpDatagramPipeline.ofConfig config 0 0
    ∃ payload frame datagram processed,
      ProtocolSender.makeDataPacketPayload 65535 1 0 3 3 2048
          ProtocolSender.defaultIqPerFullPacket ProtocolSender.defaultIqPerLastPacket =
        .ok payload ∧
      ProtocolSender.buildUdpFrame (.replicate 6 0xFF) #v[2, 0, 0, 0, 0, 1] "172.20.11.222" "10.1"
          30001 9999 payload 70000 = .ok frame ∧
      (DpdkDatagramAdapter.adaptFrame ⟨0⟩ (.ofBytes frame) {}).2 = some datagram ∧
      (pipeline.processDatagram datagram {}).2.2 = some processed ∧
      processed.interpreted.kind = .dataPacket ∧
      processed.interpreted.cpi.toNat = 65535 ∧ processed.interpreted.channel = 1 ∧
      processed.interpreted.prt = 0 ∧ processed.interpreted.packetIndex = 3 ∧
      (processed.parsed.tail = pipeline.spec.magicTail ↔ 3 = 3) ∧
      processed.udpFrame.udpPayload = payload :=
  sender_frame_round_trip { protocolChannelsPerPrt := 2, protocolPacketsPerChannel := 3 } 2048 2 3
    ⟨rfl, rfl, rfl, rfl, rfl, rfl⟩ (by decide) 65535 1 0 3
    ⟨by decide, by decide, by decide, by decide, by decide, by decide, by decide⟩
    (.replicate 6 0xFF) #v[2, 0, 0, 0, 0, 1] "172.20.11.222" "10.1" 0xAC140BDE 0x0A000001
    (by decide +kernel) (by decide +kernel) 30001 9999 70000 (by decide) 0 0 ⟨0⟩ {} {}

end RxTech
