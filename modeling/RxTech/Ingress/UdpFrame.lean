import RxTech.Ingress.FrameDecoders
import RxTech.Library.InternetChecksum

/-!
# UDP frames

An Ethernet frame with an IPv4 header without options and a UDP header, as senders
build it, and what the receiver reads from it.
-/

set_option autoImplicit false

namespace RxTech

/-- The header fields that a sender chooses. -/
structure UdpFrameHeader where
  dstMac : Vector UInt8 6
  srcMac : Vector UInt8 6
  totalLength : UInt16
  identification : UInt16
  flagsAndOffset : UInt16
  ttl : UInt8
  headerChecksum : UInt16
  srcIpv4Be : UInt32
  dstIpv4Be : UInt32
  srcPort : UInt16
  dstPort : UInt16
  udpLength : UInt16
  udpChecksum : UInt16

def be16 (value : UInt16) : List UInt8 := [(value >>> 8).toUInt8, value.toUInt8]

def be32 (value : UInt32) : List UInt8 :=
  [(value >>> 24).toUInt8, (value >>> 16).toUInt8, (value >>> 8).toUInt8, value.toUInt8]

namespace UdpFrameHeader

variable (header : UdpFrameHeader) (payload : List UInt8)

def ipv4Header : List UInt8 :=
  [0x45, 0] ++ be16 header.totalLength ++ be16 header.identification ++
    be16 header.flagsAndOffset ++ [header.ttl, 17] ++ be16 header.headerChecksum ++
    be32 header.srcIpv4Be ++ be32 header.dstIpv4Be

def udpHeader : List UInt8 :=
  be16 header.srcPort ++ be16 header.dstPort ++ be16 header.udpLength ++ be16 header.udpChecksum

def frame : List UInt8 :=
  header.dstMac.toList ++ header.srcMac.toList ++
    ([0x08, 0x00] ++ header.ipv4Header ++ header.udpHeader ++ payload)

theorem frame_length : (header.frame payload).length = 42 + payload.length := by
  simp [frame, ipv4Header, udpHeader, be16, be32]
  omega

theorem ipv4Header_length : header.ipv4Header.length = 20 := rfl

/-! ## Where the bytes stand -/

/-- Behind the two MAC addresses. -/
theorem drop_macs : (header.frame payload).drop 12 =
    [0x08, 0x00] ++ (header.ipv4Header ++ (header.udpHeader ++ payload)) := by
  have macs : (header.dstMac.toList ++ header.srcMac.toList).length = 12 := by simp
  rw [frame, List.drop_left' macs, List.append_assoc, List.append_assoc]

/-- The IPv4 header stands behind the Ethernet header. -/
theorem drop_ethernet :
    (header.frame payload).drop 14 = header.ipv4Header ++ (header.udpHeader ++ payload) := by
  have further := congrArg (List.drop 2) (header.drop_macs payload)
  rw [List.drop_drop] at further
  exact further

private theorem drop_ipv4 : (header.frame payload).drop 34 = header.udpHeader ++ payload := by
  have further := congrArg (List.drop 20) (header.drop_ethernet payload)
  rw [List.drop_drop] at further
  exact further

private theorem drop_udp : (header.frame payload).drop 42 = payload := by
  have further := congrArg (List.drop 8) (header.drop_ipv4 payload)
  rw [List.drop_drop] at further
  exact further

theorem frame_ipv4Header : ((header.frame payload).drop 14).take 20 = header.ipv4Header := by
  rw [drop_ethernet, List.take_left' header.ipv4Header_length]

/-- The bytes of the frame behind a pointer. -/
def data : ByteView := fun offset => (header.frame payload).getD offset 0

variable {header payload}

private theorem data_drop {start : Nat} {rest : List UInt8}
    (behind : (header.frame payload).drop start = rest)
    (offset : Nat) : header.data payload (start + offset) = rest.getD offset 0 := by
  rw [data, ← behind, List.getD_eq_getElem?_getD, List.getD_eq_getElem?_getD, List.getElem?_drop]

private theorem data_ethernet (offset : Nat) : header.data payload (12 + offset) =
    ([0x08, 0x00] ++ (header.ipv4Header ++ (header.udpHeader ++ payload))).getD offset 0 :=
  data_drop (header.drop_macs payload) offset

private theorem data_ipv4 (offset : Nat) : header.data payload (14 + offset) =
    (header.ipv4Header ++ (header.udpHeader ++ payload)).getD offset 0 :=
  data_drop (header.drop_ethernet payload) offset

private theorem data_udp (offset : Nat) :
    header.data payload (34 + offset) = (header.udpHeader ++ payload).getD offset 0 :=
  data_drop (header.drop_ipv4 payload) offset

private theorem data_payload (offset : Nat) :
    header.data payload (42 + offset) = payload.getD offset 0 :=
  data_drop (header.drop_udp payload) offset

end UdpFrameHeader

/-- The lengths of the headers of a payload that fits a datagram do not wrap around. -/
theorem lengths_of_short {length : Nat} (short : length ≤ 65507) :
    (UInt16.ofNat (8 + length)).toNat = 8 + length ∧
      (UInt16.ofNat (20 + (8 + length))).toNat = 20 + (8 + length) :=
  ⟨UInt16.toNat_ofNat_of_lt' (by change _ < 65536; omega),
    UInt16.toNat_ofNat_of_lt' (by change _ < 65536; omega)⟩

theorem toNat_be16 (value : UInt16) :
    (value >>> 8).toUInt8.toNat * 2 ^ 8 + value.toUInt8.toNat = value.toNat := by
  have eight : (8 : UInt16).toNat % 16 = 8 := rfl
  have inside : value.toNat < 2 ^ 16 := value.toNat_lt
  rw [UInt16.toNat_toUInt8, UInt16.toNat_toUInt8, UInt16.toNat_shiftRight, eight,
    Nat.shiftRight_eq_div_pow]
  omega

theorem readU16Be_be16 {data : ByteView} {offset : Nat} {value : UInt16}
    (high : data offset = (value >>> 8).toUInt8) (low : data (offset + 1) = value.toUInt8) :
    readU16Be data offset = value.toNat := by
  rw [readU16Be, high, low]
  exact toNat_be16 value

theorem readU32Be_be32 {data : ByteView} {offset : Nat} {value : UInt32}
    (first : data offset = (value >>> 24).toUInt8)
    (second : data (offset + 1) = (value >>> 16).toUInt8)
    (third : data (offset + 2) = (value >>> 8).toUInt8)
    (fourth : data (offset + 3) = value.toUInt8) :
    readU32Be data offset = value.toNat := by
  have inside : value.toNat < 2 ^ 32 := value.toNat_lt
  have shifted (count : Nat) : value.toNat >>> count = value.toNat / 2 ^ count :=
    Nat.shiftRight_eq_div_pow ..
  have counts : (24 : UInt32).toNat % 32 = 24 ∧ (16 : UInt32).toNat % 32 = 16 ∧
      (8 : UInt32).toNat % 32 = 8 := ⟨rfl, rfl, rfl⟩
  rw [readU32Be, first, second, third, fourth]
  simp only [UInt32.toNat_toUInt8, UInt32.toNat_shiftRight, counts, shifted]
  omega

namespace UdpFrameHeader

/-- The lengths in the headers agree with each other and with the payload. -/
structure Sized (header : UdpFrameHeader) (payload : List UInt8) : Prop where
  udp : 8 ≤ header.udpLength.toNat
  total : 20 + header.udpLength.toNat ≤ header.totalLength.toNat
  frame : header.totalLength.toNat ≤ 28 + payload.length
  fits : 42 + payload.length < 2 ^ 32

variable {header : UdpFrameHeader} {payload : List UInt8}

theorem data_totalLength :
    PacketDesc.totalLength (header.data payload) = header.totalLength.toNat :=
  readU16Be_be16 (data_ipv4 2) (data_ipv4 3)

theorem data_flagsAndOffset :
    PacketDesc.flagsAndOffset (header.data payload) = header.flagsAndOffset.toNat :=
  readU16Be_be16 (data_ipv4 6) (data_ipv4 7)

theorem data_ihlWords : PacketDesc.ihlWords (header.data payload) = 5 := by
  have versionIhl : header.data payload 14 = 0x45 := data_ipv4 0
  rw [PacketDesc.ihlWords, versionIhl]
  rfl

theorem Sized.isIpv4 (sized : header.Sized payload) :
    (PacketDesc.ofBytes (header.frame payload)).IsIpv4 (header.data payload) := by
  obtain ⟨udp, total, inside, fits⟩ := sized
  have long : (PacketDesc.ofBytes (header.frame payload)).len.toNat = 42 + payload.length := by
    simp only [PacketDesc.ofBytes, header.frame_length]
    exact UInt32.toNat_ofNat_of_lt' fits
  have ihl := @data_ihlWords header payload
  have length := @data_totalLength header payload
  have etherType : readU16Be (header.data payload) 12 = kEtherTypeIpv4 := by
    rw [readU16Be, show header.data payload 12 = 0x08 from data_ethernet 0,
      show header.data payload (12 + 1) = 0x00 from data_ethernet 1]
    rfl
  have version : (header.data payload 14).toNat >>> 4 = 4 := by
    rw [show header.data payload 14 = 0x45 from data_ipv4 0]
    rfl
  have protocol : (header.data payload 23).toNat = kIpProtoUdp := by
    rw [show header.data payload 23 = 17 from data_ipv4 9]
    rfl
  exact ⟨by omega, etherType, version, by omega, by omega, by omega, by omega, protocol⟩

/-- What the receiver reads from a frame: the payload as far as the UDP length goes. -/
def read (header : UdpFrameHeader) (payload : List UInt8) : UdpPayloadFrame where
  udpPayload := payload.take (header.udpLength.toNat - 8)
  sourceIpv4Be := header.srcIpv4Be.toNat
  destIpv4Be := header.dstIpv4Be.toNat
  sourcePort := header.srcPort.toNat
  destPort := header.dstPort.toNat

/-- The IPv4 payload begins at the UDP header. -/
theorem ipv4Packet_ipPayload (offset : Nat) :
    (PacketDesc.ipv4Packet (header.data payload)).ipPayload offset =
      header.data payload (34 + offset) := by
  simp only [PacketDesc.ipv4Packet, data_ihlWords]

private theorem ipPayload_bytes {length : Nat} (inside : length ≤ payload.length) :
    (PacketDesc.ipv4Packet (header.data payload)).ipPayload.bytes 8 length =
      payload.take length := by
  refine List.ext_getElem (by simp [inside]) fun index inRange inTake => ?_
  rw [ByteView.bytes_length] at inRange
  have behind := @data_payload header payload index
  rw [List.getD_eq_getElem?_getD, List.getElem?_eq_getElem (by omega), Option.getD_some] at behind
  simp only [ByteView.bytes, List.getElem_map, List.getElem_range, List.getElem_take,
    ipv4Packet_ipPayload]
  rw [← Nat.add_assoc]
  exact behind

theorem Sized.reads (sized : header.Sized payload) :
    (PacketDesc.ofBytes (header.frame payload)).readIpv4.bind Ipv4Packet.wholeFrame =
      some (header.read payload) := by
  have isIpv4 := sized.isIpv4
  obtain ⟨udp, total, inside, fits⟩ := sized
  have behind := @ipv4Packet_ipPayload header payload
  have udpLength : readU16Be (PacketDesc.ipv4Packet (header.data payload)).ipPayload 4 =
      header.udpLength.toNat :=
    readU16Be_be16 ((behind 4).trans (data_udp 4)) ((behind 5).trans (data_udp 5))
  have sourcePort : readU16Be (PacketDesc.ipv4Packet (header.data payload)).ipPayload 0 =
      header.srcPort.toNat :=
    readU16Be_be16 ((behind 0).trans (data_udp 0)) ((behind 1).trans (data_udp 1))
  have destPort : readU16Be (PacketDesc.ipv4Packet (header.data payload)).ipPayload 2 =
      header.dstPort.toNat :=
    readU16Be_be16 ((behind 2).trans (data_udp 2)) ((behind 3).trans (data_udp 3))
  have source : (PacketDesc.ipv4Packet (header.data payload)).sourceIpv4Be =
      header.srcIpv4Be.toNat :=
    readU32Be_be32 (data_ipv4 12) (data_ipv4 13) (data_ipv4 14) (data_ipv4 15)
  have dest : (PacketDesc.ipv4Packet (header.data payload)).destIpv4Be =
      header.dstIpv4Be.toNat :=
    readU32Be_be32 (data_ipv4 16) (data_ipv4 17) (data_ipv4 18) (data_ipv4 19)
  have length : (PacketDesc.ipv4Packet (header.data payload)).ipPayloadLength =
      header.totalLength.toNat - 20 := by
    simp only [PacketDesc.ipv4Packet, data_ihlWords, data_totalLength]
  have hasUdp : (PacketDesc.ipv4Packet (header.data payload)).HasUdp :=
    ⟨by omega, by omega, by omega⟩
  rw [PacketDesc.readIpv4_eq_some rfl isIpv4, Option.bind_some,
    Ipv4Packet.wholeFrame_eq_some hasUdp, udpLength, sourcePort, destPort, source, dest,
    ipPayload_bytes (by omega)]
  rfl

/-- The fragment field is clear but for "don't fragment". -/
theorem unfragmented (clear : header.flagsAndOffset.toNat &&& 0x3FFF = 0) :
    (PacketDesc.ofBytes (header.frame payload)).Unfragmented := by
  intro data is _ _ _
  cases is
  exact data_flagsAndOffset.symm ▸ clear

theorem Sized.adapts (sized : header.Sized payload)
    (clear : header.flagsAndOffset.toNat &&& 0x3FFF = 0) (adapter : DpdkDatagramAdapter)
    (stats : BackendStats) :
    ∃ datagram, (adapter.adaptFrame (.ofBytes (header.frame payload)) stats).2 = some datagram ∧
      isMalformedDescriptor datagram = false ∧ datagram.udpFrame = header.read payload := by
  have adapts := adapter.adaptFrame_adapts (@unfragmented header payload clear) stats
  have reads := sized.reads
  generalize (adapter.adaptFrame (.ofBytes (header.frame payload)) stats).2 = adapted at adapts
  cases adapts with
  | refused unread => cases unread.symm.trans reads
  | adapted frame datagram read formed same =>
      have read : frame = header.read payload := Option.some.inj (read.symm.trans reads)
      exact ⟨datagram, rfl, formed, same.trans read⟩

/-! ## The header checksum -/

/-- The header with the checksum of its blank form adds up to all ones. -/
theorem ipv4Header_verifies
    (filled : header.headerChecksum.toNat =
      InternetChecksum.checksum { header with headerChecksum := 0 }.ipv4Header) :
    InternetChecksum.onesSum (InternetChecksum.words header.ipv4Header) = 0xFFFF := by
  let front := [0x45, 0] ++ be16 header.totalLength ++ be16 header.identification ++
    be16 header.flagsAndOffset ++ [header.ttl, 17]
  let back := be32 header.srcIpv4Be ++ be32 header.dstIpv4Be
  have zero : be16 0 = [0, 0] := rfl
  have field (headerChecksum : UInt16) :
      { header with headerChecksum }.ipv4Header = front ++ be16 headerChecksum ++ back := rfl
  have own : header.ipv4Header = front ++ be16 header.headerChecksum ++ back :=
    field header.headerChecksum
  have ten : front.length = 10 := rfl
  rw [field 0, zero, ← toNat_be16] at filled
  rw [own]
  exact InternetChecksum.onesSum_filled (ten ▸ rfl) filled

end UdpFrameHeader

end RxTech
