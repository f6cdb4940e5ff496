import RxTech.Ingress.UdpFrame
import RxTech.Library.InternetChecksum

/-!
# The frame builder

`build_eth_frame`: a payload behind Ethernet, IPv4 and UDP headers.
-/

set_option autoImplicit false

namespace RxTech

structure FrameConfig where
  srcMac : Vector UInt8 6 := #v[0x02, 0x00, 0x00, 0x00, 0x00, 0x01]
  dstMac : Vector UInt8 6 := #v[0xFF, 0xFF, 0xFF, 0xFF, 0xFF, 0xFF]
  srcIpv4Be : UInt32 := 0xAC140BDE
  dstIpv4Be : UInt32 := 0xAC140B64
  srcPort : UInt16 := 30001
  dstPort : UInt16 := 9999
  deriving DecidableEq, Repr

def ipv4Checksum (hdr : List UInt8) : UInt16 := UInt16.ofNat (InternetChecksum.checksum hdr)

/-- `build_eth_frame`; the lengths in the headers wrap around. -/
def buildEthFrame (payload : List UInt8) (cfg : FrameConfig) (seq : UInt16) : List UInt8 :=
  let udpLength := UInt16.ofNat (8 + payload.length)
  let ipTotal := UInt16.ofNat (20 + udpLength.toNat)
  let ethHeader := cfg.dstMac.toList ++ cfg.srcMac.toList ++ [0x08, 0x00]
  let ipHeader := [0x45, 0x00] ++ be16 ipTotal ++ be16 seq ++ [0x40, 0x00, 0x40, 0x11, 0x00, 0x00] ++
    be32 cfg.srcIpv4Be ++ be32 cfg.dstIpv4Be
  let ipcsum := ipv4Checksum ipHeader
  let ipHeader := (ipHeader.set 10 (ipcsum >>> 8).toUInt8).set 11 ipcsum.toUInt8
  let udpHeader := be16 cfg.srcPort ++ be16 cfg.dstPort ++ be16 udpLength ++ [0x00, 0x00]
  ethHeader ++ ipHeader ++ udpHeader ++ payload

namespace FrameConfig

/-- The headers of `build_eth_frame`. -/
def header (cfg : FrameConfig) (length : Nat) (seq ipcsum : UInt16) : UdpFrameHeader where
  dstMac := cfg.dstMac
  srcMac := cfg.srcMac
  totalLength := UInt16.ofNat (20 + (UInt16.ofNat (8 + length)).toNat)
  identification := seq
  flagsAndOffset := 0x4000
  ttl := 0x40
  headerChecksum := ipcsum
  srcIpv4Be := cfg.srcIpv4Be
  dstIpv4Be := cfg.dstIpv4Be
  srcPort := cfg.srcPort
  dstPort := cfg.dstPort
  udpLength := UInt16.ofNat (8 + length)
  udpChecksum := 0

/-- The frame that a receiver should read. -/
def udpFrame (cfg : FrameConfig) (payload : List UInt8) : UdpPayloadFrame where
  udpPayload := payload
  sourceIpv4Be := cfg.srcIpv4Be.toNat
  destIpv4Be := cfg.dstIpv4Be.toNat
  sourcePort := cfg.srcPort.toNat
  destPort := cfg.dstPort.toNat

end FrameConfig

namespace FrameConfig

private theorem header_blank (cfg : FrameConfig) (length : Nat) (seq : UInt16) :
    [0x45, 0x00] ++ be16 (UInt16.ofNat (20 + (UInt16.ofNat (8 + length)).toNat)) ++ be16 seq ++
      [0x40, 0x00, 0x40, 0x11, 0x00, 0x00] ++ be32 cfg.srcIpv4Be ++ be32 cfg.dstIpv4Be =
      (cfg.header length seq 0).ipv4Header := by
  have dontFragment : be16 0x4000 = [0x40, 0x00] := rfl
  have noChecksum : be16 0 = [0x00, 0x00] := rfl
  simp [UdpFrameHeader.ipv4Header, header, dontFragment, noChecksum]

theorem header_filled (cfg : FrameConfig) (length : Nat) (seq before ipcsum : UInt16) :
    ((cfg.header length seq before).ipv4Header.set 10 (ipcsum >>> 8).toUInt8).set 11 ipcsum.toUInt8 =
      (cfg.header length seq ipcsum).ipv4Header := rfl

end FrameConfig

/-- The checksum that `build_eth_frame` fills in. -/
def FrameConfig.ipcsum (cfg : FrameConfig) (length : Nat) (seq : UInt16) : UInt16 :=
  ipv4Checksum (cfg.header length seq 0).ipv4Header

theorem buildEthFrame_frame (payload : List UInt8) (cfg : FrameConfig) (seq : UInt16) :
    buildEthFrame payload cfg seq =
      (cfg.header payload.length seq (cfg.ipcsum payload.length seq)).frame payload := by
  have noChecksum : be16 0 = [0x00, 0x00] := rfl
  simp only [buildEthFrame, cfg.header_blank, cfg.header_filled]
  simp only [UdpFrameHeader.frame, UdpFrameHeader.udpHeader, FrameConfig.header, noChecksum,
    List.append_assoc, FrameConfig.ipcsum]

theorem buildEthFrame_eq (payload : List UInt8) (cfg : FrameConfig) (seq : UInt16) :
    ∃ ipcsum, buildEthFrame payload cfg seq =
      (cfg.header payload.length seq ipcsum).frame payload :=
  ⟨_, buildEthFrame_frame payload cfg seq⟩

section Short

variable {cfg : FrameConfig} {payload : List UInt8} {seq ipcsum : UInt16}

theorem FrameConfig.header_lengths (short : payload.length ≤ 65507) :
    (cfg.header payload.length seq ipcsum).udpLength.toNat = 8 + payload.length ∧
      (cfg.header payload.length seq ipcsum).totalLength.toNat = 28 + payload.length := by
  obtain ⟨udp, total⟩ := lengths_of_short short
  refine ⟨udp, ?_⟩
  simp only [header, udp]
  omega

theorem FrameConfig.header_sized (short : payload.length ≤ 65507) :
    (cfg.header payload.length seq ipcsum).Sized payload := by
  obtain ⟨udp, total⟩ := @header_lengths cfg payload seq ipcsum short
  constructor <;> omega

theorem FrameConfig.header_read (short : payload.length ≤ 65507) :
    (cfg.header payload.length seq ipcsum).read payload = cfg.udpFrame payload := by
  obtain ⟨udp, -⟩ := @header_lengths cfg payload seq ipcsum short
  simp only [UdpFrameHeader.read, udp, Nat.add_sub_cancel_left, List.take_length]
  rfl

end Short

/-- The receiver reads a payload that fits a datagram as it is. -/
theorem buildEthFrame_reads {payload : List UInt8} (short : payload.length ≤ 65507)
    (cfg : FrameConfig) (seq : UInt16) :
    (PacketDesc.ofBytes (buildEthFrame payload cfg seq)).readIpv4.bind Ipv4Packet.wholeFrame =
      some (cfg.udpFrame payload) := by
  obtain ⟨ipcsum, built⟩ := buildEthFrame_eq payload cfg seq
  have reads := (@FrameConfig.header_sized cfg payload seq ipcsum short).reads
  rwa [FrameConfig.header_read short, ← built] at reads

theorem buildEthFrame_unfragmented (payload : List UInt8) (cfg : FrameConfig) (seq : UInt16) :
    (PacketDesc.ofBytes (buildEthFrame payload cfg seq)).Unfragmented := by
  obtain ⟨ipcsum, built⟩ := buildEthFrame_eq payload cfg seq
  rw [built]
  exact UdpFrameHeader.unfragmented (by decide : (0x4000 : UInt16).toNat &&& 0x3FFF = 0)

end RxTech
