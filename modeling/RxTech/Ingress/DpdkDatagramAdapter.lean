import RxTech.Protocol.DatagramPipeline
import RxTech.Protocol.UdpPayloadAssembler

/-!
# The DPDK datagram adapter

`DpdkDatagramAdapter::adapt_frame`, and the ARP requests that it counts.
-/

set_option autoImplicit false

namespace RxTech

/-- The members of `BackendStats` that are counted. -/
structure BackendStats where
  rxPackets : Nat := 0
  rxBytes : Nat := 0
  rxPolls : Nat := 0
  emptyPolls : Nat := 0
  arpRequestPackets : Nat := 0
  deriving DecidableEq, Repr

def kEtherTypeArp : Nat := 0x0806

def kHwTypeEthernet : Nat := 0x0001

def kProtoTypeIpv4 : Nat := 0x0800

def kOpcodeRequest : Nat := 0x0001

structure ArpRequestInfo where
  senderMac : List UInt8
  senderIpBe : Nat
  targetIpBe : Nat
  deriving DecidableEq, Repr

def parseArpRequest (frame : Option ByteView) (frameLen localIpBe : Nat) :
    Option ArpRequestInfo :=
  match frame with
  | none => none
  | some frame =>
      if frameLen < 42 then none
      else if readU16Be frame 12 ≠ kEtherTypeArp then none
      else if readU16Be frame 14 ≠ kHwTypeEthernet then none
      else if readU16Be frame 16 ≠ kProtoTypeIpv4 then none
      else if frame 18 ≠ 6 ∨ frame 19 ≠ 4 then none
      else if readU16Be frame 20 ≠ kOpcodeRequest then none
      else
        let targetIpBe := readU32Be frame 38
        if targetIpBe ≠ localIpBe then none
        else some
          { senderMac := frame.bytes 22 6
            senderIpBe := readU32Be frame 28
            targetIpBe }

structure DpdkDatagramAdapter where
  localIpBe : Nat

namespace DpdkDatagramAdapter

def kEthernetHeaderBytes : Nat := 14

def kIpv4MinimumHeaderBytes : Nat := 20

def kUdpHeaderBytes : Nat := 8

def kIpv4Version : Nat := 4

/-- `adapt_frame` on a frame that is no ARP packet. -/
def adaptIpv4 (packet : PacketDesc) (data : ByteView) : Option UdpDatagramDesc :=
  let etherType := readU16Be data 12
  if etherType ≠ kEtherTypeIpv4 ∨
      packet.len.toNat < kEthernetHeaderBytes + kIpv4MinimumHeaderBytes then none
  else
    let ipOffset := kEthernetHeaderBytes
    let versionIhl := (data ipOffset).toNat
    let version := versionIhl >>> 4
    let ihlWords := versionIhl &&& 0x0F
    let ipHeaderBytes := ihlWords * 4
    if version ≠ kIpv4Version ∨ ihlWords < 5 ∨ packet.len.toNat < ipOffset + ipHeaderBytes then
      none
    else
      let totalLength := readU16Be data (ipOffset + 2)
      if totalLength < ipHeaderBytes ∨ packet.len.toNat < ipOffset + totalLength then none
      else
        let flagsAndOffset := readU16Be data (ipOffset + 6)
        if flagsAndOffset &&& 0x3FFF ≠ 0 then none
        else if (data (ipOffset + 9)).toNat ≠ kIpProtoUdp then none
        else
          let udpHeader := ipOffset + ipHeaderBytes
          let ipPayloadBytes := totalLength - ipHeaderBytes
          if ipPayloadBytes < kUdpHeaderBytes then none
          else
            let udpLength := readU16Be data (udpHeader + 4)
            if udpLength < kUdpHeaderBytes ∨ ipPayloadBytes < udpLength then none
            else some
              { payloadData := some fun index => data (udpHeader + kUdpHeaderBytes + index)
                payloadLen := UInt32.ofNat (udpLength - kUdpHeaderBytes)
                rawFrameData := some data
                rawFrameLen := packet.len
                srcIpv4Be := readU32Be data (ipOffset + 12)
                dstIpv4Be := readU32Be data (ipOffset + 16)
                srcPort := readU16Be data udpHeader
                dstPort := readU16Be data (udpHeader + 2)
                tsNs := packet.tsNs
                queueId := packet.queueId
                cookie := packet.cookie
                backendKind := .dpdk }

/-- `DpdkDatagramAdapter::adapt_frame`; `none` is `false`. -/
def adaptFrame (adapter : DpdkDatagramAdapter) (packet : PacketDesc) (stats : BackendStats) :
    BackendStats × Option UdpDatagramDesc :=
  match packet.data with
  | none => (stats, none)
  | some data =>
      if packet.len.toNat < kEthernetHeaderBytes then (stats, none)
      else if readU16Be data 12 = kEtherTypeArp then
        match parseArpRequest packet.data packet.len.toNat adapter.localIpBe with
        | some _ => ({ stats with arpRequestPackets := stats.arpRequestPackets + 1 }, none)
        | none => (stats, none)
      else (stats, adaptIpv4 packet data)

end DpdkDatagramAdapter

end RxTech
