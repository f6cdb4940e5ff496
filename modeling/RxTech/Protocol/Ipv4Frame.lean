import RxTech.Protocol.UdpPayloadAssembler

/-!
# IPv4 frames

What a frame has to satisfy for `push` to read an IPv4 packet from it, and which one.
-/

set_option autoImplicit false

namespace RxTech

namespace PacketDesc

def ihlWords (data : ByteView) : Nat := (data 14).toNat &&& 0x0F

def totalLength (data : ByteView) : Nat := readU16Be data 16

def flagsAndOffset (data : ByteView) : Nat := readU16Be data 20

/-- The checks of the Ethernet and IPv4 headers. -/
structure IsIpv4 (packet : PacketDesc) (data : ByteView) : Prop where
  long : 14 + 20 ≤ packet.len.toNat
  etherType : readU16Be data 12 = kEtherTypeIpv4
  version : (data 14).toNat >>> 4 = 4
  ihl : 5 ≤ ihlWords data
  header : 14 + ihlWords data * 4 ≤ packet.len.toNat
  payload : ihlWords data * 4 ≤ totalLength data
  total : 14 + totalLength data ≤ packet.len.toNat
  protocol : (data 23).toNat = kIpProtoUdp

/-- The IPv4 packet in a frame that passes the checks. -/
def ipv4Packet (data : ByteView) : Ipv4Packet where
  sourceIpv4Be := readU32Be data 26
  destIpv4Be := readU32Be data 30
  identification := readU16Be data 18
  protocol := (data 23).toNat
  moreFragments := decide (flagsAndOffset data &&& 0x2000 ≠ 0)
  fragmentOffsetBytes := u16 ((flagsAndOffset data &&& 0x1FFF) * 8)
  ipPayload := fun index => data (14 + ihlWords data * 4 + index)
  ipPayloadLength := totalLength data - ihlWords data * 4

variable {packet : PacketDesc} {data : ByteView}

theorem readIpv4_eq_some (is : packet.data = some data) (checks : packet.IsIpv4 data) :
    packet.readIpv4 = some (ipv4Packet data) := by
  obtain ⟨long, etherType, version, ihl, header, payload, total, protocol⟩ := checks
  simp only [ihlWords, totalLength] at ihl header payload total
  have bad : ¬ ((data 14).toNat >>> 4 ≠ 4 ∨ (data 14).toNat &&& 0x0F < 5 ∨
      packet.len.toNat < 14 + ((data 14).toNat &&& 0x0F) * 4) := by omega
  have short : ¬ (packet.len.toNat < 14 + readU16Be data 16 ∨
      readU16Be data 16 < ((data 14).toNat &&& 0x0F) * 4) := by omega
  simp only [readIpv4, is]
  rw [if_neg (Nat.not_lt.mpr long), if_neg (not_not.mpr etherType), if_neg bad, if_neg short,
    if_neg (not_not.mpr protocol)]
  rfl

theorem readIpv4_eq_none (is : packet.data = some data) (fails : ¬ packet.IsIpv4 data) :
    packet.readIpv4 = none := by
  simp only [readIpv4, is]
  split
  · rfl
  rename_i long
  split
  · rfl
  rename_i etherType
  split
  · rfl
  rename_i header
  split
  · rfl
  rename_i total
  split
  · rfl
  rename_i protocol
  rw [not_or, not_or, not_not, Nat.not_lt, Nat.not_lt] at header
  rw [not_or, Nat.not_lt, Nat.not_lt] at total
  exact absurd ⟨Nat.not_lt.mp long, not_not.mp etherType, header.1, header.2.1, header.2.2,
    total.2, total.1, not_not.mp protocol⟩ fails

/-- The outcome of reading the headers of a frame. -/
theorem readIpv4_cases (packet : PacketDesc) :
    packet.readIpv4 = none ∨ ∃ data, packet.data = some data ∧ packet.IsIpv4 data ∧
      packet.readIpv4 = some (ipv4Packet data) := by
  cases is : packet.data with
  | none =>
      exact .inl (by simp only [readIpv4, is])
  | some data =>
      by_cases checks : packet.IsIpv4 data
      · exact .inr ⟨data, rfl, checks, readIpv4_eq_some is checks⟩
      · exact .inl (readIpv4_eq_none is checks)

end PacketDesc

theorem readU16Be_lt (data : ByteView) (offset : Nat) : readU16Be data offset < 2 ^ 16 := by
  have high := (data offset).toNat_lt
  have low := (data (offset + 1)).toNat_lt
  simp only [readU16Be]
  omega

@[simp] theorem ByteView.bytes_length (data : ByteView) (start length : Nat) :
    (data.bytes start length).length = length := by
  simp [bytes]

namespace Ipv4Packet

/-- The UDP header fits the packet. -/
structure HasUdp (packet : Ipv4Packet) : Prop where
  header : 8 ≤ packet.ipPayloadLength
  length : 8 ≤ readU16Be packet.ipPayload 4
  payload : readU16Be packet.ipPayload 4 ≤ packet.ipPayloadLength

theorem wholeFrame_eq_some {packet : Ipv4Packet} (udp : packet.HasUdp) :
    packet.wholeFrame = some
      { sourceIpv4Be := packet.sourceIpv4Be
        destIpv4Be := packet.destIpv4Be
        sourcePort := readU16Be packet.ipPayload 0
        destPort := readU16Be packet.ipPayload 2
        udpPayload := packet.ipPayload.bytes 8 (readU16Be packet.ipPayload 4 - 8) } := by
  have inside : ¬ (readU16Be packet.ipPayload 4 < 8 ∨
      packet.ipPayloadLength < readU16Be packet.ipPayload 4) := by
    have := udp.length
    have := udp.payload
    omega
  rw [wholeFrame, if_neg (Nat.not_lt.mpr udp.header)]
  exact if_neg inside

theorem wholeFrame_eq_none {packet : Ipv4Packet} (fails : ¬ packet.HasUdp) :
    packet.wholeFrame = none := by
  simp only [wholeFrame]
  split
  · rfl
  rename_i header
  split
  · rfl
  rename_i length
  rw [not_or, Nat.not_lt, Nat.not_lt] at length
  exact absurd ⟨Nat.not_lt.mp header, length.1, length.2⟩ fails

end Ipv4Packet

namespace FragmentAssembly

/-! ## The fields after `store` -/

variable (assembly : FragmentAssembly) (packet : Ipv4Packet)

theorem store_pieces : (assembly.store packet).pieces =
    Function.update assembly.pieces packet.fragmentOffsetBytes
      (some (packet.ipPayload.bytes 0 packet.ipPayloadLength)) := by
  simp only [store]
  split <;> split <;> rfl

variable {assembly packet}

theorem store_of_header (header : packet.fragmentOffsetBytes = 0 ∧ packet.ipPayloadLength ≥ 8) :
    (assembly.store packet).hasUdpHeader = true ∧
      (assembly.store packet).sourcePort = readU16Be packet.ipPayload 0 ∧
      (assembly.store packet).destPort = readU16Be packet.ipPayload 2 ∧
      (assembly.store packet).udpLength = readU16Be packet.ipPayload 4 := by
  simp only [store, if_pos header]
  split <;> exact ⟨rfl, rfl, rfl, rfl⟩

theorem store_of_no_header
    (later : ¬ (packet.fragmentOffsetBytes = 0 ∧ packet.ipPayloadLength ≥ 8)) :
    (assembly.store packet).hasUdpHeader = assembly.hasUdpHeader ∧
      (assembly.store packet).sourcePort = assembly.sourcePort ∧
      (assembly.store packet).destPort = assembly.destPort ∧
      (assembly.store packet).udpLength = assembly.udpLength := by
  simp only [store, if_neg later]
  split <;> exact ⟨rfl, rfl, rfl, rfl⟩

theorem store_of_last (last : packet.moreFragments = false) :
    (assembly.store packet).hasTotalLength = true ∧
      (assembly.store packet).totalPayloadLength =
        u16 (packet.fragmentOffsetBytes + packet.ipPayloadLength) := by
  simp only [store, if_pos last]
  exact ⟨trivial, trivial⟩

theorem store_of_more (more : packet.moreFragments = true) :
    (assembly.store packet).hasTotalLength = assembly.hasTotalLength ∧
      (assembly.store packet).totalPayloadLength = assembly.totalPayloadLength := by
  simp only [store, more, Bool.true_eq_false, if_false]
  split <;> exact ⟨rfl, rfl⟩

end FragmentAssembly

/-! ## A frame for each payload -/

/-- A frame with a 20-byte header for UDP from 10.0.0.1 to 10.0.0.2. -/
def ipv4FrameBytes (identification flagsAndOffset : Nat) (ipPayload : List UInt8) : List UInt8 :=
  let high (value : Nat) := UInt8.ofNat (value / 2 ^ 8)
  [0, 0, 0, 0, 0, 0, 0, 0, 0, 0, 0, 0, 0x08, 0x00, 0x45, 0,
    high (20 + ipPayload.length), UInt8.ofNat (20 + ipPayload.length),
    high identification, UInt8.ofNat identification, high flagsAndOffset, UInt8.ofNat flagsAndOffset,
    64, 17, 0, 0, 10, 0, 0, 1, 10, 0, 0, 2] ++ ipPayload

def ipv4FrameData (identification flagsAndOffset : Nat) (ipPayload : List UInt8) : ByteView :=
  fun offset => (ipv4FrameBytes identification flagsAndOffset ipPayload).getD offset 0

def ipv4Frame (identification flagsAndOffset : Nat) (ipPayload : List UInt8) : PacketDesc :=
  .ofBytes (ipv4FrameBytes identification flagsAndOffset ipPayload)

section Ipv4Frame

variable {identification flagsAndOffset : Nat} {ipPayload : List UInt8}

private theorem high_low_byte {value : Nat} (inside : value < 2 ^ 16) :
    value / 2 ^ 8 % 2 ^ 8 * 2 ^ 8 + value % 2 ^ 8 = value := by
  omega

theorem ipv4FrameData_ihlWords :
    PacketDesc.ihlWords (ipv4FrameData identification flagsAndOffset ipPayload) = 5 :=
  (by decide : 0x45 &&& 0x0F = 5)

theorem ipv4FrameData_totalLength (fits : 20 + ipPayload.length < 2 ^ 16) :
    PacketDesc.totalLength (ipv4FrameData identification flagsAndOffset ipPayload) =
      20 + ipPayload.length :=
  high_low_byte fits

theorem ipv4FrameData_flagsAndOffset (inside : flagsAndOffset < 2 ^ 16) :
    PacketDesc.flagsAndOffset (ipv4FrameData identification flagsAndOffset ipPayload) =
      flagsAndOffset :=
  high_low_byte inside

theorem ipv4FrameData_identification (inside : identification < 2 ^ 16) :
    readU16Be (ipv4FrameData identification flagsAndOffset ipPayload) 18 = identification :=
  high_low_byte inside

theorem ipv4FrameData_source :
    readU32Be (ipv4FrameData identification flagsAndOffset ipPayload) 26 = 0x0A000001 :=
  (by decide : 10 * 2 ^ 24 + 0 * 2 ^ 16 + 0 * 2 ^ 8 + 1 = 0x0A000001)

theorem ipv4FrameData_dest :
    readU32Be (ipv4FrameData identification flagsAndOffset ipPayload) 30 = 0x0A000002 :=
  (by decide : 10 * 2 ^ 24 + 0 * 2 ^ 16 + 0 * 2 ^ 8 + 2 = 0x0A000002)

private theorem ipv4FrameData_payload (index : Nat) :
    ipv4FrameData identification flagsAndOffset ipPayload (34 + index) =
      ipPayload.getD index 0 := by
  rw [Nat.add_comm 34 index]
  rfl

theorem ipv4FrameData_bytes :
    (ipv4FrameData identification flagsAndOffset ipPayload).bytes 34 ipPayload.length =
      ipPayload := by
  refine List.ext_getElem (ByteView.bytes_length ..) fun index _ inside => ?_
  simp [ByteView.bytes, ipv4FrameData_payload, inside]

theorem ipv4Frame_isIpv4 (fits : 20 + ipPayload.length < 2 ^ 16) :
    (ipv4Frame identification flagsAndOffset ipPayload).IsIpv4
      (ipv4FrameData identification flagsAndOffset ipPayload) := by
  have long : (ipv4Frame identification flagsAndOffset ipPayload).len.toNat =
      34 + ipPayload.length := by
    simp [ipv4Frame, ipv4FrameBytes, PacketDesc.ofBytes]
    omega
  have ihl := @ipv4FrameData_ihlWords identification flagsAndOffset ipPayload
  have total := @ipv4FrameData_totalLength identification flagsAndOffset ipPayload fits
  exact ⟨by omega, (by decide : 8 * 2 ^ 8 + 0 = 0x0800), (by decide : 0x45 >>> 4 = 4), by omega,
    by omega, by omega, by omega, rfl⟩

/-- The IPv4 packet in the frame. -/
def ipv4FramePacket (identification flagsAndOffset : Nat) (ipPayload : List UInt8) :
    Ipv4Packet where
  sourceIpv4Be := 0x0A000001
  destIpv4Be := 0x0A000002
  identification
  protocol := 17
  moreFragments := decide (flagsAndOffset &&& 0x2000 ≠ 0)
  fragmentOffsetBytes := u16 ((flagsAndOffset &&& 0x1FFF) * 8)
  ipPayload := fun index => ipPayload.getD index 0
  ipPayloadLength := ipPayload.length

theorem readIpv4_ipv4Frame (inId : identification < 2 ^ 16) (inFlags : flagsAndOffset < 2 ^ 16)
    (fits : 20 + ipPayload.length < 2 ^ 16) :
    (ipv4Frame identification flagsAndOffset ipPayload).readIpv4 =
      some (ipv4FramePacket identification flagsAndOffset ipPayload) := by
  have protocol : (ipv4FrameData identification flagsAndOffset ipPayload 23).toNat = 17 := rfl
  rw [PacketDesc.readIpv4_eq_some rfl (ipv4Frame_isIpv4 fits)]
  simp only [PacketDesc.ipv4Packet, ipv4FramePacket, ipv4FrameData_ihlWords,
    ipv4FrameData_totalLength fits, ipv4FrameData_flagsAndOffset inFlags,
    ipv4FrameData_identification inId, ipv4FrameData_source, ipv4FrameData_dest, protocol,
    ipv4FrameData_payload, Nat.reduceMul, Nat.reduceAdd, Nat.add_sub_cancel_left]

end Ipv4Frame

end RxTech
