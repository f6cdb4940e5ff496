import RxTech.Ingress.UdpFrame

/-!
# The ARP responder

`parse_arp_request` and `build_arp_reply`. An ARP packet for IPv4 over Ethernet is
stated field by field, and the parser and the builder are compared with it.
-/

set_option autoImplicit false

namespace RxTech

def kOpcodeReply : UInt16 := 0x0002

/-! ## Building a reply -/

/-- `std::copy` into a buffer. -/
def writeBytes (buffer : List UInt8) (offset : Nat) (bytes : List UInt8) : List UInt8 :=
  buffer.take offset ++ bytes ++ buffer.drop (offset + bytes.length)

def writeU16Be (buffer : List UInt8) (offset : Nat) (value : UInt16) : List UInt8 :=
  writeBytes buffer offset (be16 value)

def writeU32Be (buffer : List UInt8) (offset : Nat) (value : UInt32) : List UInt8 :=
  writeBytes buffer offset (be32 value)

def buildArpReply (request : ArpRequestInfo) (localMac : Vector UInt8 6) : List UInt8 :=
  let reply := List.replicate 42 0
  let reply := writeBytes reply 0 request.senderMac
  let reply := writeBytes reply 6 localMac.toList
  let reply := writeU16Be reply 12 (UInt16.ofNat kEtherTypeArp)
  let reply := writeU16Be reply 14 (UInt16.ofNat kHwTypeEthernet)
  let reply := writeU16Be reply 16 (UInt16.ofNat kProtoTypeIpv4)
  let reply := writeBytes reply 18 [6]
  let reply := writeBytes reply 19 [4]
  let reply := writeU16Be reply 20 kOpcodeReply
  let reply := writeBytes reply 22 localMac.toList
  let reply := writeU32Be reply 28 (UInt32.ofNat request.targetIpBe)
  let reply := writeBytes reply 32 request.senderMac
  writeU32Be reply 38 (UInt32.ofNat request.senderIpBe)

/-- A write into the blank part of a buffer, right behind what is written. -/
theorem writeBytes_blank (before bytes : List UInt8) {offset size : Nat}
    (behind : before.length = offset) : writeBytes (before ++ List.replicate size 0) offset bytes =
      (before ++ bytes) ++ List.replicate (size - bytes.length) 0 := by
  have left : (before ++ List.replicate size (0 : UInt8)).drop (offset + bytes.length) =
      List.replicate (size - bytes.length) 0 := by
    rw [← List.drop_drop, List.drop_left' behind, List.drop_replicate]
  rw [writeBytes, left, List.take_left' behind]

/-! ## Fields behind a pointer -/

private theorem readU32Be_lt (data : ByteView) (offset : Nat) : readU32Be data offset < 2 ^ 32 := by
  have digit (index : Nat) := (data index).toNat_lt
  have digits := And.intro (And.intro (digit offset) (digit (offset + 1)))
    (And.intro (digit (offset + 2)) (digit (offset + 3)))
  rw [readU32Be]
  omega

namespace ByteView

variable (data : ByteView)

private theorem bytes_add (start first second : Nat) : data.bytes start (first + second) =
    data.bytes start first ++ data.bytes (start + first) second := by
  rw [bytes, List.range_add, List.map_append, List.map_map]
  congr 1
  apply List.map_congr_left
  intro index _
  exact congrArg data (Nat.add_assoc ..).symm

variable {data}

/-- Bytes are a concatenation when its parts stand behind each other. -/
theorem bytes_eq_append {start first second : Nat} {left right : List UInt8}
    (length : left.length = first) : data.bytes start (second + first) = left ++ right ↔
      data.bytes start first = left ∧ data.bytes (start + first) second = right := by
  rw [Nat.add_comm, bytes_add]
  constructor
  · intro same
    exact List.append_inj same ((bytes_length ..).trans length.symm)
  · rintro ⟨left, right⟩
    rw [left, right]

private theorem bytes_eq_be16 {start : Nat} {value : UInt16} :
    data.bytes start 2 = be16 value ↔ readU16Be data start = value.toNat := by
  have bytes : data.bytes start 2 = be16 value ↔
      data start = (value >>> 8).toUInt8 ∧ data (start + 1) = value.toUInt8 := by
    simp [bytes, be16, List.range_succ]
  rw [bytes]
  constructor
  · rintro ⟨high, low⟩
    exact readU16Be_be16 high low
  · intro same
    have spelled := toNat_be16 value
    have digits := And.intro (data (start + 1)).toNat_lt value.toUInt8.toNat_lt
    rw [readU16Be] at same
    constructor <;> apply UInt8.toNat_inj.mp <;> omega

private theorem bytes_eq_be32 {start : Nat} {value : UInt32} :
    data.bytes start 4 = be32 value ↔ readU32Be data start = value.toNat := by
  have bytes : data.bytes start 4 = be32 value ↔
      data start = (value >>> 24).toUInt8 ∧ data (start + 1) = (value >>> 16).toUInt8 ∧
        data (start + 2) = (value >>> 8).toUInt8 ∧ data (start + 3) = value.toUInt8 := by
    simp [bytes, be32, List.range_succ]
  rw [bytes]
  constructor
  · rintro ⟨first, second, third, fourth⟩
    exact readU32Be_be32 first second third fourth
  · intro same
    have spelled : readU32Be ((be32 value).getD · 0) 0 = value.toNat :=
      readU32Be_be32 rfl rfl rfl rfl
    have digit (byte : UInt8) : byte.toNat < 256 := byte.toNat_lt
    have read := And.intro (digit (data (start + 1)))
      (And.intro (digit (data (start + 2))) (digit (data (start + 3))))
    have own := And.intro (digit (value >>> 16).toUInt8)
      (And.intro (digit (value >>> 8).toUInt8) (digit value.toUInt8))
    rw [readU32Be] at same
    simp only [readU32Be, be32, List.getD_cons_zero, List.getD_cons_succ] at spelled
    refine ⟨?_, ?_, ?_, ?_⟩ <;> apply UInt8.toNat_inj.mp <;> omega

variable {start length : Nat} {rest : List UInt8}

private theorem bytes_eq_be16_append {value : UInt16} :
    data.bytes start (length + 2) = be16 value ++ rest ↔
      readU16Be data start = value.toNat ∧ data.bytes (start + 2) length = rest := by
  have size : (be16 value).length = 2 := rfl
  rw [bytes_eq_append size, bytes_eq_be16]

private theorem bytes_eq_be32_append {value : UInt32} :
    data.bytes start (length + 4) = be32 value ++ rest ↔
      readU32Be data start = value.toNat ∧ data.bytes (start + 4) length = rest := by
  have size : (be32 value).length = 4 := rfl
  rw [bytes_eq_append size, bytes_eq_be32]

private theorem bytes_eq_mac_append {mac : Vector UInt8 6} :
    data.bytes start (length + 6) = mac.toList ++ rest ↔
      data.bytes start 6 = mac.toList ∧ data.bytes (start + 6) length = rest :=
  bytes_eq_append mac.length_toList

private theorem bytes_eq_sizes_append {first second : UInt8} :
    data.bytes start (length + 2) = [first, second] ++ rest ↔
      (data start = first ∧ data (start + 1) = second) ∧ data.bytes (start + 2) length = rest := by
  have size : [first, second].length = 2 := rfl
  have read : data.bytes start 2 = [first, second] ↔
      data start = first ∧ data (start + 1) = second := by
    simp [bytes, List.range_succ]
  rw [bytes_eq_append size, read]

end ByteView

/-! ## ARP packets -/

/-- An Ethernet frame with an ARP packet for IPv4. -/
structure ArpPacket where
  dstMac : Vector UInt8 6
  srcMac : Vector UInt8 6
  opcode : UInt16
  senderMac : Vector UInt8 6
  senderIp : UInt32
  targetMac : Vector UInt8 6
  targetIp : UInt32
  deriving DecidableEq

namespace ArpPacket

variable (packet : ArpPacket)

/-- The constant fields in front of the opcode. -/
def kind : List UInt8 :=
  be16 (UInt16.ofNat kEtherTypeArp) ++ (be16 (UInt16.ofNat kHwTypeEthernet) ++
    (be16 (UInt16.ofNat kProtoTypeIpv4) ++ [6, 4]))

def frame : List UInt8 :=
  packet.dstMac.toList ++ (packet.srcMac.toList ++ (kind ++ (be16 packet.opcode ++
    (packet.senderMac.toList ++ (be32 packet.senderIp ++
      (packet.targetMac.toList ++ be32 packet.targetIp))))))

theorem frame_length : packet.frame.length = 42 := by
  simp [frame, kind, be16, be32]

/-- What the parser reads from a request. -/
def info : ArpRequestInfo where
  senderMac := packet.senderMac.toList
  senderIpBe := packet.senderIp.toNat
  targetIpBe := packet.targetIp.toNat

/-- The answer of the host whose address the packet asks for. -/
def answer (localMac : Vector UInt8 6) : ArpPacket where
  dstMac := packet.senderMac
  srcMac := localMac
  opcode := kOpcodeReply
  senderMac := localMac
  senderIp := packet.targetIp
  targetMac := packet.senderMac
  targetIp := packet.senderIp

/-- The reply is the answer to the packet that was read. -/
theorem buildArpReply_info (localMac : Vector UInt8 6) :
    buildArpReply packet.info localMac = (packet.answer localMac).frame := by
  rw [buildArpReply, ← List.nil_append (List.replicate 42 0)]
  simp only [writeU16Be, writeU32Be, info]
  -- Every write goes right behind the one before it, and the last one ends the buffer.
  simp (disch := simp [be16, be32]) only [writeBytes_blank]
  simp [frame, answer, kind, be16, be32]

/-! ## Parsing a request -/

/-- A packet stands behind a pointer when the parser's reads give its fields. -/
theorem bytes_eq_frame {data : ByteView} : data.bytes 0 42 = packet.frame ↔
    data.bytes 0 6 = packet.dstMac.toList ∧ data.bytes 6 6 = packet.srcMac.toList ∧
      (readU16Be data 12 = kEtherTypeArp ∧ readU16Be data 14 = kHwTypeEthernet ∧
        readU16Be data 16 = kProtoTypeIpv4 ∧ data 18 = 6 ∧ data 19 = 4) ∧
      readU16Be data 20 = packet.opcode.toNat ∧ data.bytes 22 6 = packet.senderMac.toList ∧
      readU32Be data 28 = packet.senderIp.toNat ∧ data.bytes 32 6 = packet.targetMac.toList ∧
      readU32Be data 38 = packet.targetIp.toNat := by
  simp only [frame, kind, List.append_assoc]
  rw [ByteView.bytes_eq_mac_append, ByteView.bytes_eq_mac_append, ByteView.bytes_eq_be16_append,
    ByteView.bytes_eq_be16_append, ByteView.bytes_eq_be16_append, ByteView.bytes_eq_sizes_append,
    ByteView.bytes_eq_be16_append, ByteView.bytes_eq_mac_append, ByteView.bytes_eq_be32_append,
    ByteView.bytes_eq_mac_append, ByteView.bytes_eq_be32]
  simp only [and_assoc]
  rfl

/-- The packet that the fields behind a pointer spell. -/
def behind (data : ByteView) : ArpPacket where
  dstMac := .ofFn fun index => data index
  srcMac := .ofFn fun index => data (6 + index)
  opcode := UInt16.ofNat (readU16Be data 20)
  senderMac := .ofFn fun index => data (22 + index)
  senderIp := UInt32.ofNat (readU32Be data 28)
  targetMac := .ofFn fun index => data (32 + index)
  targetIp := UInt32.ofNat (readU32Be data 38)

private theorem mac_behind (data : ByteView) (start : Nat) :
    data.bytes start 6 = (Vector.ofFn fun index : Fin 6 => data (start + index)).toList := by
  simp [ByteView.bytes, List.range_succ, Vector.toList_ofFn, List.ofFn_succ]

private theorem frame_behind {data : ByteView} (kind : readU16Be data 12 = kEtherTypeArp ∧
    readU16Be data 14 = kHwTypeEthernet ∧ readU16Be data 16 = kProtoTypeIpv4 ∧ data 18 = 6 ∧
      data 19 = 4) : data.bytes 0 42 = (behind data).frame := by
  have opcode : (UInt16.ofNat (readU16Be data 20)).toNat = readU16Be data 20 :=
    UInt16.toNat_ofNat_of_lt' (readU16Be_lt data 20)
  have address (offset : Nat) :
      (UInt32.ofNat (readU32Be data offset)).toNat = readU32Be data offset :=
    UInt32.toNat_ofNat_of_lt' (readU32Be_lt data offset)
  exact (bytes_eq_frame _).mpr ⟨mac_behind data 0, mac_behind data 6, kind, opcode.symm,
    mac_behind data 22, (address 28).symm, mac_behind data 32, (address 38).symm⟩

/-- A frame that begins with a request for an address. -/
structure Asks (packet : ArpPacket) (data : ByteView) (frameLen localIpBe : Nat) : Prop where
  long : 42 ≤ frameLen
  behind : data.bytes 0 42 = packet.frame
  opcode : packet.opcode.toNat = kOpcodeRequest
  target : packet.targetIp.toNat = localIpBe

end ArpPacket

section Request

variable {data : ByteView} {frameLen localIpBe : Nat} {request : ArpRequestInfo}

/-- The checks of the parser, one by one. -/
theorem parseArpRequest_eq_some :
    parseArpRequest (some data) frameLen localIpBe = some request ↔
      42 ≤ frameLen ∧
        (readU16Be data 12 = kEtherTypeArp ∧ readU16Be data 14 = kHwTypeEthernet ∧
          readU16Be data 16 = kProtoTypeIpv4 ∧ data 18 = 6 ∧ data 19 = 4) ∧
        readU16Be data 20 = kOpcodeRequest ∧ readU32Be data 38 = localIpBe ∧
        request = { senderMac := data.bytes 22 6, senderIpBe := readU32Be data 28,
                    targetIpBe := readU32Be data 38 } := by
  simp only [parseArpRequest, Option.ite_none_left_eq_some, Option.some.injEq, ne_eq, not_not,
    not_or, not_lt, and_assoc]
  constructor
  · rintro ⟨long, ether, hardware, protocol, six, four, opcode, target, rfl⟩
    exact ⟨long, ether, hardware, protocol, six, four, opcode, target, rfl⟩
  · rintro ⟨long, ether, hardware, protocol, six, four, opcode, target, rfl⟩
    exact ⟨long, ether, hardware, protocol, six, four, opcode, target, rfl⟩

/-- The parser accepts the frames that begin with a request for its address. -/
theorem parseArpRequest_iff : parseArpRequest (some data) frameLen localIpBe = some request ↔
    ∃ packet : ArpPacket, packet.Asks data frameLen localIpBe ∧ packet.info = request := by
  rw [parseArpRequest_eq_some]
  constructor
  · rintro ⟨long, kind, opcode, target, rfl⟩
    have behind := ArpPacket.frame_behind kind
    obtain ⟨-, -, -, readOpcode, senderMac, senderIp, -, targetIp⟩ :=
      (ArpPacket.bytes_eq_frame _).mp behind
    refine ⟨.behind data, ⟨long, behind, readOpcode.symm.trans opcode,
      targetIp.symm.trans target⟩, ?_⟩
    rw [ArpPacket.info, ← senderMac, ← senderIp, ← targetIp]
  · rintro ⟨packet, ⟨long, behind, opcode, target⟩, rfl⟩
    obtain ⟨-, -, kind, readOpcode, senderMac, senderIp, -, targetIp⟩ :=
      (ArpPacket.bytes_eq_frame _).mp behind
    refine ⟨long, kind, readOpcode.trans opcode, targetIp.trans target, ?_⟩
    rw [ArpPacket.info, senderMac, senderIp, targetIp]

end Request

/-- The bytes at the beginning of a frame, read through a pointer to it. -/
theorem bytes_ofBytes (bytes trailer : List UInt8) :
    ByteView.bytes ((bytes ++ trailer).getD · 0) 0 bytes.length = bytes := by
  refine List.ext_getElem (ByteView.bytes_length ..) fun index _ inside => ?_
  simp [ByteView.bytes, List.getElem?_append_left inside, inside]

/-- No host takes an answer for a request. -/
theorem ArpPacket.answer_unasked (packet : ArpPacket) (localMac : Vector UInt8 6)
    (trailer : List UInt8) (frameLen peerIpBe : Nat) :
    parseArpRequest (some (((packet.answer localMac).frame ++ trailer).getD · 0)) frameLen
      peerIpBe = none := by
  have behind := bytes_ofBytes (packet.answer localMac).frame trailer
  rw [frame_length] at behind
  have reply := ((bytes_eq_frame _).mp behind).2.2.2.1
  apply Option.eq_none_iff_forall_ne_some.mpr
  intro request parsed
  have opcode := (parseArpRequest_eq_some.mp parsed).2.2.1
  have different : kOpcodeRequest ≠ kOpcodeReply.toNat := by decide
  exact different (opcode.symm.trans reply)

/-- The frames that begin with a request for the local address, and no others, are
answered; the answer tells the local addresses to the host that asked, and nobody answers
it in turn. -/
theorem arp_request_answered (data : ByteView) (frameLen localIpBe : Nat)
    (localMac : Vector UInt8 6) :
    match parseArpRequest (some data) frameLen localIpBe with
    | none => ∀ packet : ArpPacket, ¬ packet.Asks data frameLen localIpBe
    | some request => ∃ packet : ArpPacket, packet.Asks data frameLen localIpBe ∧
        buildArpReply request localMac = (packet.answer localMac).frame ∧
        ∀ (trailer : List UInt8) (length peerIpBe : Nat),
          parseArpRequest (some ((buildArpReply request localMac ++ trailer).getD · 0)) length
            peerIpBe = none := by
  cases parsed : parseArpRequest (some data) frameLen localIpBe with
  | none =>
      intro packet asks
      have answered := parseArpRequest_iff.mpr ⟨packet, asks, rfl⟩
      rw [parsed] at answered
      cases answered
  | some request =>
      obtain ⟨packet, asks, rfl⟩ := parseArpRequest_iff.mp parsed
      have reply := packet.buildArpReply_info localMac
      refine ⟨packet, asks, reply, fun trailer length peerIpBe => ?_⟩
      rw [reply]
      exact packet.answer_unasked localMac trailer length peerIpBe

end RxTech
