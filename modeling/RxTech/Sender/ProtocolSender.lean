import RxTech.Ingress.UdpFrame
import RxTech.Library.InternetChecksum
import RxTech.Library.LittleEndian

/-!
# The protocol sender

`build_udp_frame` and `make_data_packet_payload` of `rxtech_protocol_sender.py`.
-/

set_option autoImplicit false

namespace RxTech

/-- An exception of the sender. -/
inductive SenderError where
  | valueError (message : String)
  | osError (message : String)
  | structError
  deriving DecidableEq, Repr

namespace ProtocolSender

/-! ## `socket.inet_aton` -/

/-- The value of a digit in base 16; what is no digit is 16. -/
def digitValue (char : Char) : Nat :=
  let code := char.toNat
  if 48 ≤ code ∧ code ≤ 57 then code - 48
  else if 97 ≤ code ∧ code ≤ 102 then code - 87
  else if 65 ≤ code ∧ code ≤ 70 then code - 55
  else 16

/-- The number that the leading digits spell, and the text behind them. -/
def leadingNumber (base : Nat) (text : List Char) : Nat × List Char :=
  let digits := text.takeWhile fun char => digitValue char < base
  (digits.foldl (fun value char => value * base + digitValue char) 0, text.drop digits.length)

/-- `strtoul` with base 0 on a text that begins with a digit. -/
def inetNumber (text : List Char) : Option (Nat × List Char) :=
  match text with
  | [] => none
  | first :: rest =>
      if digitValue first ≥ 10 then none
      else if first ≠ '0' then some (leadingNumber 10 text)
      else
        match rest with
        | mark :: digit :: _ =>
            if (mark = 'x' ∨ mark = 'X') ∧ digitValue digit < 16 then
              some (leadingNumber 16 (rest.drop 1))
            else some (leadingNumber 8 text)
        | _ => some (leadingNumber 8 text)

/-- The text may go on with anything behind a white space. -/
def endsAddress : List Char → Bool
  | [] => true
  | char :: _ => decide (char.toNat ∈ [9, 10, 11, 12, 13, 32])

/-- The parts of an address that are left, the last of which fills the remaining
bytes. -/
def inetParts : Nat → Nat → List Char → Option Nat
  | 0, _, _ => none
  | places + 1, value, text =>
      match inetNumber text with
      | none => none
      | some (part, '.' :: rest) =>
          if part > 0xFF then none else inetParts places (value + part * 256 ^ places) rest
      | some (part, rest) =>
          if endsAddress rest = true ∧ part < 256 ^ (places + 1) then some (value + part) else none

/-- `socket.inet_aton`; its four bytes are `be32` of the result. -/
def inetAton (text : String) : Except SenderError UInt32 :=
  match inetParts 4 0 text.toList with
  | none => .error (.osError "illegal IP address string passed to inet_aton")
  | some value => .ok (UInt32.ofNat value)

/-! ## Frames -/

/-- `struct.pack("!H", value)`. -/
def packU16Be (value : Nat) : Except SenderError (List UInt8) :=
  if value < 2 ^ 16 then .ok (be16 (UInt16.ofNat value)) else .error .structError

/-- The bytes with a zero behind them if their number is odd. -/
def padded (data : List UInt8) : List UInt8 := if data.length % 2 = 1 then data ++ [0] else data

def ipv4Checksum (data : List UInt8) : Nat := InternetChecksum.checksum (padded data)

def udpChecksum (srcIp dstIp : UInt32) (udpHeader payload : List UInt8) :
    Except SenderError Nat := do
  let length ← packU16Be (udpHeader.length + payload.length)
  let pseudo := be32 srcIp ++ be32 dstIp ++ ([0, 17] ++ length)
  let checksum := InternetChecksum.checksum (padded (pseudo ++ udpHeader ++ payload))
  return if checksum ≠ 0 then checksum else 0xFFFF

/-- `struct.pack("!HHHH", …)`. -/
def packUdpHeader (srcPort dstPort udpLength udpCsum : Nat) : Except SenderError (List UInt8) := do
  return (← packU16Be srcPort) ++ (← packU16Be dstPort) ++ (← packU16Be udpLength) ++
    (← packU16Be udpCsum)

/-- `struct.pack("!BBHHHBBH4s4s", …)`. -/
def packIpHeader (totalLength sequence ipCsum : Nat) (srcIp dstIp : UInt32) :
    Except SenderError (List UInt8) := do
  return [0x45, 0] ++ (← packU16Be totalLength) ++ (← packU16Be (sequence % 2 ^ 16)) ++
    (← packU16Be 0) ++ [64, 17] ++ (← packU16Be ipCsum) ++ be32 srcIp ++ be32 dstIp

/-- `build_udp_frame`. -/
def buildUdpFrame (dstMac srcMac : Vector UInt8 6) (srcIpText dstIpText : String)
    (srcPort dstPort : Nat) (payload : List UInt8) (sequence : Nat) :
    Except SenderError (List UInt8) := do
  let srcIp ← inetAton srcIpText
  let dstIp ← inetAton dstIpText
  let udpLength := 8 + payload.length
  let udpHeader ← packUdpHeader srcPort dstPort udpLength 0
  let udpCsum ← udpChecksum srcIp dstIp udpHeader payload
  let udpHeader ← packUdpHeader srcPort dstPort udpLength udpCsum
  let totalLength := 20 + udpLength
  let ipHeader ← packIpHeader totalLength sequence 0 srcIp dstIp
  let ipCsum := ipv4Checksum ipHeader
  let ipHeader ← packIpHeader totalLength sequence ipCsum srcIp dstIp
  return dstMac.toList ++ srcMac.toList ++ [0x08, 0x00] ++ ipHeader ++ udpHeader ++ payload

/-! ## Payloads -/

def magicData : Nat := 0x55AAFF03

def magicTail : Nat := 0x55AAFF30

def headerSize : Nat := 16

def iqBytes : Nat := 4

def defaultIqPerFullPacket : Nat := 508

def defaultIqPerLastPacket : Nat := 476

/-- `struct.pack_into` of a little-endian integer of `width` bytes. -/
def packInto (width : Nat) (payload : List UInt8) (offset value : Nat) :
    Except SenderError (List UInt8) :=
  if value < 256 ^ width ∧ offset + width ≤ payload.length then
    .ok (payload.take offset ++ LittleEndian.encode width value ++ payload.drop (offset + width))
  else .error .structError

/-- The loop that assigns `value` to the bytes `[start, stop)`. -/
def assignRange (payload : List UInt8) (start stop : Nat) (value : UInt8) : List UInt8 :=
  payload.mapIdx fun index byte => if start ≤ index ∧ index < stop then value else byte

/-- `make_data_packet_payload`. -/
def makeDataPacketPayload (cpi channel prt packetIndex packetsPerChannel udpPacketSize
    iqPerFullPacket iqPerLastPacket : Nat) : Except SenderError (List UInt8) := do
  if udpPacketSize < headerSize then
    throw (.valueError "udp packet size must be at least 16 bytes")
  let payload ← packInto 4 (List.replicate udpPacketSize 0) 0 magicData
  let payload ← packInto 2 payload 4 cpi
  let payload ← packInto 2 payload 6 channel
  let payload ← packInto 2 payload 8 prt
  let payload ← packInto 2 payload 10 packetIndex
  let tail := if packetIndex = packetsPerChannel then magicTail else 0
  let payload ← packInto 4 payload 12 tail
  let dataPattern := UInt8.ofNat (cpi + channel + prt + packetIndex)
  let payload := assignRange payload headerSize udpPacketSize dataPattern
  if packetIndex = packetsPerChannel then
    let usedBytes := iqPerLastPacket * iqBytes
    if headerSize + usedBytes > udpPacketSize then
      throw (.valueError "last packet payload exceeds udp packet size")
    return assignRange payload (headerSize + usedBytes) udpPacketSize 0
  else
    let usedBytes := iqPerFullPacket * iqBytes
    if headerSize + usedBytes > udpPacketSize then
      throw (.valueError "full packet payload exceeds udp packet size")
    return payload

end ProtocolSender

end RxTech
