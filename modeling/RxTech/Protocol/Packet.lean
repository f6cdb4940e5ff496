import RxTech.Protocol.Spec

/-!
# Packet views

The parsed and interpreted packet views, `PacketParser::parse`,
`PacketValidator::validate` and `ProtocolSequenceInterpreter::interpret`.
-/

set_option autoImplicit false

namespace RxTech

inductive PacketKind where
  | unknown
  | controlTable
  | dataPacket
  deriving DecidableEq, Repr

inductive RejectReason where
  | none
  | invalidLen
  | invalidHeader
  | invalidChannel
  | invalidPrt
  | invalidPacketIndex
  | invalidTail
  | invalidFieldCombo
  deriving DecidableEq, Repr

/-- The bytes readable from a pointer, by offset. -/
abbrev ByteView := Nat → UInt8

/-- A null `payload_ptr` is `none`. The CPI id wraps around and is a machine
word; the other fields are only compared and are plain numbers. -/
structure ParsedPacketView where
  valid : Bool := false
  kind : PacketKind := .unknown
  cpi : UInt16 := 0
  channel : Nat := 0
  prt : Nat := 0
  packetIndex : Nat := 0
  tail : Nat := 0
  payloadPtr : Option ByteView := none
  payloadLen : Nat := 0
  rxTsc : Nat := 0
  rejectReason : RejectReason := .none

structure InterpretedPacketView where
  valid : Bool := false
  kind : PacketKind := .unknown
  cpi : UInt16 := 0
  prt : Nat := 0
  channel : Nat := 0
  packetIndex : Nat := 0
  packetPositionInPrt : Nat := 0
  iqCount : Nat := 0
  zeroPaddingBytes : Nat := 0
  rejectReason : RejectReason := .none
  deriving DecidableEq, Repr

structure UdpPayloadFrame where
  udpPayload : List UInt8 := []
  sourceIpv4Be : Nat := 0
  destIpv4Be : Nat := 0
  sourcePort : Nat := 0
  destPort : Nat := 0
  deriving DecidableEq, Repr

/-- `udp_payload.data()`; nothing reads past the end of the vector. -/
def UdpPayloadFrame.data (frame : UdpPayloadFrame) : ByteView :=
  fun offset => frame.udpPayload.getD offset 0

def readU16Le (data : ByteView) (offset : Nat) : Nat :=
  (data offset).toNat + (data (offset + 1)).toNat * 2 ^ 8

def readU32Le (data : ByteView) (offset : Nat) : Nat :=
  (data offset).toNat + (data (offset + 1)).toNat * 2 ^ 8 +
    (data (offset + 2)).toNat * 2 ^ 16 + (data (offset + 3)).toNat * 2 ^ 24

/-- `PacketParser::parse(const UdpPayloadFrame &)`. The overload for
`PacketDesc` also assigns `rx_tsc`; this one never does. -/
def PacketParser.parse (spec : ProtocolSpec) (frame : UdpPayloadFrame) : ParsedPacketView :=
  if frame.udpPayload.length < spec.packetHeaderSize then
    { rejectReason := .invalidLen }
  else
    let payload := frame.data
    let magic := readU32Le payload 0
    let cpi := UInt16.ofNat (readU16Le payload 4)
    let body : ByteView := fun offset => payload (spec.packetHeaderSize + offset)
    let bodyLen := u32 (frame.udpPayload.length - spec.packetHeaderSize)
    if magic = spec.magicControl then
      { kind := .controlTable, cpi, payloadPtr := some body, payloadLen := bodyLen, valid := true }
    else if magic = spec.magicData then
      { kind := .dataPacket
        cpi
        channel := readU16Le payload 6
        prt := readU16Le payload 8
        packetIndex := readU16Le payload 10
        tail := readU32Le payload 12
        payloadPtr := some body
        payloadLen := bodyLen
        valid := true }
    else
      { cpi, rejectReason := .invalidHeader }

structure PacketValidity where
  ok : Bool := false
  reason : RejectReason := .none
  deriving DecidableEq, Repr

def controlTablePayloadLen (spec : ProtocolSpec) : Nat :=
  if spec.controlTableSize > spec.packetHeaderSize then
    spec.controlTableSize - spec.packetHeaderSize
  else 0

def PacketValidator.validate (spec : ProtocolSpec) (packet : ParsedPacketView) : PacketValidity :=
  if packet.valid = false then
    { reason := if packet.rejectReason = .none then .invalidHeader else packet.rejectReason }
  else
    match packet.kind with
    | .controlTable =>
        if packet.payloadPtr.isNone ∨ packet.payloadLen ≠ controlTablePayloadLen spec then
          { reason := .invalidLen }
        else { ok := true }
    | .dataPacket =>
        if packet.channel ≥ spec.channelsPerPrt then
          { reason := .invalidChannel }
        else if packet.packetIndex = 0 ∨ packet.packetIndex > spec.packetsPerChannel then
          { reason := .invalidPacketIndex }
        else if packet.payloadPtr.isNone ∨ packet.payloadLen ≠ spec.packetDataSize then
          { reason := .invalidLen }
        else if packet.tail ≠ 0 ∧ packet.tail ≠ spec.magicTail then
          { reason := .invalidTail }
        -- V-008 / C-001: the marker only stands on the last packet of a channel
        else if packet.tail = spec.magicTail ∧ packet.packetIndex ≠ spec.packetsPerChannel then
          { reason := .invalidFieldCombo }
        else { ok := true }
    | .unknown => { reason := .invalidFieldCombo }

def bytesPerIq : Nat := 4

/-- Every byte of the padding range `[used, len)` is zero. -/
def paddingIsZero (bytes : ByteView) (used len : Nat) : Bool :=
  (List.range (len - used)).all fun index => bytes (used + index) = 0

def ProtocolSequenceInterpreter.interpret (spec : ProtocolSpec) (packet : ParsedPacketView) :
    InterpretedPacketView :=
  let result : InterpretedPacketView := { kind := packet.kind, cpi := packet.cpi }
  if packet.valid = false then
    { result with
      rejectReason := if packet.rejectReason = .none then .invalidHeader else packet.rejectReason }
  else
    match packet.kind with
    | .controlTable => { result with valid := true }
    | .unknown => { result with rejectReason := .invalidFieldCombo }
    | .dataPacket =>
        if packet.channel ≥ spec.channelsPerPrt then
          { result with rejectReason := .invalidChannel }
        else if packet.packetIndex = 0 ∨ packet.packetIndex > spec.packetsPerChannel then
          { result with rejectReason := .invalidPacketIndex }
        else
          let result := { result with
            prt := packet.prt
            channel := packet.channel
            packetIndex := packet.packetIndex
            packetPositionInPrt :=
              u16 (packet.channel * spec.packetsPerChannel + packet.packetIndex) }
          match packet.payloadPtr with
          | none => { result with rejectReason := .invalidLen }
          | some bytes =>
              if packet.payloadLen ≠ spec.packetDataSize then
                { result with rejectReason := .invalidLen }
              else if packet.packetIndex = spec.packetsPerChannel then
                let usedBytes := spec.iqPerLastPacket * bytesPerIq
                let result := { result with iqCount := spec.iqPerLastPacket }
                if usedBytes > packet.payloadLen then
                  { result with rejectReason := .invalidLen }
                else
                  let result := { result with zeroPaddingBytes := packet.payloadLen - usedBytes }
                  if paddingIsZero bytes usedBytes packet.payloadLen then
                    { result with valid := true }
                  else { result with rejectReason := .invalidFieldCombo }
              else
                { result with iqCount := spec.iqPerFullPacket, zeroPaddingBytes := 0, valid := true }

/-- A data packet as the coordinator receives it: marked valid, and read the
same way by the parser and the interpreter. -/
structure ValidData (parsed : ParsedPacketView) (packet : InterpretedPacketView) : Prop where
  valid : parsed.valid = true
  kind : parsed.kind = .dataPacket
  cpi : packet.cpi = parsed.cpi
  prt : packet.prt = parsed.prt
  channel : packet.channel = parsed.channel

/-- A control packet as the coordinator accepts it. -/
structure ValidControl (parsed : ParsedPacketView) : Prop where
  valid : parsed.valid = true
  kind : parsed.kind = .controlTable

instance (parsed : ParsedPacketView) : Decidable (ValidControl parsed) :=
  decidable_of_iff (parsed.valid = true ∧ parsed.kind = .controlTable)
    ⟨fun both => ⟨both.1, both.2⟩, fun control => ⟨control.valid, control.kind⟩⟩

end RxTech
