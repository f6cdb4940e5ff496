import RxTech.Protocol.Packet
import Mathlib.Logic.Function.Basic

/-!
# The payload assembler

`PacketDesc`, and `UdpPayloadAssembler::push`: the Ethernet and IPv4 headers of a
frame, unfragmented datagrams, and the reassembly of fragmented ones.
-/

set_option autoImplicit false

namespace RxTech

/-- The members of `PacketDesc` that are read. A null `data` is `none`. -/
structure PacketDesc where
  data : Option ByteView := none
  len : UInt32 := 0
  tsNs : Nat := 0
  queueId : Nat := 0
  cookie : Nat := 0

def PacketDesc.ofBytes (frame : List UInt8) : PacketDesc where
  data := some fun offset => frame.getD offset 0
  len := UInt32.ofNat frame.length

def readU16Be (data : ByteView) (offset : Nat) : Nat :=
  (data offset).toNat * 2 ^ 8 + (data (offset + 1)).toNat

def readU32Be (data : ByteView) (offset : Nat) : Nat :=
  (data offset).toNat * 2 ^ 24 + (data (offset + 1)).toNat * 2 ^ 16 +
    (data (offset + 2)).toNat * 2 ^ 8 + (data (offset + 3)).toNat

/-- The bytes `[from, from + length)` behind a pointer. -/
def ByteView.bytes (data : ByteView) (start length : Nat) : List UInt8 :=
  (List.range length).map fun index => data (start + index)

def kEtherTypeIpv4 : Nat := 0x0800

def kIpProtoUdp : Nat := 17

structure FragmentKey where
  sourceIpv4Be : Nat
  destIpv4Be : Nat
  identification : Nat
  protocol : Nat
  deriving DecidableEq, Repr

/-- `pieces` by byte offset. -/
structure FragmentAssembly where
  pieces : Nat → Option (List UInt8) := fun _ => none
  totalPayloadLength : Nat := 0
  hasTotalLength : Bool := false
  sourcePort : Nat := 0
  destPort : Nat := 0
  udpLength : Nat := 0
  hasUdpHeader : Bool := false

structure UdpPayloadAssembler where
  fragments : FragmentKey → Option FragmentAssembly := fun _ => none

/-- The locals of `push` once the headers are read. -/
structure Ipv4Packet where
  sourceIpv4Be : Nat
  destIpv4Be : Nat
  identification : Nat
  protocol : Nat
  moreFragments : Bool
  fragmentOffsetBytes : Nat
  ipPayload : ByteView
  ipPayloadLength : Nat

/-- `push` up to its test for fragments. -/
def PacketDesc.readIpv4 (packet : PacketDesc) : Option Ipv4Packet :=
  match packet.data with
  | none => none
  | some data =>
      if packet.len.toNat < 14 + 20 then none
      else if readU16Be data 12 ≠ kEtherTypeIpv4 then none
      else
        let ipOffset := 14
        let versionIhl := (data ipOffset).toNat
        let version := versionIhl >>> 4
        let ihlWords := versionIhl &&& 0x0F
        let ipHeaderBytes := ihlWords * 4
        if version ≠ 4 ∨ ihlWords < 5 ∨ packet.len.toNat < ipOffset + ipHeaderBytes then none
        else
          let totalLength := readU16Be data (ipOffset + 2)
          if packet.len.toNat < ipOffset + totalLength ∨ totalLength < ipHeaderBytes then none
          else
            let protocol := (data (ipOffset + 9)).toNat
            if protocol ≠ kIpProtoUdp then none
            else
              let flagsAndOffset := readU16Be data (ipOffset + 6)
              some
                { sourceIpv4Be := readU32Be data (ipOffset + 12)
                  destIpv4Be := readU32Be data (ipOffset + 16)
                  identification := readU16Be data (ipOffset + 4)
                  protocol
                  moreFragments := decide (flagsAndOffset &&& 0x2000 ≠ 0)
                  fragmentOffsetBytes := u16 ((flagsAndOffset &&& 0x1FFF) * 8)
                  ipPayload := fun index => data (ipOffset + ipHeaderBytes + index)
                  ipPayloadLength := totalLength - ipHeaderBytes }

namespace Ipv4Packet

def key (packet : Ipv4Packet) : FragmentKey where
  sourceIpv4Be := packet.sourceIpv4Be
  destIpv4Be := packet.destIpv4Be
  identification := packet.identification
  protocol := packet.protocol

/-- The branch of `push` for a packet that is no fragment. -/
def wholeFrame (packet : Ipv4Packet) : Option UdpPayloadFrame :=
  if packet.ipPayloadLength < 8 then none
  else
    let udpLength := readU16Be packet.ipPayload 4
    if udpLength < 8 ∨ packet.ipPayloadLength < udpLength then none
    else some
      { sourceIpv4Be := packet.sourceIpv4Be
        destIpv4Be := packet.destIpv4Be
        sourcePort := readU16Be packet.ipPayload 0
        destPort := readU16Be packet.ipPayload 2
        udpPayload := packet.ipPayload.bytes 8 (udpLength - 8) }

end Ipv4Packet

namespace FragmentAssembly

/-- The piece of a fragment, and what it says about the whole. -/
def store (assembly : FragmentAssembly) (packet : Ipv4Packet) : FragmentAssembly :=
  let offset := packet.fragmentOffsetBytes
  let length := packet.ipPayloadLength
  let assembly := { assembly with
    pieces := Function.update assembly.pieces offset (some (packet.ipPayload.bytes 0 length)) }
  let assembly :=
    if offset = 0 ∧ length ≥ 8 then
      { assembly with
        sourcePort := readU16Be packet.ipPayload 0
        destPort := readU16Be packet.ipPayload 2
        udpLength := readU16Be packet.ipPayload 4
        hasUdpHeader := true }
    else assembly
  if packet.moreFragments = false then
    { assembly with
      totalPayloadLength := u16 (offset + length)
      hasTotalLength := true }
  else assembly

/-- How the reassembly loop ends. -/
inductive Reassembly where
  | gap
  | assembled (ipPayload : List UInt8)
  deriving DecidableEq, Repr

/-- At most `fuel` turns of the reassembly loop from `offset` on; `none` if it takes
more. -/
def reassemblyLoop (assembly : FragmentAssembly) : Nat → Nat → List UInt8 → Option Reassembly
  | 0, _, _ => none
  | fuel + 1, offset, assembled =>
      if offset < assembly.totalPayloadLength then
        match assembly.pieces offset with
        | none => some .gap
        | some piece =>
            reassemblyLoop assembly fuel (u16 (offset + piece.length)) (assembled ++ piece)
      else some (.assembled assembled)

/-- The reassembly loop; `none` if it never ends. The offset has 16 bits, so a loop that
takes more turns has been where it is before. -/
def reassemble (assembly : FragmentAssembly) : Option Reassembly :=
  assembly.reassemblyLoop (2 ^ 16 + 1) 0 []

end FragmentAssembly

namespace UdpPayloadAssembler

/-- `fragments_[key]` after the piece is stored in it. -/
def assemblyWith (assembler : UdpPayloadAssembler) (packet : Ipv4Packet) : FragmentAssembly :=
  ((assembler.fragments packet.key).getD {}).store packet

def put (assembler : UdpPayloadAssembler) (key : FragmentKey) (assembly : FragmentAssembly) :
    UdpPayloadAssembler where
  fragments := Function.update assembler.fragments key (some assembly)

def erase (assembler : UdpPayloadAssembler) (key : FragmentKey) : UdpPayloadAssembler where
  fragments := Function.update assembler.fragments key none

/-- The branch of `push` for a fragment. -/
def pushFragment (assembler : UdpPayloadAssembler) (packet : Ipv4Packet) :
    Option (UdpPayloadAssembler × List UdpPayloadFrame) :=
  let assembly := assembler.assemblyWith packet
  let stored := assembler.put packet.key assembly
  if assembly.hasTotalLength = false ∨ assembly.hasUdpHeader = false then some (stored, [])
  else
    match assembly.reassemble with
    | none => none
    | some .gap => some (stored, [])
    | some (.assembled ipPayload) =>
        if assembly.udpLength < 8 ∨ ipPayload.length < assembly.udpLength then
          some (stored.erase packet.key, [])
        else
          some (stored.erase packet.key,
            [{ sourceIpv4Be := packet.sourceIpv4Be
               destIpv4Be := packet.destIpv4Be
               sourcePort := assembly.sourcePort
               destPort := assembly.destPort
               udpPayload := (ipPayload.drop 8).take (assembly.udpLength - 8) }])

/-- `UdpPayloadAssembler::push`; `none` if it does not return. -/
def push (assembler : UdpPayloadAssembler) (packet : PacketDesc) :
    Option (UdpPayloadAssembler × List UdpPayloadFrame) :=
  match packet.readIpv4 with
  | none => some (assembler, [])
  | some packet =>
      if packet.fragmentOffsetBytes = 0 ∧ packet.moreFragments = false then
        some (assembler, packet.wholeFrame.toList)
      else assembler.pushFragment packet

/-- `push` for one frame after the other, with the frames that each call returns; `none`
if a call does not return. -/
def pushAll : List PacketDesc → UdpPayloadAssembler →
    Option (UdpPayloadAssembler × List (List UdpPayloadFrame))
  | [], assembler => some (assembler, [])
  | packet :: rest, assembler =>
      match assembler.push packet with
      | none => none
      | some (next, frames) => (pushAll rest next).map fun (last, later) => (last, frames :: later)

end UdpPayloadAssembler

end RxTech
