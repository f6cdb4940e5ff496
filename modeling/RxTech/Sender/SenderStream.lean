import RxTech.Cpi.Slots
import RxTech.Sender.ProtocolSenderProperties

/-!
# The stream of the protocol sender

`send_protocol_stream` of `rxtech_protocol_sender.py`: for each CPI a control table, then
the data packets by PRT, channel and packet index, each in a frame of its own.
-/

set_option autoImplicit false

namespace RxTech

/-- The arguments of the sender that decide what it sends. -/
structure SenderArgs where
  dstMac : Vector UInt8 6
  srcMac : Vector UInt8 6
  srcIp : String := "172.20.11.222"
  dstIp : String := "172.20.11.100"
  srcPort : Nat := 30001
  dstPort : Nat := 9999
  cpiStart : Nat := 1
  cpiCount : Nat := 2
  prtCount : Nat := 1
  channelsPerPrt : Nat := 3
  packetsPerChannel : Nat := 9
  udpPacketSize : Nat := 2048
  iqPerFullPacket : Nat := ProtocolSender.defaultIqPerFullPacket
  iqPerLastPacket : Nat := ProtocolSender.defaultIqPerLastPacket
  noControlTable : Bool := false

open LittleEndian (encode)

namespace ProtocolSender

def magicControl : Nat := 0x55AAFF00

/-- `make_control_table_payload`. -/
def makeControlTablePayload (cpi udpPacketSize : Nat) : Except SenderError (List UInt8) := do
  let payload ← packInto 4 (List.replicate udpPacketSize 0) 0 magicControl
  packInto 2 payload 4 cpi

/-- What went out, and the identification of the next frame. -/
structure SenderState where
  sent : List (List UInt8) := []
  sentPackets : Nat := 0
  sentBytes : Nat := 0
  sequence : Nat := 0
  deriving DecidableEq, Repr

/-- The payloads in the order of the loops. -/
def payloads (args : SenderArgs) : List (Except SenderError (List UInt8)) :=
  (List.range' args.cpiStart args.cpiCount).flatMap fun cpi =>
    (if args.noControlTable then [] else [makeControlTablePayload cpi args.udpPacketSize]) ++
      (List.range' 1 args.prtCount).flatMap fun prt =>
        (List.range args.channelsPerPrt).flatMap fun channel =>
          (List.range' 1 args.packetsPerChannel).map fun packetIndex =>
            makeDataPacketPayload cpi channel prt packetIndex args.packetsPerChannel
              args.udpPacketSize args.iqPerFullPacket args.iqPerLastPacket

def frameOf (args : SenderArgs) (payload : List UInt8) (sequence : Nat) :
    Except SenderError (List UInt8) :=
  buildUdpFrame args.dstMac args.srcMac args.srcIp args.dstIp args.srcPort args.dstPort payload
    sequence

/-- The bodies of the loops, where every `send` succeeds. An exception ends them. -/
def sendLoop (args : SenderArgs) :
    List (Except SenderError (List UInt8)) → SenderState → SenderState × Option SenderError
  | [], state => (state, none)
  | payload :: rest, state =>
      match payload.bind (frameOf args · state.sequence) with
      | .error error => (state, some error)
      | .ok frame =>
          sendLoop args rest
            { sent := state.sent ++ [frame]
              sentPackets := state.sentPackets + 1
              sentBytes := state.sentBytes + frame.length
              sequence := state.sequence + 1 }

/-- `send_protocol_stream` on a socket that takes every frame. -/
def sendProtocolStream (args : SenderArgs) : SenderState × Option SenderError :=
  sendLoop args (payloads args) {}

end ProtocolSender

/-! ## The payloads of a CPI -/

namespace SenderArgs

open ProtocolSender

def controlBytes (args : SenderArgs) (cpi : Nat) : List UInt8 :=
  encode 4 magicControl ++ encode 2 cpi ++ List.replicate (args.udpPacketSize - 6) 0

/-- The last packet of every channel is marked. -/
def tail (args : SenderArgs) (coord : SlotCoord) : Nat :=
  if coord.packetIndex = args.packetsPerChannel then magicTail else 0

def samples (args : SenderArgs) (cpi : Nat) (coord : SlotCoord) : List UInt8 :=
  dataBody (UInt8.ofNat (cpi + coord.channel + coord.prt + coord.packetIndex)) coord.packetIndex
    args.packetsPerChannel args.udpPacketSize args.iqPerLastPacket

def dataBytes (args : SenderArgs) (cpi : Nat) (coord : SlotCoord) : List UInt8 :=
  dataHeader cpi coord.channel coord.prt coord.packetIndex (args.tail coord) ++
    args.samples cpi coord

/-- The data packets of a CPI in the order of the loops. -/
def coords (args : SenderArgs) : List SlotCoord :=
  (List.range' 1 args.prtCount).flatMap fun prt =>
    (List.range args.channelsPerPrt).flatMap fun channel =>
      (List.range' 1 args.packetsPerChannel).map fun packetIndex => ⟨prt, channel, packetIndex⟩

def controlPayloads (args : SenderArgs) (cpi : Nat) : List (List UInt8) :=
  if args.noControlTable then [] else [args.controlBytes cpi]

def cpiPayloads (args : SenderArgs) (cpi : Nat) : List (List UInt8) :=
  args.controlPayloads cpi ++ args.coords.map (args.dataBytes cpi)

def cpis (args : SenderArgs) : List Nat := List.range' args.cpiStart args.cpiCount

/-- What the receiver reads from a frame of the sender. -/
def udpFrame (args : SenderArgs) (srcIp dstIp : UInt32) (payload : List UInt8) :
    UdpPayloadFrame where
  udpPayload := payload
  sourceIpv4Be := srcIp.toNat
  destIpv4Be := dstIp.toNat
  sourcePort := args.srcPort
  destPort := args.dstPort

/-- What the sender can be asked for without an exception. -/
structure Encodable (args : SenderArgs) (srcIp dstIp : UInt32) : Prop where
  cpis : args.cpiStart + args.cpiCount ≤ 2 ^ 16
  prts : args.prtCount < 2 ^ 16
  channels : args.channelsPerPrt ≤ 2 ^ 16
  packets : args.packetsPerChannel < 2 ^ 16
  full : headerSize + args.iqPerFullPacket * iqBytes ≤ args.udpPacketSize
  last : headerSize + args.iqPerLastPacket * iqBytes ≤ args.udpPacketSize
  short : args.udpPacketSize ≤ 65507
  srcPort : args.srcPort < 2 ^ 16
  dstPort : args.dstPort < 2 ^ 16
  srcIp : inetAton args.srcIp = .ok srcIp
  dstIp : inetAton args.dstIp = .ok dstIp

variable {args : SenderArgs} {srcIp dstIp : UInt32}

theorem mem_coords {coord : SlotCoord} : coord ∈ args.coords ↔
    (1 ≤ coord.prt ∧ coord.prt ≤ args.prtCount) ∧ coord.channel < args.channelsPerPrt ∧
      1 ≤ coord.packetIndex ∧ coord.packetIndex ≤ args.packetsPerChannel := by
  simp only [coords, List.mem_flatMap, List.mem_range'_1, List.mem_range, List.mem_map]
  constructor
  · rintro ⟨prt, ⟨prtPos, prtLt⟩, channel, channelLt, index, ⟨indexPos, indexLt⟩, rfl⟩
    exact ⟨⟨prtPos, by simp only; omega⟩, channelLt, indexPos, by simp only; omega⟩
  · rintro ⟨⟨prtPos, prtLe⟩, channelLt, indexPos, indexLe⟩
    exact ⟨coord.prt, ⟨prtPos, by omega⟩, coord.channel, channelLt, coord.packetIndex,
      ⟨indexPos, by omega⟩, rfl⟩

theorem mem_controlPayloads {cpi : Nat} {payload : List UInt8}
    (member : payload ∈ args.controlPayloads cpi) : payload = args.controlBytes cpi := by
  rw [controlPayloads] at member
  split at member
  · cases member
  · exact List.mem_singleton.mp member

theorem Encodable.early (encodable : args.Encodable srcIp dstIp) {cpi : Nat}
    (member : cpi ∈ args.cpis) : cpi < 2 ^ 16 :=
  Nat.lt_of_lt_of_le (List.mem_range'_1.mp member).2 encodable.cpis

/-- The loops go through the slots of a CPI in their order. -/
theorem coords_eq {spec : ProtocolSpec} (channels : spec.channelsPerPrt = args.channelsPerPrt)
    (packets : spec.packetsPerChannel = args.packetsPerChannel) :
    args.coords = slotCoords spec args.prtCount := by
  simp only [coords, slotCoords, channels, packets, List.range'_eq_map_range, List.flatMap_map,
    List.map_map, Function.comp_def, Nat.add_comm 1]

private theorem makeControlTablePayload_eq {cpi : Nat} (fits : cpi < 256 ^ 2)
    (room : 6 ≤ args.udpPacketSize) :
    makeControlTablePayload cpi args.udpPacketSize = .ok (args.controlBytes cpi) := by
  have magic := @packInto_next 4 magicControl 0 args.udpPacketSize (args.udpPacketSize - 4)
    (by decide) [] rfl (by omega)
  have packed := @packInto_next 2 cpi 4 (args.udpPacketSize - 4) (args.udpPacketSize - 6) fits
    (encode 4 magicControl) rfl (by omega)
  simp only [List.nil_append] at magic
  simp only [makeControlTablePayload, magic, bind, Except.bind]
  exact packed

theorem Encodable.dataBytes (encodable : args.Encodable srcIp dstIp) {cpi : Nat}
    (member : cpi ∈ args.cpis) {coord : SlotCoord} (sent : coord ∈ args.coords) :
    makeDataPacketPayload cpi coord.channel coord.prt coord.packetIndex args.packetsPerChannel
      args.udpPacketSize args.iqPerFullPacket args.iqPerLastPacket =
        .ok (args.dataBytes cpi coord) := by
  obtain ⟨⟨prtPos, prtLe⟩, channelLt, indexPos, indexLe⟩ := mem_coords.mp sent
  obtain ⟨cpis, prts, channels, packets, full, last, -⟩ := encodable
  obtain ⟨-, early⟩ := List.mem_range'_1.mp member
  exact makeDataPacketPayload_eq ⟨by omega, by omega, by omega, by omega⟩ full last

/-- No payload of the loops raises an exception. -/
theorem Encodable.payloads (encodable : args.Encodable srcIp dstIp) :
    payloads args = (args.cpis.flatMap args.cpiPayloads).map .ok := by
  rw [List.map_flatMap]
  refine List.flatMap_congr fun cpi member => ?_
  have early : cpi < 256 ^ 2 := encodable.early member
  have room : 6 ≤ args.udpPacketSize := by
    have full := encodable.full
    rw [headerSize] at full
    omega
  rw [cpiPayloads, List.map_append, controlPayloads, makeControlTablePayload_eq early room]
  congr 1
  · split <;> rfl
  · rw [List.map_map, coords, List.map_flatMap]
    refine List.flatMap_congr fun prt prtMember => ?_
    rw [List.map_flatMap]
    refine List.flatMap_congr fun channel channelMember => ?_
    rw [List.map_map]
    refine List.map_congr_left fun packetIndex indexMember => ?_
    have sent : SlotCoord.mk prt channel packetIndex ∈ args.coords :=
      List.mem_flatMap.mpr ⟨prt, prtMember, List.mem_flatMap.mpr ⟨channel, channelMember,
        List.mem_map.mpr ⟨packetIndex, indexMember, rfl⟩⟩⟩
    exact encodable.dataBytes member sent

theorem controlBytes_length {cpi : Nat} (room : 6 ≤ args.udpPacketSize) :
    (args.controlBytes cpi).length = args.udpPacketSize := by
  simp only [controlBytes, List.length_append, LittleEndian.encode_length, List.length_replicate]
  omega

theorem dataBytes_length (last : headerSize + args.iqPerLastPacket * iqBytes ≤ args.udpPacketSize)
    (cpi : Nat) (coord : SlotCoord) :
    (args.dataBytes cpi coord).length = args.udpPacketSize := by
  rw [dataBytes, List.length_append, dataHeader_length, samples, dataBody]
  split
  · rw [List.length_append, List.length_replicate, List.length_replicate]
    omega
  · rw [List.length_replicate]
    omega

/-- Every payload fills its datagram. -/
theorem Encodable.length_of_mem (encodable : args.Encodable srcIp dstIp) {cpi : Nat}
    {payload : List UInt8} (member : payload ∈ args.cpiPayloads cpi) :
    payload.length = args.udpPacketSize := by
  have last := encodable.last
  rcases List.mem_append.mp member with control | data
  · rw [headerSize] at last
    rw [mem_controlPayloads control, controlBytes_length (by omega)]
  · obtain ⟨coord, -, rfl⟩ := List.mem_map.mp data
    exact dataBytes_length last cpi coord

end SenderArgs

/-! ## The frames of a run -/

namespace ProtocolSender

variable {args : SenderArgs} {srcIp dstIp : UInt32}

/-- An unfragmented frame in which the receiver reads the payload and the addresses. -/
def Wraps (args : SenderArgs) (srcIp dstIp : UInt32) (payload frame : List UInt8) : Prop :=
  ∃ header : UdpFrameHeader, frame = header.frame payload ∧ header.Sized payload ∧
    header.flagsAndOffset.toNat &&& 0x3FFF = 0 ∧
    header.read payload = args.udpFrame srcIp dstIp payload

theorem Wraps.length {payload frame : List UInt8} (wraps : Wraps args srcIp dstIp payload frame) :
    frame.length = 42 + payload.length := by
  obtain ⟨header, rfl, -⟩ := wraps
  exact header.frame_length payload

theorem Wraps.lengths {payloads frames : List (List UInt8)}
    (wrapped : List.Forall₂ (Wraps args srcIp dstIp) payloads frames) :
    frames.map List.length = payloads.map fun payload => 42 + payload.length := by
  induction wrapped with
  | nil => rfl
  | cons wraps _ ih => rw [List.map_cons, List.map_cons, wraps.length, ih]

private theorem frameOf_wraps (encodable : args.Encodable srcIp dstIp) {payload : List UInt8}
    (fits : payload.length ≤ 65507) (sequence : Nat) : ∃ frame,
    frameOf args payload sequence = .ok frame ∧ Wraps args srcIp dstIp payload frame := by
  obtain ⟨ipCsum, udpCsum, built, -⟩ := @buildUdpFrame_eq args.dstMac args.srcMac args.srcIp
    args.dstIp srcIp dstIp args.srcPort args.dstPort sequence payload encodable.srcIp
    encodable.dstIp encodable.srcPort encodable.dstPort fits
  have clear : (0 : UInt16).toNat &&& 0x3FFF = 0 := by decide
  exact ⟨_, built, _, rfl, frameHeader_sized fits ipCsum udpCsum, clear,
    frameHeader_read encodable.srcPort encodable.dstPort fits ipCsum udpCsum⟩

/-- What the loops add to the state when they send these frames. -/
def SenderState.after (state : SenderState) (frames : List (List UInt8)) : SenderState where
  sent := state.sent ++ frames
  sentPackets := state.sentPackets + frames.length
  sentBytes := state.sentBytes + (frames.map List.length).sum
  sequence := state.sequence + frames.length

private theorem sendLoop_sends (encodable : args.Encodable srcIp dstIp)
    (payloads : List (List UInt8))
    (fits : ∀ payload ∈ payloads, payload.length ≤ 65507) (state : SenderState) : ∃ frames,
    sendLoop args (payloads.map .ok) state = (state.after frames, none) ∧
      List.Forall₂ (Wraps args srcIp dstIp) payloads frames := by
  induction payloads generalizing state with
  | nil =>
      refine ⟨[], ?_, .nil⟩
      rw [List.map_nil, sendLoop, SenderState.after, List.append_nil]
      rfl
  | cons payload rest ih =>
      obtain ⟨short, restFits⟩ := List.forall_mem_cons.mp fits
      obtain ⟨frame, built, wraps⟩ := frameOf_wraps encodable short state.sequence
      obtain ⟨frames, sends, wrapped⟩ := ih restFits (state.after [frame])
      refine ⟨frame :: frames, ?_, .cons wraps wrapped⟩
      have one : sendLoop args (.ok payload :: rest.map .ok) state =
          sendLoop args (rest.map .ok) (state.after [frame]) := by
        simp only [sendLoop, Except.bind, built]
        rfl
      rw [List.map_cons, one, sends]
      simp only [SenderState.after, List.append_assoc, List.singleton_append, List.length_cons,
        List.length_nil, List.map_cons, List.map_nil, List.sum_cons, List.sum_nil, Prod.mk.injEq,
        SenderState.mk.injEq, true_and, and_true]
      omega

/-- The sender gets through, with one frame for each payload. -/
theorem sendProtocolStream_sends (encodable : args.Encodable srcIp dstIp) : ∃ frames,
    sendProtocolStream args = (({} : SenderState).after frames, none) ∧
      List.Forall₂ (Wraps args srcIp dstIp) (args.cpis.flatMap args.cpiPayloads) frames := by
  rw [sendProtocolStream, encodable.payloads]
  refine sendLoop_sends encodable _ (fun payload member => ?_) {}
  obtain ⟨cpi, -, sent⟩ := List.mem_flatMap.mp member
  rw [encodable.length_of_mem sent]
  exact encodable.short

theorem sendProtocolStream_lengths (encodable : args.Encodable srcIp dstIp) :
    ∀ frame ∈ (sendProtocolStream args).1.sent, frame.length = 42 + args.udpPacketSize := by
  obtain ⟨frames, sends, wrapped⟩ := sendProtocolStream_sends encodable
  intro frame sent
  rw [sends] at sent
  have length : frame.length ∈ frames.map List.length := List.mem_map_of_mem sent
  rw [Wraps.lengths wrapped] at length
  obtain ⟨payload, member, is⟩ := List.mem_map.mp length
  obtain ⟨cpi, -, inside⟩ := List.mem_flatMap.mp member
  rw [← is, encodable.length_of_mem inside]

end ProtocolSender

end RxTech
