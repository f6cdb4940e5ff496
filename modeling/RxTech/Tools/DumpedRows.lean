import Mathlib.Data.List.Forall2
import RxTech.Core.HandledDatagrams
import RxTech.Ingress.FrameArrival
import RxTech.Protocol.WireGrammar
import RxTech.Runtime.RecordingRoundTrip
import RxTech.Tools.RawbinProtocolDump

/-!
# The dump of a recorded run

The raw frames of a run and the index stream of the same run: as long as the recorder
drops nothing, the dump of the segments shows every row.
-/

set_option autoImplicit false

namespace RxTech

open LittleEndian (field)

namespace ByteView

variable (data : ByteView)

theorem getElem?_bytes {start length index : Nat} (inside : index < length) :
    (data.bytes start length)[index]? = some (data (start + index)) := by
  rw [bytes, List.getElem?_map, List.getElem?_range inside, Option.map_some]

private theorem bytes_agrees (length : Nat) :
    Agrees (fun offset => (data.bytes 0 length).getD offset 0) data length := by
  intro offset inside
  dsimp only
  rw [List.getD_eq_getElem?_getD, getElem?_bytes data inside, Option.getD_some, Nat.zero_add]

/-- A piece of the first bytes. -/
theorem drop_bytes {start length total : Nat} (inside : start + length ≤ total) :
    ((data.bytes 0 total).drop start).take length = data.bytes start length := by
  refine List.ext_getElem? fun index => ?_
  by_cases early : index < length
  · rw [List.getElem?_take_of_lt early, List.getElem?_drop, getElem?_bytes data (by omega),
      getElem?_bytes data early, Nat.zero_add]
  · rw [List.getElem?_eq_none, List.getElem?_eq_none]
    · rw [bytes_length]
      exact Nat.not_lt.mp early
    · exact Nat.le_trans (List.length_take_le ..) (Nat.not_lt.mp early)

end ByteView

/-! ## Frames that the adapter takes -/

namespace DpdkDatagramAdapter

variable {packet : PacketDesc}

/-- A datagram is that of an IPv4 frame which has passed the checks. -/
theorem adaptFrame_some {adapter : DpdkDatagramAdapter} {stats : BackendStats}
    {datagram : UdpDatagramDesc} (adapted : (adapter.adaptFrame packet stats).2 = some datagram) :
    ∃ data, packet.data = some data ∧ packet.IsIpv4 data ∧
      (PacketDesc.ipv4Packet data).HasUdp ∧ datagram = datagramOf packet data := by
  cases is : packet.data with
  | none =>
      simp only [adaptFrame, is] at adapted
      cases adapted
  | some data =>
      have ipv4 : adaptIpv4 packet data = some datagram := by
        simp only [adaptFrame, is] at adapted
        split at adapted
        · cases adapted
        split at adapted
        · split at adapted
          · cases adapted
          · cases adapted
        · exact adapted
      have both : packet.IsIpv4 data ∧ (PacketDesc.ipv4Packet data).HasUdp := by
        by_contra fails
        rw [adaptIpv4_eq_none fun checks udp => fails ⟨checks, udp⟩] at ipv4
        cases ipv4
      have whole : PacketDesc.flagsAndOffset data &&& 0x3FFF = 0 := by
        simp only [adaptIpv4, Option.ite_none_left_eq_some] at ipv4
        exact not_not.mp ipv4.2.2.2.1
      rw [adaptIpv4_eq_some both.1 whole both.2, Option.some_inj] at ipv4
      exact ⟨data, rfl, both.1, both.2, ipv4.symm⟩

end DpdkDatagramAdapter

/-! ## What the loop submits -/

/-- The packet that the owner loop submits to the recorder for a datagram. -/
def UdpDatagramDesc.recorded (datagram : UdpDatagramDesc) : Option PacketDesc :=
  match datagram.rawFrameData with
  | none => none
  | some data =>
      if datagram.rawFrameLen = 0 then none
      else some
        { data := some data
          len := datagram.rawFrameLen
          tsNs := datagram.tsNs
          queueId := datagram.queueId
          cookie := datagram.cookie }

namespace DpdkDatagramAdapter

/-- The payload of a datagram is a piece of its frame. -/
theorem datagramOf_udpPayload (packet : PacketDesc) (data : ByteView) :
    (datagramOf packet data).udpFrame.udpPayload =
      data.bytes (14 + PacketDesc.ihlWords data * 4 + 8)
        (readU16Be (PacketDesc.ipv4Packet data).ipPayload 4 - 8) := by
  have short := readU16Be_lt (PacketDesc.ipv4Packet data).ipPayload 4
  have length : (UInt32.ofNat (readU16Be (PacketDesc.ipv4Packet data).ipPayload 4 - 8)).toNat =
      readU16Be (PacketDesc.ipv4Packet data).ipPayload 4 - 8 :=
    UInt32.toNat_ofNat_of_lt' (Nat.lt_of_le_of_lt (Nat.sub_le ..)
      (Nat.lt_trans short (by decide)))
  have whole : (datagramOf packet data).udpFrame.udpPayload =
      (List.range (UInt32.ofNat (readU16Be (PacketDesc.ipv4Packet data).ipPayload 4 - 8)).toNat).map
        fun index => (PacketDesc.ipv4Packet data).ipPayload (8 + index) := rfl
  rw [whole, length, ByteView.bytes]
  refine List.map_congr_left fun index _ => ?_
  rw [PacketDesc.ipv4Packet, Nat.add_assoc (14 + PacketDesc.ihlWords data * 4)]

end DpdkDatagramAdapter

namespace RawbinProtocolDump

open RawbinInspector (RawFrameRecord)

/-- What the dump shows of a frame that the adapter takes. -/
theorem parseProtocolFrame_of_frame {record : RawFrameRecord} {packet : PacketDesc}
    {data : ByteView} (holds : record.frame = data.bytes 0 packet.len.toNat)
    (checks : packet.IsIpv4 data) (udp : (PacketDesc.ipv4Packet data).HasUdp) {kind : FrameKind}
    (long : 16 ≤ (DpdkDatagramAdapter.datagramOf packet data).udpFrame.udpPayload.length)
    (magic : frameKind (field ((DpdkDatagramAdapter.datagramOf packet data).udpFrame.udpPayload)
      0 4) = some kind) :
    let datagram := DpdkDatagramAdapter.datagramOf packet data
    parseProtocolFrame record = some
      { recordIndex := record.index
        timestampNs := record.timestampNs
        queueId := record.queueId
        kind
        cpi := field datagram.udpFrame.udpPayload 4 2
        channel := field datagram.udpFrame.udpPayload 6 2
        prt := field datagram.udpFrame.udpPayload 8 2
        packetIndex := field datagram.udpFrame.udpPayload 10 2
        tail := field datagram.udpFrame.udpPayload 12 4
        srcIp := addressText (data.bytes 26 4)
        dstIp := addressText (data.bytes 30 4)
        srcPort := datagram.srcPort
        dstPort := datagram.dstPort
        frameLength := packet.len.toNat } := by
  intro datagram
  have payload := DpdkDatagramAdapter.datagramOf_udpPayload packet data
  have srcPort : datagram.srcPort = readU16Be data (14 + PacketDesc.ihlWords data * 4) := rfl
  have dstPort : datagram.dstPort = readU16Be data (14 + PacketDesc.ihlWords data * 4 + 2) := rfl
  have udpLength : readU16Be (PacketDesc.ipv4Packet data).ipPayload 4 =
      readU16Be data (14 + PacketDesc.ihlWords data * 4 + 4) := rfl
  have agrees := data.bytes_agrees packet.len.toNat
  have size := data.bytes_length 0 packet.len.toNat
  obtain ⟨ipv4Long, etherType, version, ihl, header, ipPayload, total, protocol⟩ := checks
  obtain ⟨udpHeader, udpLong, udpInside⟩ := udp
  change 8 ≤ PacketDesc.totalLength data - PacketDesc.ihlWords data * 4 at udpHeader
  change _ ≤ PacketDesc.totalLength data - PacketDesc.ihlWords data * 4 at udpInside
  have piece := @ByteView.drop_bytes data (14 + PacketDesc.ihlWords data * 4 + 8)
    (readU16Be (PacketDesc.ipv4Packet data).ipPayload 4 - 8) packet.len.toNat (by omega)
  rw [← piece] at payload
  rw [payload, List.length_take] at long
  have fields {offset width : Nat} (inside : offset + width ≤ 16) :
      field ((data.bytes 0 packet.len.toNat).drop (14 + PacketDesc.ihlWords data * 4 + 8)) offset
        width = field datagram.udpFrame.udpPayload offset width := by
    rw [payload]
    exact (LittleEndian.field_take (by omega)).symm
  rw [← fields (by decide)] at magic
  have room : 14 + PacketDesc.ihlWords data * 4 + 8 + 16 ≤ packet.len.toNat := by omega
  have source := agrees.bytes (by omega : 26 + 4 ≤ packet.len.toNat)
  have dest := agrees.bytes (by omega : 30 + 4 ≤ packet.len.toNat)
  simp only [parseProtocolFrame, holds, size]
  generalize data.bytes 0 packet.len.toNat = frame at *
  have byte14 : frame.getD 14 0 = data 14 := agrees 14 (by omega)
  have byte23 : frame.getD 23 0 = data 23 := agrees 23 (by omega)
  have words : (data 14).toNat &&& 0x0F = PacketDesc.ihlWords data := rfl
  rw [agrees.readU16Be 12 (by omega), agrees.readU16Be 16 (by omega), byte14, byte23, words,
    agrees.readU16Be _ (by omega), agrees.readU16Be _ (by omega), agrees.readU16Be _ (by omega)]
  have sized : readU16Be data 16 = PacketDesc.totalLength data := rfl
  have isIpv4 : readU16Be data 12 = etherTypeIpv4 := etherType
  have isUdp : (data 23).toNat = ipProtoUdp := protocol
  have piecesLong := Nat.le_trans long (Nat.min_le_right ..)
  rw [if_neg (by omega), if_neg (not_not.mpr isIpv4), if_neg (by omega), if_neg (not_not.mpr isUdp),
    if_neg (by omega), if_neg (by omega), if_neg (Nat.not_lt.mpr piecesLong), magic, source, dest,
    fields (by decide), fields (by decide), fields (by decide), fields (by decide),
    fields (by decide), srcPort, dstPort]
  rfl

def FrameKind.packetKind : FrameKind → PacketKind
  | .control => .controlTable
  | .data => .dataPacket
  | .tail => .unknown

end RawbinProtocolDump

open RawbinProtocolDump (ProtocolFrame parseProtocolFrame loadProtocolFrames)

/-- The dump says of a packet what its index row says. The row of a control table has no
coordinates. -/
structure IndexRow.ShownBy (row : IndexRow) (frame : ProtocolFrame) : Prop where
  kind : frame.kind.packetKind = row.packetKind
  cpi : frame.cpi = row.cpi.toNat
  placed : row.packetKind = .dataPacket → frame.channel = row.channel ∧ frame.prt = row.prt ∧
    frame.packetIndex = row.packetIndex

/-- The payload of a delivered packet in the terms of the dump. -/
theorem ProcessedPacket.Decodes.shownBy {config : RxConfig} {processed : ProcessedPacket}
    {payload : List UInt8} (decodes : processed.Decodes (protocolSpecFromConfig config) payload)
    (wire : WirePayload (protocolSpecFromConfig config) payload) : ∃ kind,
    RawbinProtocolDump.frameKind (field payload 0 4) = some kind ∧
      ∀ frame : ProtocolFrame, frame.kind = kind → frame.cpi = field payload 4 2 →
        frame.channel = field payload 6 2 → frame.prt = field payload 8 2 →
        frame.packetIndex = field payload 10 2 → processed.indexRow.ShownBy frame := by
  have cpi : processed.indexRow.cpi.toNat = field payload 4 2 :=
    (congrArg UInt16.toNat decodes.interpretedCpi).trans decodes.cpi
  rcases wire.kind with control | data
  · have isKind : processed.indexRow.packetKind = .controlTable :=
      decodes.kind.trans (decodes.control control).1
    refine ⟨.control, ?_, fun frame kind sameCpi _ _ _ => ⟨?_, ?_, ?_⟩⟩
    · rw [control]
      rfl
    · rw [kind, isKind]
      rfl
    · rw [sameCpi, cpi]
    · intro other
      cases isKind.symm.trans other
  · obtain ⟨parsedKind, channel, prt, packetIndex, -⟩ := decodes.data data.magic
    refine ⟨.data, ?_, fun frame kind sameCpi sameChannel samePrt sameIndex => ⟨?_, ?_, ?_⟩⟩
    · rw [data.magic]
      rfl
    · rw [kind]
      exact (decodes.kind.trans parsedKind).symm
    · rw [sameCpi, cpi]
    · intro _
      refine ⟨sameChannel.trans ?_, samePrt.trans ?_, sameIndex.trans ?_⟩
      · exact (decodes.interpretedChannel.trans channel).symm
      · exact (decodes.interpretedPrt.trans prt).symm
      · exact (decodes.interpretedIndex.trans packetIndex).symm

/-- The frame of a delivered packet is recorded, and shown by the dump. -/
theorem RxMbuf.recorded_shown {mbuf : RxMbuf} {localIpBe : Nat} {datagram : UdpDatagramDesc}
    (extracted : mbuf.extractUdpDatagram localIpBe = some datagram) :
    ∃ packet, datagram.recorded = some packet ∧
      ∀ (config : RxConfig) (allowedSourceIpv4Be receiverIpv4Be : Nat) (row : IndexRow),
        (UdpDatagramPipeline.ofConfig config allowedSourceIpv4Be receiverIpv4Be).row? datagram =
          some row →
        ∀ record : RawbinInspector.RawFrameRecord, record.frame = packet.frame →
          ∃ frame, parseProtocolFrame record = some frame ∧ row.ShownBy frame := by
  obtain ⟨data, is, checks, udp, rfl⟩ := DpdkDatagramAdapter.adaptFrame_some extracted
  cases is
  have nonempty : ¬ mbuf.pktLen = 0 := by
    intro empty
    have long : 14 + 20 ≤ mbuf.pktLen.toNat := checks.long
    rw [empty] at long
    exact absurd long (by decide)
  refine ⟨_, if_neg nonempty, ?_⟩
  intro config allowedSourceIpv4Be receiverIpv4Be row asked record holds
  have spec : (UdpDatagramPipeline.ofConfig config allowedSourceIpv4Be receiverIpv4Be).spec =
    protocolSpecFromConfig config := rfl
  obtain ⟨processed, handed, rfl⟩ := Option.map_eq_some_iff.mp asked
  have constants := protocolSpecFromConfig_fromConfig config
  have passed := UdpDatagramPipeline.processDatagram_passed handed
  have wire := (UdpDatagramPipeline.Delivers.wirePayload ⟨_, _, handed⟩ constants
    (protocolSpecFromConfig_wellFormed config)).1
  have decodes := passed.decodes constants
  rw [UdpDatagramPipeline.processDatagram_frame handed] at wire decodes
  rw [spec] at wire decodes
  obtain ⟨kind, magic, shown⟩ := decodes.shownBy wire
  have longPayload := Nat.le_trans (Nat.le_add_right 16 _) (Nat.le_of_eq wire.length.symm)
  have parsed := RawbinProtocolDump.parseProtocolFrame_of_frame holds checks udp longPayload magic
  exact ⟨_, parsed, shown _ rfl rfl rfl rfl rfl⟩

/-! ## A run and its recording -/

/-- The packets that the owner loop submits to the recorder, in order. -/
def OwnerLoop.submits (pipeline : UdpDatagramPipeline) (received : List Received)
    (loop : OwnerLoop) : List PacketDesc :=
  (handled pipeline received loop).filterMap UdpDatagramDesc.recorded

/-- What is left of related elements. -/
theorem sublistForall₂_of_sublist {α β : Type} {related : α → β → Prop} {kept all : List α}
    {others : List β} (shown : List.SublistForall₂ related all others) (sublist : kept.Sublist all) :
    List.SublistForall₂ related kept others := by
  induction shown generalizing kept with
  | nil =>
      rw [List.sublist_nil.mp sublist]
      exact .nil
  | cons head _ ih =>
      cases sublist with
      | cons _ rest => exact .cons_right (ih rest)
      | cons_cons _ rest => exact .cons head (ih rest)
  | cons_right _ ih => exact .cons_right (ih sublist)

/-- The dump of records of the submitted packets shows the rows. -/
theorem rows_shown {config : RxConfig} {allowedSourceIpv4Be receiverIpv4Be localIpBe : Nat}
    {datagrams : List UdpDatagramDesc}
    (extracted : ∀ datagram ∈ datagrams, ∃ mbuf : RxMbuf,
      mbuf.extractUdpDatagram localIpBe = some datagram)
    {records : List RawbinInspector.RawFrameRecord}
    (recorded : records.map RawbinInspector.RawFrameRecord.frame =
      (datagrams.filterMap UdpDatagramDesc.recorded).map PacketDesc.frame) :
    List.SublistForall₂ IndexRow.ShownBy
      (datagrams.filterMap
        (UdpDatagramPipeline.ofConfig config allowedSourceIpv4Be receiverIpv4Be).row?)
      (records.filterMap parseProtocolFrame) := by
  induction datagrams generalizing records with
  | nil => exact .nil
  | cons datagram rest ih =>
      obtain ⟨⟨mbuf, here⟩, later⟩ := List.forall_mem_cons.mp extracted
      obtain ⟨packet, copy, shown⟩ := mbuf.recorded_shown here
      rw [List.filterMap_cons_some copy, List.map_cons, List.map_eq_cons_iff] at recorded
      obtain ⟨record, others, rfl, holds, same⟩ := recorded
      have remaining := ih later same
      cases asked : (UdpDatagramPipeline.ofConfig config allowedSourceIpv4Be
          receiverIpv4Be).row? datagram with
      | none =>
          rw [List.filterMap_cons_none asked]
          cases parsed : parseProtocolFrame record with
          | none =>
              rw [List.filterMap_cons_none parsed]
              exact remaining
          | some frame =>
              rw [List.filterMap_cons_some parsed]
              exact .cons_right remaining
      | some row =>
          obtain ⟨frame, parsed, tells⟩ := shown config allowedSourceIpv4Be receiverIpv4Be row asked
            record holds
          rw [List.filterMap_cons_some asked, List.filterMap_cons_some parsed]
          exact .cons tells remaining

/-- The dump of a raw frame segment. -/
def Segment.dump (file : List UInt8) : List ProtocolFrame :=
  (loadProtocolFrames file).toOption.getD []

/-- The dump of all segments is that of the records of the accepted submits. -/
theorem RawFrameRecorder.segments_dumped {config : RawRecordConfig}
    {directory : Except String (List DirectoryEntry)} {io : RecorderIo}
    {recorder : RawFrameRecorder}
    (starts : (RawFrameRecorder.ofConfig config).start directory io = .ok recorder)
    {labels : List Label} (stopped : (Machine.run step labels recorder).started = false)
    (faultless : Machine.Along step Faultless labels recorder)
    (timed : ∀ packet ∈ acceptedSubmits labels recorder, Timed packet) :
    ∃ records : List RawbinInspector.RawFrameRecord,
      (∀ file ∈ (Machine.run step labels recorder).state.files.reverse,
        ∃ frames, loadProtocolFrames file.2 = .ok frames) ∧
      ((Machine.run step labels recorder).state.files.reverse.flatMap fun file =>
        Segment.dump file.2) = records.filterMap parseProtocolFrame ∧
      records.map RawbinInspector.RawFrameRecord.frame =
        (acceptedSubmits labels recorder).map PacketDesc.frame := by
  obtain ⟨fresh, -, stops⟩ := start_stop starts
  obtain ⟨-, segments, logged, fills⟩ := fresh.run faultless
  rw [stops labels faultless stopped, List.append_nil] at fills
  have typed := fills_typed fills timed
  generalize (Machine.run step labels recorder).state = state at logged ⊢
  generalize (Machine.run step labels recorder).settings = settings at logged
  have loads : ∀ segment ∈ segments.reverse,
      loadProtocolFrames (segment.file settings.maxFrameBytes).2 =
        .ok ((RawbinInspector.numbered 0 segment.frames).filterMap parseProtocolFrame) := by
    intro segment member
    refine RawbinProtocolDump.loadProtocolFrames_of_readRecords
      (RawbinInspector.readRecords_segment _ fun buffer inSegment => typed buffer ?_)
    exact List.mem_flatMap.mpr ⟨segment, member, inSegment⟩
  refine ⟨segments.reverse.flatMap fun segment => RawbinInspector.numbered 0 segment.frames,
    ?_, ?_, ?_⟩
  · rw [logged.files, ← List.map_reverse]
    intro file member
    obtain ⟨segment, inside, rfl⟩ := List.mem_map.mp member
    exact ⟨_, loads segment inside⟩
  · rw [logged.files, ← List.map_reverse, List.flatMap_map, List.filterMap_flatMap]
    refine List.flatMap_congr fun segment inside => ?_
    rw [Segment.dump, loads segment inside]
    rfl
  · have triples := fills_map fills fun packet member => (timed packet member).timed
    have frames := congrArg (List.map fun triple => triple.2.2) triples
    rw [List.map_map, List.map_map] at frames
    refine Eq.trans ?_ frames
    rw [framesOf, List.map_flatMap, List.map_flatMap]
    refine List.flatMap_congr fun segment _ => ?_
    have numbered := congrArg (List.map fun triple => triple.2.2)
      (RawbinInspector.numbered_map 0 segment.frames)
    rwa [List.map_map, List.map_map] at numbered

/-- In every run of the owner loop on the DPDK backend whose recorder takes what the loop
submits, and in every run of the recorder without a failure, the dump of the segments
shows the rows of the index stream, in their order. It may show more: also packets that
the loop filters, rejects or refuses. -/
theorem captured_rows_dumped (config : RxConfig) (allowedSourceIpv4Be receiverIpv4Be : Nat)
    (consumerSchedule clock : List Nat) (localIpBe : Nat) (localMac : Vector UInt8 6)
    (maxBurst : Nat) (polls : List (RxPoll (List RxMbuf))) (raw : RawRecordConfig)
    (directory : Except String (List DirectoryEntry)) (io : RecorderIo)
    (recorder : RawFrameRecorder)
    (starts : (RawFrameRecorder.ofConfig raw).start directory io = .ok recorder)
    (labels : List RawFrameRecorder.Label)
    (stopped : (Machine.run RawFrameRecorder.step labels recorder).started = false)
    (faultless : Machine.Along RawFrameRecorder.step RawFrameRecorder.Faultless labels recorder)
    (taken : RawFrameRecorder.acceptedSubmits labels recorder =
      OwnerLoop.submits (.ofConfig config allowedSourceIpv4Be receiverIpv4Be)
        (polls.map (DpdkIngress.received { localIpBe, localMac } maxBurst))
        (.start config consumerSchedule clock))
    (timed : ∀ packet ∈ RawFrameRecorder.acceptedSubmits labels recorder,
      RawFrameRecorder.Timed packet) :
    let ingress : DpdkIngress := { localIpBe, localMac }
    let loop := (OwnerLoop.mainLoopOn (DpdkIngress.calls maxBurst)
      (.ofConfig config allowedSourceIpv4Be receiverIpv4Be) polls ingress
      (.start config consumerSchedule clock)).2.shutdown
    let segments := (Machine.run RawFrameRecorder.step labels recorder).state.files.reverse
    (∀ file ∈ segments, ∃ frames, loadProtocolFrames file.2 = .ok frames) ∧
      List.SublistForall₂ IndexRow.ShownBy loop.artifacts.indexStream
        (segments.flatMap fun file => Segment.dump file.2) := by
  intro ingress loop files
  let pipeline := UdpDatagramPipeline.ofConfig config allowedSourceIpv4Be receiverIpv4Be
  let received := polls.map (ingress.received maxBurst)
  obtain ⟨records, reads, dumped, recorded⟩ :=
    RawFrameRecorder.segments_dumped starts stopped faultless timed
  refine ⟨reads, ?_⟩
  have run : loop = OwnerLoop.run config allowedSourceIpv4Be receiverIpv4Be consumerSchedule clock
      received := OwnerLoop.mainLoopOn_run ..
  have extracted : ∀ datagram ∈ OwnerLoop.handled pipeline received
      (.start config consumerSchedule clock),
      ∃ mbuf : RxMbuf, mbuf.extractUdpDatagram localIpBe = some datagram := by
    intro datagram member
    have inside := OwnerLoop.mem_of_mem_handled member
    rw [DpdkIngress.datagramsReceived_polls rfl] at inside
    obtain ⟨mbuf, -, here⟩ := List.mem_filterMap.mp inside
    exact ⟨mbuf, here⟩
  rw [taken, OwnerLoop.submits] at recorded
  rw [dumped, run]
  exact sublistForall₂_of_sublist (rows_shown extracted recorded)
    (OwnerLoop.run_rows config allowedSourceIpv4Be receiverIpv4Be consumerSchedule clock received)

/-! ## A recorded control table and data packet -/

def recordedFrame (payload : List UInt8) : List UInt8 :=
  let header : UdpFrameHeader :=
    { dstMac := .replicate 6 2, srcMac := .replicate 6 3, totalLength := 45, identification := 0,
      flagsAndOffset := 0, ttl := 64, headerChecksum := 0, srcIpv4Be := 1, dstIpv4Be := 2,
      srcPort := 3, dstPort := 4, udpLength := 25, udpChecksum := 0 }
  header.frame payload

def recordedMbuf (payload : List UInt8) : RxMbuf :=
  { RxMbuf.ofFrame (recordedFrame payload) with tsNs := 5 }

def recordedPacket (payload : List UInt8) : PacketDesc :=
  { PacketDesc.ofBytes (recordedFrame payload) with tsNs := 5, cookie := 1 }

/-- A control table for CPI 1. -/
def recordedControl : List UInt8 :=
  controlPayload (protocolSpecFromConfig smallConfig) 1 (List.replicate 11 0)

/-- The first data packet of CPI 1. -/
def recordedData : List UInt8 := dataPayload (protocolSpecFromConfig smallConfig) 1 0 1 1 0 [42]

/-- Both packets go through the recorder. -/
def recordedLabels : List RawFrameRecorder.Label :=
  [.enter (recordedPacket recordedControl), .submit 0 1, .submit 0 1, .submit 0 1, .write {},
    .write {}, .write {}, .enter (recordedPacket recordedData), .submit 0 2, .submit 0 2,
    .submit 0 2, .write {}, .write {}, .write {}, .requestStop, .write {}, .write {}, .joinWriter]

private theorem recordedControl_recorded :
    ((recordedMbuf recordedControl).extractUdpDatagram 0).bind
    UdpDatagramDesc.recorded = some (recordedPacket recordedControl) := rfl

private theorem recordedData_recorded : ((recordedMbuf recordedData).extractUdpDatagram 0).bind
    UdpDatagramDesc.recorded = some (recordedPacket recordedData) := rfl

private theorem recorded_submits :
    OwnerLoop.submits (.ofConfig smallConfig 0 0)
      ([⟨[recordedMbuf recordedControl, recordedMbuf recordedData], 0⟩].map
        (DpdkIngress.received { localIpBe := 0, localMac := .replicate 6 2 } 32))
      (.start smallConfig [] []) = [recordedPacket recordedControl, recordedPacket recordedData] := by
  obtain ⟨control, extracted, recorded⟩ := Option.bind_eq_some_iff.mp recordedControl_recorded
  obtain ⟨data, extracted', recorded'⟩ := Option.bind_eq_some_iff.mp recordedData_recorded
  have burst : DpdkIngress.burst { localIpBe := 0, localMac := .replicate 6 2 } 32
      [recordedMbuf recordedControl, recordedMbuf recordedData] = [control, data] := by
    have taken : DpdkIngress.rxBurst 32 [recordedMbuf recordedControl, recordedMbuf recordedData] =
        [recordedMbuf recordedControl, recordedMbuf recordedData] := rfl
    rw [DpdkIngress.burst, taken]
    simp only [List.filterMap_cons, extracted, extracted', List.filterMap_nil]
  have calm : ((OwnerLoop.start smallConfig [] []).onDatagram (.ofConfig smallConfig 0 0)
      (((recordedMbuf recordedControl).extractUdpDatagram 0).getD {})).1.system.runError = "" := by
    decide +kernel
  rw [extracted, Option.getD_some] at calm
  have handled : OwnerLoop.handled (.ofConfig smallConfig 0 0) [.burst [control, data] 0]
      (.start smallConfig [] []) = [control, data] := by
    simp only [OwnerLoop.handled, OwnerLoop.burstHandled, calm, ite_self, List.append_nil,
      ne_eq, not_true_eq_false, if_false]
  rw [List.map_singleton, DpdkIngress.received, if_pos rfl, burst, OwnerLoop.submits, handled,
    List.filterMap_cons_some recorded, List.filterMap_cons_some recorded', List.filterMap_nil]

theorem captured_rows_dumped_both :
    let loop := (OwnerLoop.mainLoopOn (DpdkIngress.calls 32) (.ofConfig smallConfig 0 0)
      [⟨[recordedMbuf recordedControl, recordedMbuf recordedData], 0⟩]
      { localIpBe := 0, localMac := .replicate 6 2 } (.start smallConfig [] [])).2.shutdown
    let segments :=
      (Machine.run RawFrameRecorder.step recordedLabels .recording).state.files.reverse
    loop.artifacts.indexStream.map (fun row => (row.packetKind, row.cpi)) =
        [(.controlTable, 1), (.dataPacket, 1)] ∧
      (∀ file ∈ segments, ∃ frames, loadProtocolFrames file.2 = .ok frames) ∧
      List.SublistForall₂ IndexRow.ShownBy loop.artifacts.indexStream
        (segments.flatMap fun file => Segment.dump file.2) := by
  have accepted : RawFrameRecorder.acceptedSubmits recordedLabels .recording =
      [recordedPacket recordedControl, recordedPacket recordedData] := rfl
  refine ⟨by decide +kernel, captured_rows_dumped smallConfig 0 0 [] [] 0 (.replicate 6 2) 32
    [⟨[recordedMbuf recordedControl, recordedMbuf recordedData], 0⟩] { enabled := true } (.ok []) {}
    .recording RawFrameRecorder.recording_starts recordedLabels rfl
    ⟨trivial, trivial, trivial, trivial, trivial, ⟨.inr ⟨rfl, rfl⟩, rfl⟩, trivial, trivial, trivial,
      trivial, trivial, trivial, ⟨.inl (by decide +kernel), rfl⟩, trivial, trivial, trivial, trivial,
      trivial, trivial⟩ ?_ ?_⟩
  · rw [accepted, recorded_submits]
  · rw [accepted]
    exact List.forall_mem_cons.mpr ⟨⟨by decide, by decide, by decide⟩,
      List.forall_mem_singleton.mpr ⟨by decide, by decide, by decide⟩⟩

end RxTech
