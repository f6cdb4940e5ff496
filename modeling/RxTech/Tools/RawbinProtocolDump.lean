import RxTech.Protocol.UdpPayloadAssembler
import RxTech.Tools.RawbinInspector

/-!
# The protocol dump of raw frame segments

`rawbin_protocol_dump.py` up to `load_protocol_frames`.
-/

set_option autoImplicit false

namespace RxTech

namespace RawbinProtocolDump

open RawbinInspector (RawFrameRecord fileMagic fileHeaderSize recordHeaderSize)

def etherTypeIpv4 : Nat := 0x0800

def ipProtoUdp : Nat := 17

def controlMagic : Nat := 0x55AAFF00

def dataMagic : Nat := 0x55AAFF03

def tailMagic : Nat := 0x55AAFF30

inductive FrameKind where
  | control
  | data
  | tail
  deriving DecidableEq, Repr

structure ProtocolFrame where
  recordIndex : Nat
  timestampNs : Nat
  queueId : Nat
  kind : FrameKind
  cpi : Nat
  channel : Nat
  prt : Nat
  packetIndex : Nat
  tail : Nat
  srcIp : String
  dstIp : String
  srcPort : Nat
  dstPort : Nat
  frameLength : Nat
  deriving DecidableEq, Repr

/-- `parse_header`. -/
def parseHeader (data : List UInt8) : Except String Nat :=
  if data.length < fileHeaderSize then .error "rawbin 文件过小，无法读取文件头"
  else
    let magic := data.take 8
    let headerSize := LittleEndian.field data 12 4
    if magic ≠ fileMagic then .error ("rawbin magic 不匹配: " ++ RawbinInspector.reprBytes magic)
    else if headerSize < fileHeaderSize then
      .error ("header_size 非法: " ++ toString headerSize)
    else .ok headerSize

/-- The loop of `iter_records`; a record that is cut off ends it. -/
def iterRecordsFrom (data : List UInt8) (offset index : Nat) : List RawFrameRecord :=
  if offset + recordHeaderSize ≤ data.length then
    let timestampNs := LittleEndian.field data offset 8
    let frameLength := LittleEndian.field data (offset + 8) 4
    let queueId := LittleEndian.field data (offset + 12) 4
    let start := offset + recordHeaderSize
    let stop := start + frameLength
    if stop > data.length then []
    else
      { index, timestampNs, queueId, frame := (data.drop start).take frameLength } ::
        iterRecordsFrom data stop (index + 1)
  else []
  termination_by data.length - offset
  decreasing_by
    simp only [recordHeaderSize] at *
    omega

def frameKind (magic : Nat) : Option FrameKind :=
  if magic = controlMagic then some .control
  else if magic = dataMagic then some .data
  else if magic = tailMagic then some .tail
  else none

/-- The bytes in decimal, with dots in between. -/
def addressText (bytes : List UInt8) : String :=
  String.intercalate "." (bytes.map fun byte => toString byte.toNat)

/-- `parse_protocol_frame`. Behind the UDP header the rest of the frame is the payload. -/
def parseProtocolFrame (record : RawFrameRecord) : Option ProtocolFrame :=
  let frame := record.frame
  let bytes : ByteView := fun offset => frame.getD offset 0
  if frame.length < 14 + 20 + 8 + 16 then none
  else if readU16Be bytes 12 ≠ etherTypeIpv4 then none
  else
    let versionIhl := (bytes 14).toNat
    let version := versionIhl >>> 4
    let ihl := (versionIhl &&& 0x0F) * 4
    if version ≠ 4 ∨ ihl < 20 ∨ frame.length < 14 + ihl + 8 + 16 then none
    else if (bytes 23).toNat ≠ ipProtoUdp then none
    else
      let totalLength := readU16Be bytes 16
      if frame.length < 14 + totalLength then none
      else
        let udpOffset := 14 + ihl
        let udpLength := readU16Be bytes (udpOffset + 4)
        if udpLength < 8 ∨ frame.length < udpOffset + 8 then none
        else
          let payload := frame.drop (udpOffset + 8)
          if payload.length < 16 then none
          else
            (frameKind (LittleEndian.field payload 0 4)).map fun kind =>
              { recordIndex := record.index
                timestampNs := record.timestampNs
                queueId := record.queueId
                kind
                cpi := LittleEndian.field payload 4 2
                channel := LittleEndian.field payload 6 2
                prt := LittleEndian.field payload 8 2
                packetIndex := LittleEndian.field payload 10 2
                tail := LittleEndian.field payload 12 4
                srcIp := addressText (bytes.bytes 26 4)
                dstIp := addressText (bytes.bytes 30 4)
                srcPort := readU16Be bytes udpOffset
                dstPort := readU16Be bytes (udpOffset + 2)
                frameLength := frame.length }

def loadProtocolFrames (data : List UInt8) : Except String (List ProtocolFrame) :=
  match parseHeader data with
  | .error what => .error what
  | .ok headerSize => .ok ((iterRecordsFrom data headerSize 0).filterMap parseProtocolFrame)

/-! ## The dump and the inspector -/

/-- The dump reads the records that the inspector yields. -/
theorem iterRecordsFrom_eq (data : List UInt8) (offset index : Nat) :
    iterRecordsFrom data offset index = (RawbinInspector.iterRecordsFrom data offset index).1 := by
  induction offset, index using iterRecordsFrom.induct data with
  | case1 offset index header frameLength start stop outside =>
      have cut : offset + recordHeaderSize + LittleEndian.field data (offset + 8) 4 > data.length :=
        outside
      rw [iterRecordsFrom, RawbinInspector.iterRecordsFrom, if_pos header, if_pos header]
      dsimp only
      rw [if_pos cut, if_pos cut]
  | case2 offset index header frameLength start stop inside ih =>
      have whole : ¬ offset + recordHeaderSize + LittleEndian.field data (offset + 8) 4 >
          data.length := inside
      rw [iterRecordsFrom, RawbinInspector.iterRecordsFrom, if_pos header, if_pos header]
      dsimp only
      rw [if_neg whole, if_neg whole, ih]
  | case3 offset index short =>
      rw [iterRecordsFrom, RawbinInspector.iterRecordsFrom, if_neg short, if_neg short]

/-- A header that the inspector accepts. -/
theorem parseHeader_of_parseFileHeader {data : List UInt8}
    {header : RawbinInspector.RawFrameFileHeader}
    (parsed : RawbinInspector.parseFileHeader data = .ok header) :
    parseHeader data = .ok header.headerSize := by
  rw [RawbinInspector.parseFileHeader] at parsed
  rw [parseHeader]
  split at parsed
  · cases parsed
  rename_i long
  rw [if_neg long]
  dsimp only at parsed ⊢
  split at parsed
  · cases parsed
  rename_i magic
  rw [if_neg magic]
  split at parsed
  · cases parsed
  rename_i large
  rw [if_neg large]
  cases parsed
  rfl

/-- The dump of a segment that the inspector reads. -/
theorem loadProtocolFrames_of_readRecords {data : List UInt8} {records : List RawFrameRecord}
    {ends : Except String Nat} (reads : RawbinInspector.readRecords data = .ok (records, ends)) :
    loadProtocolFrames data = .ok (records.filterMap parseProtocolFrame) := by
  rw [RawbinInspector.readRecords] at reads
  cases parsed : RawbinInspector.parseFileHeader data with
  | error what =>
      rw [parsed] at reads
      cases reads
  | ok header =>
      rw [parsed] at reads
      have yielded : (RawbinInspector.iterRecords data header.headerSize).1 = records :=
        congrArg Prod.fst (Except.ok.inj reads)
      rw [loadProtocolFrames, parseHeader_of_parseFileHeader parsed, ← yielded,
        RawbinInspector.iterRecords, ← iterRecordsFrom_eq]

end RawbinProtocolDump

end RxTech
