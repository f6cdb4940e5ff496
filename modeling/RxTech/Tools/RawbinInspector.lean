import RxTech.Library.LittleEndian

/-!
# The inspector of raw frame segments

`parse_file_header` and `iter_records` of `rawbin_inspector.py`.
-/

set_option autoImplicit false

namespace RxTech

namespace RawbinInspector

/-- `FILE_MAGIC`. -/
def fileMagic : List UInt8 := [0x52, 0x58, 0x52, 0x41, 0x57, 0x30, 0x31, 0]

/-- `FILE_HEADER_STRUCT.size`, for the format `<8sIIQII`. -/
def fileHeaderSize : Nat := 32

/-- `RECORD_HEADER_STRUCT.size`, for the format `<QII`. -/
def recordHeaderSize : Nat := 16

structure RawFrameFileHeader where
  magic : List UInt8
  version : Nat
  headerSize : Nat
  createdUnixNs : Nat
  maxFrameBytes : Nat
  reserved : Nat
  deriving DecidableEq, Repr

structure RawFrameRecord where
  index : Nat
  timestampNs : Nat
  queueId : Nat
  frame : List UInt8
  deriving DecidableEq, Repr

/-! ## The text of bytes -/

def hexDigits (byte : UInt8) : String :=
  String.ofList [Nat.digitChar (byte.toNat / 16), Nat.digitChar (byte.toNat % 16)]

/-- A byte between the quotes. -/
def reprByte (quote byte : UInt8) : String :=
  if byte = quote ∨ byte = 92 then "\\" ++ String.singleton (Char.ofNat byte.toNat)
  else if byte = 9 then "\\t"
  else if byte = 10 then "\\n"
  else if byte = 13 then "\\r"
  else if byte < 32 ∨ 127 ≤ byte then "\\x" ++ hexDigits byte
  else String.singleton (Char.ofNat byte.toNat)

/-- `repr` of a bytes object, in single quotes unless only they occur in it. -/
def reprBytes (bytes : List UInt8) : String :=
  let quote : UInt8 := if 39 ∈ bytes ∧ 34 ∉ bytes then 34 else 39
  let quoteText := String.singleton (Char.ofNat quote.toNat)
  "b" ++ quoteText ++ String.join (bytes.map (reprByte quote)) ++ quoteText

/-! ## Reading -/

def parseFileHeader (data : List UInt8) : Except String RawFrameFileHeader :=
  if data.length < fileHeaderSize then .error "文件太小，无法读取 rawbin 文件头"
  else
    let magic := data.take 8
    let headerSize := LittleEndian.field data 12 4
    if magic ≠ fileMagic then .error ("文件 magic 不匹配: " ++ reprBytes magic)
    else if headerSize < fileHeaderSize then
      .error ("header_size 非法: " ++ toString headerSize)
    else
      .ok
        { magic
          version := LittleEndian.field data 8 4
          headerSize
          createdUnixNs := LittleEndian.field data 16 8
          maxFrameBytes := LittleEndian.field data 24 4
          reserved := LittleEndian.field data 28 4 }

def recordError (index frameLength offset fileSize : Nat) : String :=
  "第 " ++ toString index ++ " 条记录越界: frame_length=" ++ toString frameLength ++
    ", offset=" ++ toString offset ++ ", file_size=" ++ toString fileSize

/-- The loop of `iter_records`: the records that it yields, and the offset at which it ends
or the text of its exception. -/
def iterRecordsFrom (data : List UInt8) (offset index : Nat) :
    List RawFrameRecord × Except String Nat :=
  if offset + recordHeaderSize ≤ data.length then
    let timestampNs := LittleEndian.field data offset 8
    let frameLength := LittleEndian.field data (offset + 8) 4
    let queueId := LittleEndian.field data (offset + 12) 4
    let start := offset + recordHeaderSize
    let stop := start + frameLength
    if stop > data.length then ([], .error (recordError index frameLength start data.length))
    else
      let (records, ends) := iterRecordsFrom data stop (index + 1)
      ({ index, timestampNs, queueId, frame := (data.drop start).take frameLength } :: records,
        ends)
  else ([], .ok offset)
  termination_by data.length - offset
  decreasing_by
    simp only [recordHeaderSize] at *
    omega

def iterRecords (data : List UInt8) (headerSize : Nat) :
    List RawFrameRecord × Except String Nat := iterRecordsFrom data headerSize 0

/-- How `main` reads a file. -/
def readRecords (data : List UInt8) :
    Except String (List RawFrameRecord × Except String Nat) :=
  match parseFileHeader data with
  | .error what => .error what
  | .ok fileHeader => .ok (iterRecords data fileHeader.headerSize)

/-- The records read before the end of the file or an exception. -/
def recordsOf (data : List UInt8) : List RawFrameRecord :=
  match readRecords data with
  | .error _ => []
  | .ok (records, _) => records

end RawbinInspector

end RxTech
