import RxTech.Library.LittleEndian

/-!
# The segments of the raw frame recorder

The members of `RawFrameRecorder::Impl` under `state_mutex` and the functions that
write, close and delete segment files.
-/

set_option autoImplicit false

namespace RxTech

/-- The `raw_record` members of `RxConfig`. -/
structure RawRecordConfig where
  enabled : Bool := false
  outputDir : String := "/data/rx_tech_demo/raw_frames"
  filePrefix : String := "radar_raw"
  ringSlots : Nat := 4096
  writerBatchSize : Nat := 64
  maxFrameBytes : Nat := 16384
  segmentBytes : Nat := 5368709120 / 10
  maxTotalBytes : Nat := 5368709120
  deriving DecidableEq, Repr

/-- The members that the constructor clamps. -/
structure RecorderSettings where
  enabled : Bool
  outputDir : String
  filePrefix : String
  ringSlots : Nat
  writerBatchSize : Nat
  maxFrameBytes : Nat
  maxTotalBytes : Nat
  segmentBytes : Nat
  ring_pos : 1 ≤ ringSlots
  batch_pos : 1 ≤ writerBatchSize
  frame_ge : 64 ≤ maxFrameBytes
  total_pos : 1 ≤ maxTotalBytes
  segment_pos : 1 ≤ segmentBytes
  segment_le : segmentBytes ≤ maxTotalBytes

def RecorderSettings.ofConfig (config : RawRecordConfig) : RecorderSettings where
  enabled := config.enabled
  outputDir := config.outputDir
  filePrefix := if config.filePrefix = "" then "radar_raw" else config.filePrefix
  ringSlots := max 1 config.ringSlots
  writerBatchSize := max 1 config.writerBatchSize
  maxFrameBytes := max 64 config.maxFrameBytes
  maxTotalBytes := max 1 config.maxTotalBytes
  segmentBytes := min (max 1 config.segmentBytes) (max 1 config.maxTotalBytes)
  ring_pos := Nat.le_max_left ..
  batch_pos := Nat.le_max_left ..
  frame_ge := Nat.le_max_left ..
  total_pos := Nat.le_max_left ..
  segment_pos := Nat.le_min.mpr ⟨Nat.le_max_left .., Nat.le_max_left ..⟩
  segment_le := Nat.min_le_right ..

structure RawFrameRecorderStats where
  writtenFrames : Nat := 0
  writtenBytes : Nat := 0
  droppedFrames : Nat := 0
  droppedBytes : Nat := 0
  retainedBytes : Nat := 0
  queueHighWatermark : Nat := 0
  latestFilePath : String := ""
  deriving DecidableEq, Repr

/-- A filled buffer; only its first `length` bytes are ever read. -/
structure RecorderBuffer where
  bytes : List UInt8
  timestampNs : Nat
  queueId : Nat
  deriving DecidableEq, Repr

def RecorderBuffer.length (buffer : RecorderBuffer) : Nat := buffer.bytes.length

/-- What the system answers while a buffer is written: the clock, the local time as
`strftime` prints it, the calls on the file and the deletions. -/
structure RecorderIo where
  unixNs : Nat := 0
  createdUnixNs : Nat := 0
  localTime : Nat → String := fun _ => ""
  opened : Bool := true
  headerWritten : Bool := true
  recordWritten : Bool := true
  removed : String → Bool := fun _ => true

/-- `files` are the files written, the latest first. What a failed write leaves in a
file is left out. -/
structure RecorderState where
  stats : RawFrameRecorderStats := {}
  closedSegments : List (String × Nat) := []
  activeSegmentPath : String := ""
  activeStreamOpen : Bool := false
  activeSegmentBytes : Nat := 0
  retainedBytes : Nat := 0
  segmentCounter : Nat := 0
  failureMessage : String := ""
  files : List (String × List UInt8) := []

/-! ## Paths -/

def isPathSeparator (char : Char) : Bool := char = '/' || char = '\\'

def joinPath (base name : String) : String :=
  match base.toList.getLast? with
  | none => name
  | some last => if isPathSeparator last then base ++ name else base ++ "/" ++ name

def pathFilename (path : String) : String :=
  String.ofList (path.toList.reverse.takeWhile fun char => !isPathSeparator char).reverse

/-- From the last dot of the file name on. -/
def pathExtension (path : String) : String :=
  let filename := (pathFilename path).toList
  if '.' ∈ filename then
    String.ofList ('.' :: (filename.reverse.takeWhile fun char => char ≠ '.').reverse)
  else ""

/-- `setw(6) << setfill('0')`. -/
def paddedCounter (counter : Nat) : String :=
  let digits := Nat.toDigits 10 counter
  String.ofList (List.replicate (6 - digits.length) '0' ++ digits)

def makeSegmentName (localTime : Nat → String) (filePrefix : String) (unixNs counter : Nat) :
    String :=
  filePrefix ++ "_" ++ localTime (unixNs / 1000000000) ++ "_" ++ paddedCounter counter ++ ".rawbin"

/-- An entry of the output directory. -/
structure DirectoryEntry where
  name : String
  isRegular : Bool
  size : Nat
  deriving DecidableEq, Repr

def isManagedSegmentFile (outputDir : String) (entry : DirectoryEntry) (filePrefix : String) :
    Bool :=
  let path := joinPath outputDir entry.name
  entry.isRegular && pathExtension path = ".rawbin" &&
    (filePrefix ++ "_").toList.isPrefixOf (pathFilename path).toList

/-! ## Segment files -/

/-- `RawFrameFileHeader`. -/
def rawFrameFileHeader (createdUnixNs maxFrameBytes : Nat) : List UInt8 :=
  [0x52, 0x58, 0x52, 0x41, 0x57, 0x30, 0x31, 0] ++ LittleEndian.encode 4 1 ++
    LittleEndian.encode 4 32 ++ LittleEndian.encode 8 createdUnixNs ++
    LittleEndian.encode 4 maxFrameBytes ++ LittleEndian.encode 4 0

/-- `RawFrameRecordHeader`. -/
def rawFrameRecordHeader (buffer : RecorderBuffer) : List UInt8 :=
  LittleEndian.encode 8 buffer.timestampNs ++ LittleEndian.encode 4 buffer.length ++
    LittleEndian.encode 4 buffer.queueId

def sizeofFileHeader : Nat := 32

def sizeofRecordHeader : Nat := 16

namespace RecorderState

variable (settings : RecorderSettings) (io : RecorderIo)

/-- The loop of `trim_retention_locked`, oldest segment first. -/
def trimSegments (maxTotalBytes : Nat) (removed : String → Bool) :
    List (String × Nat) → Nat → List (String × Nat) × Nat
  | [], retainedBytes => ([], retainedBytes)
  | oldest :: rest, retainedBytes =>
      if retainedBytes > maxTotalBytes then
        trimSegments maxTotalBytes removed rest
          (if removed oldest.1 then
            if retainedBytes > oldest.2 then retainedBytes - oldest.2 else 0
          else retainedBytes)
      else (oldest :: rest, retainedBytes)

/-- `trim_retention_locked`, and `stats.retained_bytes = retained_bytes` behind it. -/
def trimRetention (state : RecorderState) : RecorderState :=
  let (closedSegments, retainedBytes) :=
    trimSegments settings.maxTotalBytes io.removed state.closedSegments state.retainedBytes
  { state with
    closedSegments
    retainedBytes
    stats := { state.stats with retainedBytes } }

/-- `load_existing_segments_locked`; a directory that cannot be opened has no entries. -/
def loadExistingSegments (entries : List DirectoryEntry) (state : RecorderState) :
    RecorderState :=
  let managed := entries.filter fun entry =>
    entry.name ≠ "." && entry.name ≠ ".." &&
      isManagedSegmentFile settings.outputDir entry settings.filePrefix
  let segments := (managed.map fun entry => (joinPath settings.outputDir entry.name, entry.size))
    |>.mergeSort fun first second => decide (first.1 ≤ second.1)
  { state with
    closedSegments := segments
    retainedBytes := (segments.map Prod.snd).sum
    segmentCounter := segments.length }

def closeActiveSegment (state : RecorderState) : RecorderState :=
  if state.activeStreamOpen = false then state
  else
    trimRetention settings io
      { state with
        activeStreamOpen := false
        closedSegments :=
          if state.activeSegmentPath ≠ "" then
            state.closedSegments ++ [(state.activeSegmentPath, state.activeSegmentBytes)]
          else state.closedSegments
        activeSegmentPath := ""
        activeSegmentBytes := 0 }

/-- The record goes into the active segment. -/
def Fits (state : RecorderState) (nextRecordBytes : Nat) : Prop :=
  state.activeStreamOpen = true ∧ state.activeSegmentBytes + nextRecordBytes ≤ settings.segmentBytes

instance (state : RecorderState) (nextRecordBytes : Nat) :
    Decidable (state.Fits settings nextRecordBytes) :=
  inferInstanceAs (Decidable (_ ∧ _))

/-- `ensure_active_segment`, with the text of the exception if it throws. -/
def ensureActiveSegment (state : RecorderState) (nextRecordBytes : Nat) :
    RecorderState × Option String :=
  if state.Fits settings nextRecordBytes then (state, none)
  else
    let state := state.closeActiveSegment settings io
    let segmentCounter := state.segmentCounter + 1
    let state := { state with segmentCounter }
    let segmentPath := joinPath settings.outputDir
      (makeSegmentName io.localTime settings.filePrefix io.unixNs segmentCounter)
    if io.opened = false then (state, some ("打开原始帧分段文件失败: " ++ segmentPath))
    else if io.headerWritten = false then
      (state, some ("初始化原始帧分段文件失败: " ++ segmentPath))
    else
      let header := rawFrameFileHeader io.createdUnixNs settings.maxFrameBytes
      let opened : RecorderState :=
        { state with
          activeStreamOpen := true
          activeSegmentPath := segmentPath
          activeSegmentBytes := sizeofFileHeader
          retainedBytes := state.retainedBytes + sizeofFileHeader
          stats := { state.stats with latestFilePath := segmentPath }
          files := (segmentPath, header) :: state.files }
      (opened.trimRetention settings io, none)

/-- Writing to the active stream. -/
def appendActive (bytes : List UInt8) : List (String × List UInt8) → List (String × List UInt8)
  | [] => []
  | (path, written) :: rest => (path, written ++ bytes) :: rest

/-- `write_buffer`, with the text of the exception if it throws. -/
def writeBuffer (state : RecorderState) (buffer : RecorderBuffer) :
    RecorderState × Option String :=
  let recordBytes := sizeofRecordHeader + buffer.length
  match state.ensureActiveSegment settings io recordBytes with
  | (state, some what) => (state, some what)
  | (state, none) =>
      if io.recordWritten = false then
        (state, some ("写入原始帧分段文件失败: " ++ state.activeSegmentPath))
      else
        let written : RecorderState :=
          { state with
            activeSegmentBytes := state.activeSegmentBytes + recordBytes
            retainedBytes := state.retainedBytes + recordBytes
            stats :=
              { state.stats with
                writtenFrames := state.stats.writtenFrames + 1
                writtenBytes := state.stats.writtenBytes + buffer.length
                latestFilePath := state.activeSegmentPath }
            files := appendActive (rawFrameRecordHeader buffer ++ buffer.bytes) state.files }
        (written.trimRetention settings io, none)

end RecorderState

end RxTech
