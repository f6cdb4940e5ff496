import RxTech.Runtime.RecorderProperties

/-!
# The segments of a run

A segment file is a header and the records of its frames. The states between the locked
sections of `write_buffer` have names here, and a write that succeeds adds its frame to the
latest segment or to a new one.
-/

set_option autoImplicit false

namespace RxTech

/-- The record of a frame in a segment file. -/
def recordBytes (buffer : RecorderBuffer) : List UInt8 := rawFrameRecordHeader buffer ++ buffer.bytes

@[simp] theorem rawFrameFileHeader_length (createdUnixNs maxFrameBytes : Nat) :
    (rawFrameFileHeader createdUnixNs maxFrameBytes).length = sizeofFileHeader := by
  simp [rawFrameFileHeader, sizeofFileHeader]

@[simp] theorem recordBytes_length (buffer : RecorderBuffer) :
    (recordBytes buffer).length = sizeofRecordHeader + buffer.length := by
  simp only [recordBytes, rawFrameRecordHeader, sizeofRecordHeader, RecorderBuffer.length,
    List.length_append, LittleEndian.encode_length]

/-- A segment by what was written to it. -/
structure Segment where
  path : String
  createdUnixNs : Nat
  frames : List RecorderBuffer

namespace Segment

def bytes (maxFrameBytes : Nat) (segment : Segment) : List UInt8 :=
  rawFrameFileHeader segment.createdUnixNs maxFrameBytes ++ segment.frames.flatMap recordBytes

def append (segment : Segment) (buffer : RecorderBuffer) : Segment :=
  { segment with frames := segment.frames ++ [buffer] }

@[simp] theorem append_bytes (maxFrameBytes : Nat) (segment : Segment) (buffer : RecorderBuffer) :
    (segment.append buffer).bytes maxFrameBytes =
      segment.bytes maxFrameBytes ++ recordBytes buffer := by
  simp [bytes, append]

/-- The file in the model of the recorder. -/
def file (maxFrameBytes : Nat) (segment : Segment) : String × List UInt8 :=
  (segment.path, segment.bytes maxFrameBytes)

/-- A segment is within the limit or holds one frame only. -/
def Limited (settings : RecorderSettings) (segment : Segment) : Prop :=
  (segment.bytes settings.maxFrameBytes).length ≤ settings.segmentBytes ∨
    ∃ buffer, segment.frames = [buffer]

end Segment

/-- The frames of segments whose latest comes first. -/
def framesOf (segments : List Segment) : List RecorderBuffer :=
  segments.reverse.flatMap Segment.frames

private theorem framesOf_cons (segment : Segment) (earlier : List Segment) :
    framesOf (segment :: earlier) = framesOf earlier ++ segment.frames := by
  simp [framesOf]

namespace RecorderState

variable {settings : RecorderSettings} {io : RecorderIo} {state : RecorderState}

/-! ## Between the locked sections -/

/-- The active segment is among the closed ones, before anything is deleted. -/
def closing (state : RecorderState) : RecorderState :=
  { state with
    activeStreamOpen := false
    closedSegments :=
      if state.activeSegmentPath ≠ "" then
        state.closedSegments ++ [(state.activeSegmentPath, state.activeSegmentBytes)]
      else state.closedSegments
    activeSegmentPath := ""
    activeSegmentBytes := 0 }

/-- The path of the next segment. -/
def nextSegmentPath (settings : RecorderSettings) (io : RecorderIo) (state : RecorderState) :
    String :=
  joinPath settings.outputDir
    (makeSegmentName io.localTime settings.filePrefix io.unixNs (state.segmentCounter + 1))

/-- A new segment has its header, and nothing is deleted yet. -/
def opening (settings : RecorderSettings) (io : RecorderIo) (state : RecorderState) :
    RecorderState :=
  let segmentPath := state.nextSegmentPath settings io
  { state with
    segmentCounter := state.segmentCounter + 1
    activeStreamOpen := true
    activeSegmentPath := segmentPath
    activeSegmentBytes := sizeofFileHeader
    retainedBytes := state.retainedBytes + sizeofFileHeader
    stats := { state.stats with latestFilePath := segmentPath }
    files := (segmentPath, rawFrameFileHeader io.createdUnixNs settings.maxFrameBytes) :: state.files }

/-- The record is in the active segment, and nothing is deleted yet. -/
def recorded (buffer : RecorderBuffer) (state : RecorderState) : RecorderState :=
  { state with
    activeSegmentBytes := state.activeSegmentBytes + (sizeofRecordHeader + buffer.length)
    retainedBytes := state.retainedBytes + (sizeofRecordHeader + buffer.length)
    stats :=
      { state.stats with
        writtenFrames := state.stats.writtenFrames + 1
        writtenBytes := state.stats.writtenBytes + buffer.length
        latestFilePath := state.activeSegmentPath }
    files := appendActive (recordBytes buffer) state.files }

theorem appendActive_paths (bytes : List UInt8) (files : List (String × List UInt8)) :
    (appendActive bytes files).map Prod.fst = files.map Prod.fst := by
  cases files with
  | nil => rfl
  | cons file rest => rfl

theorem closeActiveSegment_closed (idle : state.activeStreamOpen = false) :
    state.closeActiveSegment settings io = state := if_pos idle

theorem closeActiveSegment_open (active : state.activeStreamOpen = true) :
    state.closeActiveSegment settings io = state.closing.trimRetention settings io := by
  unfold closeActiveSegment
  rw [if_neg (by simp [active])]
  rfl

theorem ensureActiveSegment_fits {nextRecordBytes : Nat}
    (fits : state.Fits settings nextRecordBytes) :
    state.ensureActiveSegment settings io nextRecordBytes = (state, none) := if_pos fits

theorem ensureActiveSegment_full {nextRecordBytes : Nat}
    (full : ¬ state.Fits settings nextRecordBytes) (opened : io.opened = true)
    (headerWritten : io.headerWritten = true) :
    state.ensureActiveSegment settings io nextRecordBytes =
      (((state.closeActiveSegment settings io).opening settings io).trimRetention settings io,
        none) := by
  have open' : ¬ io.opened = false := by simp [opened]
  have header : ¬ io.headerWritten = false := by simp [headerWritten]
  simp only [ensureActiveSegment, if_neg full, if_neg open', if_neg header]
  rfl

/-- A write that succeeds. -/
theorem writeBuffer_writes {buffer : RecorderBuffer} (writes : state.Writes settings io buffer) :
    state.writeBuffer settings io buffer =
      (((state.ensureActiveSegment settings io (sizeofRecordHeader + buffer.length)).1.recorded
        buffer).trimRetention settings io, none) := by
  have ensured := (ensureActiveSegment_counted state (sizeofRecordHeader + buffer.length)).2.mpr
    writes.1
  have record : ¬ io.recordWritten = false := by simp [writes.2]
  cases active : state.ensureActiveSegment settings io (sizeofRecordHeader + buffer.length) with
  | mk next failure =>
      rw [active] at ensured
      cases ensured
      simp only [writeBuffer, active, if_neg record]
      rfl

/-! ## The log -/

/-- The files are the segments, the active one first, and all of them are within the limit. -/
structure Logged (settings : RecorderSettings) (state : RecorderState) (segments : List Segment) :
    Prop where
  files : state.files = segments.map (Segment.file settings.maxFrameBytes)
  limited : ∀ segment ∈ segments, segment.Limited settings
  active : state.activeStreamOpen = true → ∃ segment earlier, segments = segment :: earlier ∧
    state.activeSegmentPath = segment.path ∧
    state.activeSegmentBytes = (segment.bytes settings.maxFrameBytes).length

theorem Logged.initial (settings : RecorderSettings) {state : RecorderState}
    (files : state.files = []) (idle : state.activeStreamOpen = false) :
    state.Logged settings [] where
  files := files
  limited _ member := by cases member
  active opened := by cases idle.symm.trans opened

/-- Only the files and the active segment matter. -/
theorem Logged.of_same {segments : List Segment} {next : RecorderState}
    (logged : state.Logged settings segments) (files : next.files = state.files)
    (active : next.activeStreamOpen = true → state.activeStreamOpen = true ∧
      next.activeSegmentPath = state.activeSegmentPath ∧
      next.activeSegmentBytes = state.activeSegmentBytes) : next.Logged settings segments where
  files := files.trans logged.files
  limited := logged.limited
  active opened := by
    obtain ⟨before, path, bytes⟩ := active opened
    obtain ⟨segment, earlier, head, atPath, written⟩ := logged.active before
    exact ⟨segment, earlier, head, path.trans atPath, bytes.trans written⟩

theorem Logged.trimRetention {segments : List Segment} (logged : state.Logged settings segments) :
    (state.trimRetention settings io).Logged settings segments :=
  logged.of_same rfl fun opened => ⟨opened, rfl, rfl⟩

theorem Logged.closeActiveSegment {segments : List Segment}
    (logged : state.Logged settings segments) :
    (state.closeActiveSegment settings io).Logged settings segments := by
  cases active : state.activeStreamOpen with
  | false =>
      rw [closeActiveSegment_closed active]
      exact logged
  | true =>
      rw [closeActiveSegment_open active]
      exact logged.of_same rfl fun opened => by cases opened

/-- The record goes to the end of the latest segment. -/
theorem Logged.recorded {segment : Segment} {earlier : List Segment} {buffer : RecorderBuffer}
    (files : state.files = (segment :: earlier).map (Segment.file settings.maxFrameBytes))
    (path : state.activeSegmentPath = segment.path)
    (bytes : state.activeSegmentBytes = (segment.bytes settings.maxFrameBytes).length)
    (limited : (segment.append buffer).Limited settings)
    (others : ∀ segment ∈ earlier, segment.Limited settings) :
    (state.recorded buffer).Logged settings (segment.append buffer :: earlier) where
  files := by
    simp only [RecorderState.recorded, files, List.map_cons, Segment.file, appendActive,
      Segment.append_bytes]
    rfl
  limited := List.forall_mem_cons.mpr ⟨limited, others⟩
  active _ := ⟨_, _, rfl, path, by
    simp only [RecorderState.recorded, bytes, Segment.append_bytes, List.length_append,
      recordBytes_length]⟩

/-- A write adds its frame to the segments. -/
theorem Logged.writeBuffer {segments : List Segment} (logged : state.Logged settings segments)
    {buffer : RecorderBuffer} (writes : state.Writes settings io buffer) :
    ∃ next, (state.writeBuffer settings io buffer).1.Logged settings next ∧
      framesOf next = framesOf segments ++ [buffer] := by
  rw [writeBuffer_writes writes]
  by_cases fits : state.Fits settings (sizeofRecordHeader + buffer.length)
  · obtain ⟨segment, earlier, rfl, path, bytes⟩ := logged.active fits.1
    have room := fits.2
    rw [ensureActiveSegment_fits fits]
    refine ⟨_, (Logged.recorded logged.files path bytes (.inl ?_) fun other inEarlier =>
      logged.limited other (List.mem_cons_of_mem _ inEarlier)).trimRetention, ?_⟩
    · rw [Segment.append_bytes, List.length_append, recordBytes_length, ← bytes]
      exact room
    · rw [framesOf_cons, framesOf_cons, Segment.append, List.append_assoc]
  · obtain ⟨opened, headerWritten⟩ := writes.1.resolve_left fits
    have closed := @Logged.closeActiveSegment settings io state segments logged
    let segment : Segment :=
      { path := (state.closeActiveSegment settings io).nextSegmentPath settings io
        createdUnixNs := io.createdUnixNs
        frames := [] }
    have bytes : segment.bytes settings.maxFrameBytes =
        rawFrameFileHeader io.createdUnixNs settings.maxFrameBytes := List.append_nil _
    rw [ensureActiveSegment_full fits opened headerWritten]
    refine ⟨segment.append buffer :: segments, (Logged.recorded ?_ rfl ?_ (.inr ⟨buffer, rfl⟩)
      closed.limited).trimRetention, framesOf_cons ..⟩
    · rw [List.map_cons, ← closed.files, Segment.file, bytes]
      rfl
    · rw [bytes, rawFrameFileHeader_length]
      rfl

end RecorderState

end RxTech
