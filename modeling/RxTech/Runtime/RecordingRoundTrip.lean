import RxTech.Runtime.RecorderQueue
import RxTech.Tools.RawbinInspector

/-!
# From a submit to the inspector

The inspector reads from the segments of a run what was submitted and not dropped, in the
order of the submits.
-/

set_option autoImplicit false

namespace RxTech

/-- The frame has the widths of the members of a record. -/
structure RecorderBuffer.Typed (buffer : RecorderBuffer) : Prop where
  timestamp : buffer.timestampNs < 2 ^ 64
  queue : buffer.queueId < 2 ^ 32
  length : buffer.length < 2 ^ 32

namespace RawbinInspector

/-- The records of frames, numbered from `index` on. -/
def numbered (index : Nat) : List RecorderBuffer → List RawFrameRecord
  | [] => []
  | buffer :: rest =>
      { index
        timestampNs := buffer.timestampNs
        queueId := buffer.queueId
        frame := buffer.bytes } :: numbered (index + 1) rest

/-- A record that ends inside the data. -/
theorem iterRecordsFrom_inside {data : List UInt8} {offset frameLength : Nat} (index : Nat)
    (length : LittleEndian.field data (offset + 8) 4 = frameLength)
    (inside : offset + recordHeaderSize + frameLength ≤ data.length) :
    iterRecordsFrom data offset index =
      let (records, ends) := iterRecordsFrom data (offset + recordHeaderSize + frameLength) (index + 1)
      ({ index
         timestampNs := LittleEndian.field data offset 8
         queueId := LittleEndian.field data (offset + 12) 4
         frame := (data.drop (offset + recordHeaderSize)).take frameLength } :: records, ends) := by
  have header : offset + recordHeaderSize ≤ data.length :=
    Nat.le_trans (Nat.le_add_right ..) inside
  rw [iterRecordsFrom, if_pos header]
  simp only [length]
  exact if_neg (Nat.not_lt.mpr inside)

/-- A record with what stands before and behind it. -/
theorem iterRecordsFrom_record (before after : List UInt8) {buffer : RecorderBuffer}
    (typed : buffer.Typed) (index : Nat) :
    iterRecordsFrom (before ++ (recordBytes buffer ++ after)) before.length index =
      let (records, ends) := iterRecordsFrom ((before ++ recordBytes buffer) ++ after)
        (before ++ recordBytes buffer).length (index + 1)
      ({ index
         timestampNs := buffer.timestampNs
         queueId := buffer.queueId
         frame := buffer.bytes } :: records, ends) := by
  obtain ⟨data, whole⟩ : ∃ data, data = before ++ (recordBytes buffer ++ after) := ⟨_, rfl⟩
  have spelled : recordBytes buffer ++ after =
      LittleEndian.encode 8 buffer.timestampNs ++ (LittleEndian.encode 4 buffer.length ++
        (LittleEndian.encode 4 buffer.queueId ++ (buffer.bytes ++ after))) := by
    simp only [recordBytes, rawFrameRecordHeader, List.append_assoc]
  have timestamp : LittleEndian.field data before.length 8 = buffer.timestampNs := by
    have inside := LittleEndian.field_append before (recordBytes buffer ++ after) 0 8
    rw [Nat.add_zero] at inside
    rw [whole, inside, spelled]
    exact LittleEndian.field_encode typed.timestamp _
  have length : LittleEndian.field data (before.length + 8) 4 = buffer.length := by
    rw [whole, LittleEndian.field_append, spelled]
    exact (LittleEndian.field_encode_append 8 _ _ 0 4).trans
      (LittleEndian.field_encode typed.length _)
  have queue : LittleEndian.field data (before.length + 12) 4 = buffer.queueId := by
    rw [whole, LittleEndian.field_append, spelled]
    apply (LittleEndian.field_encode_append 8 _ _ 4 4).trans
    exact (LittleEndian.field_encode_append 4 _ _ 0 4).trans
      (LittleEndian.field_encode typed.queue _)
  have inside : before.length + recordHeaderSize + buffer.length ≤ data.length := by
    simp only [whole, List.length_append, recordBytes_length, sizeofRecordHeader,
      recordHeaderSize]
    omega
  have frame : (data.drop (before.length + recordHeaderSize)).take buffer.length =
      buffer.bytes := by
    have header : (before ++ rawFrameRecordHeader buffer).length =
        before.length + recordHeaderSize := by
      simp [rawFrameRecordHeader, recordHeaderSize]
    have split : data = (before ++ rawFrameRecordHeader buffer) ++ (buffer.bytes ++ after) := by
      simp only [whole, recordBytes, List.append_assoc]
    rw [split, ← header, List.drop_left]
    exact List.take_left
  have next : before.length + recordHeaderSize + buffer.length =
      (before ++ recordBytes buffer).length := by
    rw [List.length_append, recordBytes_length, ← Nat.add_assoc]
    rfl
  rw [List.append_assoc, ← whole, iterRecordsFrom_inside index length inside, timestamp, queue,
    frame, next]

/-- The records are read back up to the end of the data. -/
theorem iterRecordsFrom_flatMap (frames : List RecorderBuffer)
    (typed : ∀ buffer ∈ frames, buffer.Typed) (before : List UInt8) (index : Nat) :
    iterRecordsFrom (before ++ frames.flatMap recordBytes) before.length index =
      (numbered index frames, .ok (before ++ frames.flatMap recordBytes).length) := by
  induction frames generalizing before index with
  | nil =>
      rw [iterRecordsFrom, if_neg (by simp [recordHeaderSize]), List.flatMap_nil,
        List.append_nil]
      rfl
  | cons buffer rest ih =>
      obtain ⟨first, others⟩ := List.forall_mem_cons.mp typed
      rw [List.flatMap_cons, iterRecordsFrom_record before _ first,
        ih others (before ++ recordBytes buffer) (index + 1), List.append_assoc]
      rfl

theorem numbered_map (index : Nat) (frames : List RecorderBuffer) :
    (numbered index frames).map (fun record => (record.timestampNs, record.queueId, record.frame)) =
      frames.map fun buffer => (buffer.timestampNs, buffer.queueId, buffer.bytes) := by
  induction frames generalizing index with
  | nil => rfl
  | cons buffer rest ih => exact congrArg _ (ih (index + 1))

/-- The header of a segment is accepted. -/
theorem parseFileHeader_header (createdUnixNs maxFrameBytes : Nat) (rest : List UInt8) :
    ∃ header, parseFileHeader (rawFrameFileHeader createdUnixNs maxFrameBytes ++ rest) =
      .ok header ∧ header.headerSize = fileHeaderSize := by
  obtain ⟨data, spelled⟩ : ∃ data, data = rawFrameFileHeader createdUnixNs maxFrameBytes ++ rest :=
    ⟨_, rfl⟩
  have long : ¬ data.length < fileHeaderSize := by
    rw [spelled, List.length_append, rawFrameFileHeader_length]
    exact Nat.not_lt.mpr (Nat.le_add_right ..)
  have magic : data.take 8 = fileMagic := by
    rw [spelled, rawFrameFileHeader]
    rfl
  have headerSize : LittleEndian.field data 12 4 = fileHeaderSize := by
    rw [spelled, rawFrameFileHeader]
    simp only [List.append_assoc]
    apply (LittleEndian.field_append fileMagic _ 4 4).trans
    exact (LittleEndian.field_encode_append 4 1 _ 0 4).trans
      (LittleEndian.field_encode (by decide) _)
  have large : ¬ LittleEndian.field data 12 4 < fileHeaderSize := by
    rw [headerSize]
    exact Nat.lt_irrefl _
  rw [← spelled, parseFileHeader, if_neg long]
  simp only [magic, ne_eq, not_true_eq_false, if_false, if_neg large]
  exact ⟨_, rfl, headerSize⟩

/-- A segment is read to its end, and its records are its frames. -/
theorem readRecords_segment (maxFrameBytes : Nat) {segment : Segment}
    (typed : ∀ buffer ∈ segment.frames, buffer.Typed) :
    readRecords (segment.bytes maxFrameBytes) =
      .ok (numbered 0 segment.frames, .ok (segment.bytes maxFrameBytes).length) := by
  obtain ⟨header, parsed, headerSize⟩ := parseFileHeader_header segment.createdUnixNs maxFrameBytes
    (segment.frames.flatMap recordBytes)
  have records := iterRecordsFrom_flatMap segment.frames typed
    (rawFrameFileHeader segment.createdUnixNs maxFrameBytes) 0
  rw [rawFrameFileHeader_length] at records
  simp only [readRecords, Segment.bytes, parsed, iterRecords, headerSize]
  exact congrArg Except.ok records

end RawbinInspector

/-- The bytes behind a descriptor. -/
def PacketDesc.frame (packet : PacketDesc) : List UInt8 :=
  packet.data.elim [] fun data => data.bytes 0 packet.len.toNat

namespace RawFrameRecorder

variable {recorder : RawFrameRecorder}

/-- The submits that are accepted in a run, in the order in which they are queued. -/
def acceptedSubmits (labels : List Label) (recorder : RawFrameRecorder) : List PacketDesc :=
  Machine.answers step accepts labels recorder

/-- The copy of the packet at some time. -/
def Fills (packet : PacketDesc) (buffer : RecorderBuffer) : Prop :=
  ∃ nowNs, buffer = fill packet nowNs

/-- The frames in the segments and in the queue are those of the accepted submits. -/
structure Holds (recorder : RawFrameRecorder) (accepted : List PacketDesc) : Prop where
  sound : recorder.Sound
  segments : ∃ segments, recorder.state.Logged recorder.settings segments ∧
    List.Forall₂ Fills accepted (framesOf segments ++ recorder.pending)

theorem Holds.step {accepted : List PacketDesc} (holds : recorder.Holds accepted) {label : Label}
    (faultless : recorder.Faultless label) :
    (step label recorder).Holds (accepted ++ (accepts label recorder).toList) := by
  have sound := holds.sound.step faultless
  have settings := recorder.step_settings label
  have moves := step_moves holds.sound faultless
  obtain ⟨segments, logged, fills⟩ := holds.segments
  generalize RawFrameRecorder.step label recorder = next at sound settings moves
  cases moves with
  | kept stats state pending refused =>
      rw [refused, Option.toList_none, List.append_nil]
      refine ⟨sound, segments, ?_, ?_⟩
      · rw [settings, state]
        exact ⟨logged.files, logged.limited, logged.active⟩
      · rw [pending]
        exact fills
  | accepted packet nowNs state fits pending queued =>
      rw [queued, Option.toList_some]
      refine ⟨sound, segments, ?_, ?_⟩
      · rw [settings, state]
        exact logged
      · rw [pending, ← List.append_assoc]
        exact List.rel_append fills (.cons ⟨nowNs, rfl⟩ .nil)
  | wrote io buffer write writes state pending =>
      subst write
      obtain ⟨extended, grown, frames⟩ := logged.writeBuffer writes
      have refused : accepts (.write io) recorder = none := rfl
      rw [refused, Option.toList_none, List.append_nil]
      refine ⟨sound, extended, ?_, ?_⟩
      · rw [settings, state]
        exact grown
      · rw [pending] at fills
        rw [frames, List.append_assoc]
        exact fills
  | closed io write state pending =>
      subst write
      have refused : accepts (.write io) recorder = none := rfl
      rw [refused, Option.toList_none, List.append_nil]
      refine ⟨sound, segments, ?_, ?_⟩
      · rw [settings, state]
        exact logged.closeActiveSegment.trimRetention
      · rw [pending]
        exact fills

theorem Holds.run (holds : recorder.Holds []) {labels : List Label}
    (faultless : Machine.Along RawFrameRecorder.step Faultless labels recorder) :
    (Machine.run RawFrameRecorder.step labels recorder).Holds (acceptedSubmits labels recorder) :=
  Machine.run_answers (fun _ _ _ holds faultless => holds.step faultless) holds faultless

/-! ## The order of the submits -/

/-- One thread: a call begins when the one before it has returned. -/
def OneCall (recorder : RawFrameRecorder) : Label → Prop
  | .enter _ => recorder.submits = []
  | _ => True

/-- The submits of a run, in order. -/
def entered (labels : List Label) : List PacketDesc :=
  labels.filterMap fun
    | .enter packet => some packet
    | _ => none

/-- The packet of a call that is not decided. -/
def undecided : SubmitPhase → Option PacketDesc
  | .entered packet | .unfailed packet | .refused packet => some packet
  | .queued _ => none

def inflight (recorder : RawFrameRecorder) : List PacketDesc :=
  recorder.submits.filterMap undecided

private theorem write_submits (recorder : RawFrameRecorder) (io : RecorderIo) :
    (recorder.write io).submits = recorder.submits := by
  cases writer : recorder.writer with
  | waiting =>
      simp only [write, writer]
      split
      · split
        · rfl
        · rfl
      · rfl
  | writing written left =>
      cases left with
      | nil => simp only [write, writer]
      | cons buffer left =>
          simp only [write, writer]
          split
          · rfl
          · rfl
  | caught | failed | closing | leaving | finished => simp only [write, writer]

private theorem inflight_kept {label : Label} {next : RawFrameRecorder}
    (one : recorder.submits.length ≤ 1) (same : next.submits = recorder.submits)
    (refused : accepts label recorder = none) :
    next.submits.length ≤ 1 ∧ ((accepts label recorder).toList ++ next.inflight).Sublist
      (recorder.inflight ++ entered [label]) := by
  have calls : next.inflight = recorder.inflight := congrArg (List.filterMap undecided) same
  rw [same, refused, calls, Option.toList_none, List.nil_append]
  exact ⟨one, List.sublist_append_left ..⟩

/-- The only call goes on. -/
theorem submit_inflight (one : recorder.submits.length ≤ 1) (call nowNs : Nat) :
    (recorder.submit call nowNs).submits.length ≤ 1 ∧
      ((accepts (.submit call nowNs) recorder).toList ++
        (recorder.submit call nowNs).inflight).Sublist recorder.inflight := by
  cases present : recorder.submits[call]? with
  | none =>
      have refused : accepts (.submit call nowNs) recorder = none := by
        simp only [accepts, present]
      rw [refused, Option.toList_none, List.nil_append]
      simp only [submit, present]
      exact ⟨one, List.Sublist.refl _⟩
  | some phase =>
      obtain ⟨inside, at'⟩ := List.getElem?_eq_some_iff.mp present
      have first : call = 0 := by omega
      subst first
      obtain ⟨only, calls⟩ := List.length_eq_one_iff.mp (Nat.le_antisymm one inside)
      have same : only = phase := by simpa [calls] using present
      subst same
      cases only with
      | entered packet =>
          by_cases failed : recorder.state.failureMessage ≠ ""
          · simp [submit, accepts, advance, calls, inflight, undecided, if_pos failed, drop]
          · simp [submit, accepts, advance, calls, inflight, undecided, if_neg failed]
      | unfailed packet =>
          by_cases long : packet.len.toNat > recorder.settings.maxFrameBytes
          · simp [submit, accepts, advance, calls, inflight, undecided, if_pos long, drop]
          by_cases full : recorder.stopRequested = true ∨ recorder.freeBuffers = 0
          · simp [submit, accepts, advance, calls, inflight, undecided, if_neg long, if_pos full]
          · simp [submit, accepts, advance, calls, inflight, undecided, if_neg long, if_neg full]
      | refused packet => simp [submit, accepts, advance, calls, inflight, undecided, drop]
      | queued queueDepth => simp [submit, accepts, advance, calls, inflight, undecided]

private theorem step_inflight (one : recorder.submits.length ≤ 1) {label : Label}
    (alone : recorder.OneCall label) :
    (step label recorder).submits.length ≤ 1 ∧
      ((accepts label recorder).toList ++ (step label recorder).inflight).Sublist
        (recorder.inflight ++ entered [label]) := by
  cases label with
  | enter packet =>
      have none : accepts (.enter packet) recorder = none := rfl
      have free : recorder.submits = [] := alone
      rw [none, Option.toList_none, List.nil_append]
      simp only [step, enter]
      split
      · simp [inflight, entered, free, undecided]
      · simp [inflight, free]
  | submit call nowNs =>
      obtain ⟨atMost, decided⟩ := submit_inflight one call nowNs
      exact ⟨atMost, decided.trans (List.sublist_append_left ..)⟩
  | write io => exact inflight_kept one (recorder.write_submits io) rfl
  | requestStop =>
      refine inflight_kept one ?_ rfl
      simp only [step, requestStop]
      split
      · rfl
      · rfl
  | joinWriter =>
      refine inflight_kept one ?_ rfl
      simp only [step, joinWriter]
      split
      · split
        · rfl
        · rfl
      · rfl

/-- With one thread, the submits are accepted in their order. -/
theorem accepted_sublist (one : recorder.submits.length ≤ 1) {labels : List Label}
    (alone : Machine.Along step OneCall labels recorder) :
    (acceptedSubmits labels recorder).Sublist (recorder.inflight ++ entered labels) := by
  induction labels generalizing recorder with
  | nil => exact List.nil_sublist _
  | cons label rest ih =>
      obtain ⟨atMost, decided⟩ := step_inflight one alone.1
      have later := ih atMost alone.2
      have all : entered (label :: rest) = entered [label] ++ entered rest :=
        List.filterMap_append (l := [label])
      rw [all, ← List.append_assoc]
      refine List.Sublist.trans ?_ (decided.append_right (entered rest))
      rw [List.append_assoc]
      exact later.append_left _

/-! ## Whole runs -/

/-- A recorder that is not enabled does nothing. -/
theorem disabled_run {config : RawRecordConfig} (disabled : config.enabled = false)
    (labels : List Label) :
    Machine.run step labels (ofConfig config) = ofConfig config := by
  have off : (ofConfig config).settings.enabled = false := disabled
  refine @Machine.run_invariant_of_step _ _ step (· = ofConfig config)
    (fun state label same => ?_) labels _ rfl
  subst same
  cases label with
  | enter packet => exact if_neg fun records => by cases off.symm.trans records.1
  | submit call nowNs => rfl
  | write io => rfl
  | requestStop => exact if_pos (.inl off)
  | joinWriter => rfl

/-- What `start` leaves, and what waits when `stop` has returned. -/
theorem start_stop {config : RawRecordConfig} {directory : Except String (List DirectoryEntry)}
    {io : RecorderIo} (starts : (ofConfig config).start directory io = .ok recorder) :
    recorder.Holds [] ∧ recorder.submits = [] ∧
      ∀ labels, Machine.Along step Faultless labels recorder →
        (Machine.run step labels recorder).started = false →
        (Machine.run step labels recorder).pending = [] := by
  cases enabled : config.enabled with
  | false =>
      have same : recorder = ofConfig config := by
        have stays : (ofConfig config).start directory io = .ok (ofConfig config) :=
          if_pos (.inl enabled)
        cases stays.symm.trans starts
        rfl
      subst same
      refine ⟨⟨trivial, [], .initial _ rfl rfl, .nil⟩, rfl, fun labels _ _ => ?_⟩
      rw [disabled_run enabled]
      rfl
  | true =>
      obtain ⟨running, sound, -⟩ := start_running enabled starts
      have fresh : recorder.Holds [] ∧ recorder.submits = [] := by
        obtain ⟨-, rfl⟩ | ⟨entries, -, -, rfl⟩ := start_outcome starts
        · exact ⟨⟨trivial, [], .initial _ rfl rfl, .nil⟩, rfl⟩
        · exact ⟨⟨trivial, [], .initial _ rfl rfl, .nil⟩, rfl⟩
      refine ⟨fresh.1, fresh.2, fun labels faultless stopped => ?_⟩
      have finished := (run_running running labels).joined stopped
      have ends := (run_accounted running sound faultless).1
      simp only [Sound, finished] at ends
      rw [pending, finished, ends.2]
      rfl

/-- The frames of accepted submits with a time are the copies of the packets. -/
theorem fills_map {accepted : List PacketDesc} {frames : List RecorderBuffer}
    (fills : List.Forall₂ Fills accepted frames) (timed : ∀ packet ∈ accepted, packet.tsNs ≠ 0) :
    frames.map (fun buffer => (buffer.timestampNs, buffer.queueId, buffer.bytes)) =
      accepted.map fun packet => (packet.tsNs, packet.queueId, packet.frame) := by
  induction fills with
  | nil => rfl
  | cons head _ ih =>
      obtain ⟨first, others⟩ := List.forall_mem_cons.mp timed
      obtain ⟨nowNs, rfl⟩ := head
      rw [List.map_cons, List.map_cons, ih others, fill, if_pos first]
      rfl

/-- A descriptor with the widths of its members, and a time. -/
structure Timed (packet : PacketDesc) : Prop where
  timed : packet.tsNs ≠ 0
  timestamp : packet.tsNs < 2 ^ 64
  queue : packet.queueId < 2 ^ 32

theorem fills_typed {accepted : List PacketDesc} {frames : List RecorderBuffer}
    (fills : List.Forall₂ Fills accepted frames) (timed : ∀ packet ∈ accepted, Timed packet) :
    ∀ buffer ∈ frames, buffer.Typed := by
  induction fills with
  | nil => exact nofun
  | @cons packet buffer _ _ head _ ih =>
      obtain ⟨first, others⟩ := List.forall_mem_cons.mp timed
      refine List.forall_mem_cons.mpr ⟨?_, ih others⟩
      obtain ⟨nowNs, rfl⟩ := head
      refine ⟨?_, first.queue, Nat.lt_of_le_of_lt (fill_length packet nowNs) packet.len.toNat_lt⟩
      rw [fill, if_pos first.timed]
      exact first.timestamp

end RawFrameRecorder

namespace RecorderState

/-- What a path holds before retention deletes it: the file written there last. -/
def onDisk (state : RecorderState) (path : String) : Option (List UInt8) :=
  state.files.lookup path

private theorem onDisk_of_distinct {state : RecorderState}
    (distinct : (state.files.map Prod.fst).Nodup) :
    ∀ file ∈ state.files, state.onDisk file.1 = some file.2 := by
  unfold onDisk
  generalize state.files = files at distinct
  induction files with
  | nil => exact nofun
  | cons latest earlier ih =>
      obtain ⟨absent, others⟩ := List.nodup_cons.mp distinct
      refine List.forall_mem_cons.mpr ⟨List.lookup_cons_self, fun file member => ?_⟩
      have different : (file.1 == latest.1) = false := by
        refine beq_eq_false_iff_ne.mpr fun same => absent ?_
        exact same ▸ List.mem_map_of_mem member
      rw [List.lookup_cons, different]
      exact ih others file member

end RecorderState

/-- In every run without a failure, the inspector reads every segment to its end, and the
records of all segments in the order of their creation are the accepted submits. -/
theorem recording_round_trip (config : RawRecordConfig)
    (directory : Except String (List DirectoryEntry)) (io : RecorderIo)
    (recorder : RawFrameRecorder)
    (starts : (RawFrameRecorder.ofConfig config).start directory io = .ok recorder)
    (labels : List RawFrameRecorder.Label)
    (stopped : (Machine.run RawFrameRecorder.step labels recorder).started = false)
    (faultless : Machine.Along RawFrameRecorder.step RawFrameRecorder.Faultless labels recorder)
    (alone : Machine.Along RawFrameRecorder.step RawFrameRecorder.OneCall labels recorder)
    (timed : ∀ packet ∈ RawFrameRecorder.entered labels, RawFrameRecorder.Timed packet)
    (distinct : ((Machine.run RawFrameRecorder.step labels recorder).state.files.map
      Prod.fst).Nodup) :
    let state := (Machine.run RawFrameRecorder.step labels recorder).state
    let accepted := RawFrameRecorder.acceptedSubmits labels recorder
    (∀ file ∈ state.files, state.onDisk file.1 = some file.2 ∧
      ∃ records, RawbinInspector.readRecords file.2 = .ok (records, .ok file.2.length)) ∧
    (state.files.reverse.flatMap fun file => RawbinInspector.recordsOf file.2).map
        (fun record => (record.timestampNs, record.queueId, record.frame)) =
      accepted.map (fun packet => (packet.tsNs, packet.queueId, packet.frame)) ∧
    accepted.Sublist (RawFrameRecorder.entered labels) := by
  intro state accepted
  obtain ⟨fresh, idle, stops⟩ := RawFrameRecorder.start_stop starts
  obtain ⟨-, segments, logged, fills⟩ := fresh.run faultless
  have ordered : accepted.Sublist (RawFrameRecorder.entered labels) := by
    have sublist := RawFrameRecorder.accepted_sublist (by rw [idle]; exact Nat.zero_le _) alone
    rw [RawFrameRecorder.inflight, idle] at sublist
    exact sublist
  have inTime : ∀ packet ∈ accepted, RawFrameRecorder.Timed packet := fun packet member =>
    timed packet (ordered.subset member)
  rw [stops labels faultless stopped, List.append_nil] at fills
  have typed := RawFrameRecorder.fills_typed fills inTime
  let maxFrameBytes :=
    (Machine.run RawFrameRecorder.step labels recorder).settings.maxFrameBytes
  have reads : ∀ segment ∈ segments,
      RawbinInspector.readRecords (segment.bytes maxFrameBytes) =
        .ok (RawbinInspector.numbered 0 segment.frames,
          .ok (segment.bytes maxFrameBytes).length) :=
    fun segment member => RawbinInspector.readRecords_segment _ fun buffer inSegment =>
      typed buffer (List.mem_flatMap.mpr ⟨segment, List.mem_reverse.mpr member, inSegment⟩)
  refine ⟨fun file member => ⟨RecorderState.onDisk_of_distinct distinct file member, ?_⟩, ?_,
    ordered⟩
  · rw [logged.files] at member
    obtain ⟨segment, inLog, rfl⟩ := List.mem_map.mp member
    exact ⟨_, reads segment inLog⟩
  · have records : ∀ segment ∈ segments,
        RawbinInspector.recordsOf (segment.file maxFrameBytes).2 =
          RawbinInspector.numbered 0 segment.frames := by
      intro segment member
      rw [RawbinInspector.recordsOf, Segment.file, reads segment member]
    rw [logged.files, ← List.map_reverse, List.flatMap_map,
      List.flatMap_congr fun segment member => records segment (List.mem_reverse.mp member),
      List.map_flatMap]
    simp only [RawbinInspector.numbered_map]
    rw [← List.map_flatMap]
    exact RawFrameRecorder.fills_map fills fun packet member => (inTime packet member).timed

namespace RawFrameRecorder

/-- A segment has room for one short frame. -/
def rotatingConfig : RawRecordConfig where
  enabled := true
  segmentBytes := 60

def rotating : RawFrameRecorder where
  settings := .ofConfig rotatingConfig
  freeBuffers := 4096
  started := true

private theorem rotating_starts : (ofConfig rotatingConfig).start (.ok []) {} = .ok rotating := by
  simp [start, ofConfig, rotating, rotatingConfig, RecorderSettings.ofConfig,
    RecorderState.loadExistingSegments, RecorderState.trimRetention, RecorderState.trimSegments]

/-- Three frames with a time, the last two in one batch; each is written to its own segment. -/
def timedFrames : List Label :=
  let packet := fun tsNs => { PacketDesc.ofBytes [1, 2, 3] with tsNs, queueId := 7 }
  [.enter (packet 5), .submit 0 1, .submit 0 1, .submit 0 1, .write {}, .write {}, .write {},
    .enter (packet 6), .submit 0 2, .submit 0 2, .submit 0 2,
    .enter (packet 7), .submit 0 3, .submit 0 3, .submit 0 3, .write {}, .write {}, .write {},
    .write {}, .requestStop, .write {}, .write {}, .joinWriter]

end RawFrameRecorder

theorem recording_round_trip_timed :
    let state := (Machine.run RawFrameRecorder.step RawFrameRecorder.timedFrames .rotating).state
    state.files.length = 3 ∧
      (state.files.reverse.flatMap fun file => RawbinInspector.recordsOf file.2).map
          (fun record => (record.timestampNs, record.queueId, record.frame)) =
        [(5, 7, [1, 2, 3]), (6, 7, [1, 2, 3]), (7, 7, [1, 2, 3])] :=
  ⟨rfl, (recording_round_trip RawFrameRecorder.rotatingConfig (.ok []) {} .rotating
    RawFrameRecorder.rotating_starts RawFrameRecorder.timedFrames rfl
    ⟨trivial, trivial, trivial, trivial, trivial, ⟨.inr ⟨rfl, rfl⟩, rfl⟩, trivial, trivial,
      trivial, trivial, trivial, trivial, trivial, trivial, trivial, trivial,
      ⟨.inr ⟨rfl, rfl⟩, rfl⟩, ⟨.inr ⟨rfl, rfl⟩, rfl⟩, trivial, trivial, trivial, trivial,
      trivial, trivial⟩
    ⟨rfl, trivial, trivial, trivial, trivial, trivial, trivial, rfl, trivial, trivial,
      trivial, rfl, trivial, trivial, trivial, trivial, trivial, trivial, trivial, trivial,
      trivial, trivial, trivial, trivial⟩
    (List.forall_mem_cons.mpr ⟨⟨by decide, by decide, by decide⟩, List.forall_mem_cons.mpr
      ⟨⟨by decide, by decide, by decide⟩, List.forall_mem_cons.mpr
        ⟨⟨by decide, by decide, by decide⟩, nofun⟩⟩⟩)
    (by decide +kernel)).2.1⟩

end RxTech
