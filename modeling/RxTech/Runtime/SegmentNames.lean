import Mathlib.Data.List.TakeDrop
import RxTech.Runtime.RecorderQueue

/-!
# The names of segments over several runs

The number in the name of a segment counts on from the number of segments found at the
start of a run. A run never reuses its own names, and it reuses the name of a retained
segment exactly if that was found under the next number and the text of the second.
-/

set_option autoImplicit false

namespace RxTech

/-! ## Names -/

/-- The path of a segment with a local time and a number. -/
def segmentPath (settings : RecorderSettings) (text : String) (number : Nat) : String :=
  joinPath settings.outputDir
    (settings.filePrefix ++ "_" ++ text ++ "_" ++ paddedCounter number ++ ".rawbin")

private theorem paddedCounter_value (number : Nat) :
    Nat.ofDigitChars 10 (paddedCounter number).toList 0 = number := by
  simp only [paddedCounter, String.toList_ofList, Nat.ofDigitChars_append,
    Nat.ofDigitChars_replicate_zero, Nat.mul_zero, Nat.ofDigitChars_ten_toDigits]

private theorem underscore_not_in_paddedCounter (number : Nat) :
    '_' ∉ (paddedCounter number).toList := by
  simp only [paddedCounter, String.toList_ofList, List.mem_append, List.mem_replicate, not_or]
  exact ⟨fun zero => absurd zero.2 (by decide), Nat.underscore_not_in_toDigits⟩

/-- What follows the last separator. -/
theorem eq_of_append_cons {Entry : Type} [DecidableEq Entry] {separator : Entry}
    {first second head tail : List Entry} (absent : separator ∉ head)
    (missing : separator ∉ tail)
    (same : first ++ separator :: head = second ++ separator :: tail) : head = tail := by
  have last : ∀ before after : List Entry, separator ∉ after →
      (before ++ separator :: after).reverse.takeWhile (fun entry => decide (entry ≠ separator)) =
        after.reverse := by
    intro before after apart
    have others : ∀ entry ∈ after.reverse, decide (entry ≠ separator) = true := by
      intro entry member
      refine decide_eq_true fun equal => apart ?_
      exact equal ▸ List.mem_reverse.mp member
    rw [List.reverse_append, List.reverse_cons, List.append_assoc,
      List.takeWhile_append_of_pos others]
    simp
  have reversed := congrArg
    (fun entries => entries.reverse.takeWhile fun entry => decide (entry ≠ separator)) same
  simp only [last _ _ absent, last _ _ missing] at reversed
  exact List.reverse_injective reversed

private theorem joinPath_injective {base first second : String}
    (same : joinPath base first = joinPath base second) : first = second := by
  unfold joinPath at same
  split at same
  · exact same
  · split at same
    · exact String.append_right_inj _ |>.mp same
    · exact String.append_right_inj _ |>.mp same

/-- The number can be read from the path. -/
theorem segmentPath_number {settings : RecorderSettings} {text other : String}
    {number count : Nat}
    (same : segmentPath settings text number = segmentPath settings other count) :
    number = count := by
  have shape : ∀ stem digits : String, (stem ++ "_" ++ digits ++ ".rawbin").toList =
      (stem.toList ++ '_' :: digits.toList) ++ ".rawbin".toList := by
    intro stem digits
    simp [String.toList_append]
  have names := congrArg String.toList (joinPath_injective same)
  rw [shape, shape] at names
  have digits := eq_of_append_cons (underscore_not_in_paddedCounter number)
    (underscore_not_in_paddedCounter count) (List.append_cancel_right names)
  rw [← paddedCounter_value number, digits, paddedCounter_value]

namespace RecorderState

variable {settings : RecorderSettings} {io : RecorderIo} {state : RecorderState}
  {found : List String}

/-! ## The names of a run -/

/-- The files of a run have numbers up to the counter, and what is closed was found at the
start or is one of them. -/
structure Named (found : List String) (settings : RecorderSettings) (state : RecorderState) :
    Prop where
  written : ∀ path ∈ state.files.map Prod.fst, ∃ text number, number ≤ state.segmentCounter ∧
    path = segmentPath settings text number
  active : state.activeStreamOpen = true → state.activeSegmentPath ∈ state.files.map Prod.fst
  closed : ∀ path ∈ state.closedSegments.map Prod.fst,
    path ∈ found ∨ path ∈ state.files.map Prod.fst

/-- The counter counts what was found and what was opened. -/
def Counted (found : List String) (state : RecorderState) : Prop :=
  state.segmentCounter = found.length + state.files.length

private theorem nextSegmentPath_eq (settings : RecorderSettings) (io : RecorderIo)
    (state : RecorderState) :
    state.nextSegmentPath settings io = segmentPath settings
      (io.localTime (io.unixNs / 1000000000)) (state.segmentCounter + 1) := rfl

private theorem trimSegments_suffix (maxTotalBytes : Nat) (removed : String → Bool)
    (segments : List (String × Nat)) (retainedBytes : Nat) :
    (trimSegments maxTotalBytes removed segments retainedBytes).1 <:+ segments := by
  induction segments generalizing retainedBytes with
  | nil => exact List.suffix_refl _
  | cons oldest rest ih =>
      unfold trimSegments
      split
      · exact (ih _).trans (List.suffix_cons ..)
      · exact List.suffix_refl _

theorem Named.trimRetention (named : state.Named found settings) :
    (state.trimRetention settings io).Named found settings where
  written := named.written
  active := named.active
  closed path member := by
    have suffix := trimSegments_suffix settings.maxTotalBytes io.removed state.closedSegments
      state.retainedBytes
    exact named.closed path ((suffix.map Prod.fst).subset member)

theorem Named.closeActiveSegment (named : state.Named found settings) :
    (state.closeActiveSegment settings io).Named found settings := by
  cases active : state.activeStreamOpen with
  | false =>
      rw [closeActiveSegment_closed active]
      exact named
  | true =>
      rw [closeActiveSegment_open active]
      refine Named.trimRetention ⟨named.written, nofun, ?_⟩
      intro path member
      simp only [RecorderState.closing] at member
      split at member
      · rw [List.map_append] at member
        rcases List.mem_append.mp member with before | last
        · exact named.closed path before
        · rw [List.mem_singleton.mp last]
          exact .inr (named.active active)
      · exact named.closed path member

/-- A number is spent, whether the file can be opened or not. -/
theorem Named.spend {next : RecorderState} (named : state.Named found settings)
    (files : next.files = state.files) (closedSegments : next.closedSegments = state.closedSegments)
    (counter : state.segmentCounter ≤ next.segmentCounter)
    (idle : next.activeStreamOpen = false) : next.Named found settings where
  written path member := by
    rw [files] at member
    obtain ⟨text, number, below, named⟩ := named.written path member
    exact ⟨text, number, Nat.le_trans below counter, named⟩
  active opened := by cases idle.symm.trans opened
  closed := by
    rw [files, closedSegments]
    exact named.closed

theorem Named.opening (named : state.Named found settings) :
    (state.opening settings io).Named found settings where
  written path member := by
    rcases List.mem_cons.mp member with rfl | before
    · exact ⟨_, _, Nat.le_refl _, nextSegmentPath_eq ..⟩
    · obtain ⟨text, number, below, named⟩ := named.written path before
      exact ⟨text, number, Nat.le_succ_of_le below, named⟩
  active _ := List.mem_cons_self
  closed path member := (named.closed path member).imp_right (List.mem_cons_of_mem _)

private theorem closeActiveSegment_counts (state : RecorderState) :
    (state.closeActiveSegment settings io).activeStreamOpen = false ∧
      (state.closeActiveSegment settings io).files = state.files ∧
      (state.closeActiveSegment settings io).segmentCounter = state.segmentCounter := by
  cases active : state.activeStreamOpen with
  | false =>
      rw [closeActiveSegment_closed active]
      exact ⟨active, rfl, rfl⟩
  | true =>
      rw [closeActiveSegment_open active]
      exact ⟨rfl, rfl, rfl⟩

theorem Named.ensureActiveSegment (named : state.Named found settings) (nextRecordBytes : Nat) :
    (state.ensureActiveSegment settings io nextRecordBytes).1.Named found settings ∧
      ((state.ensureActiveSegment settings io nextRecordBytes).2 = none → state.Counted found →
        (state.ensureActiveSegment settings io nextRecordBytes).1.Counted found) := by
  by_cases fits : state.Fits settings nextRecordBytes
  · rw [ensureActiveSegment_fits fits]
    exact ⟨named, fun _ => id⟩
  have closed := @Named.closeActiveSegment settings io state found named
  obtain ⟨idle, files, counter⟩ := @closeActiveSegment_counts settings io state
  cases opened : io.opened with
  | false =>
      simp only [RecorderState.ensureActiveSegment, if_neg fits, opened, if_true]
      exact ⟨closed.spend rfl rfl (Nat.le_succ _) idle, fun impossible => by cases impossible⟩
  | true =>
      cases headerWritten : io.headerWritten with
      | false =>
          simp only [RecorderState.ensureActiveSegment, if_neg fits, opened, headerWritten,
            Bool.true_eq_false, if_false, if_true]
          exact ⟨closed.spend rfl rfl (Nat.le_succ _) idle, fun impossible => by cases impossible⟩
      | true =>
          rw [ensureActiveSegment_full fits opened headerWritten]
          refine ⟨closed.opening.trimRetention, fun _ counted => ?_⟩
          change (state.closeActiveSegment settings io).segmentCounter + 1 =
            found.length + ((state.closeActiveSegment settings io).files.length + 1)
          rw [files, counter, counted, Nat.add_assoc]

theorem Named.writeBuffer (named : state.Named found settings) (buffer : RecorderBuffer) :
    (state.writeBuffer settings io buffer).1.Named found settings ∧
      ((state.writeBuffer settings io buffer).2 = none → state.Counted found →
        (state.writeBuffer settings io buffer).1.Counted found) := by
  obtain ⟨ensured, counts⟩ := named.ensureActiveSegment (sizeofRecordHeader + buffer.length)
  cases active : state.ensureActiveSegment settings io (sizeofRecordHeader + buffer.length) with
  | mk next failure =>
      rw [active] at ensured counts
      cases failure with
      | some what =>
          simp only [RecorderState.writeBuffer, active]
          exact ⟨ensured, fun impossible => by cases impossible⟩
      | none =>
          cases record : io.recordWritten with
          | false =>
              simp only [RecorderState.writeBuffer, active, record, if_true]
              exact ⟨ensured, fun impossible => by cases impossible⟩
          | true =>
              simp only [RecorderState.writeBuffer, active, record, Bool.true_eq_false, if_false]
              have paths := appendActive_paths (recordBytes buffer) next.files
              have written : (next.recorded buffer).Named found settings := by
                refine ⟨?_, ?_, ?_⟩
                · rw [RecorderState.recorded, paths]
                  exact ensured.written
                · rw [RecorderState.recorded, paths]
                  exact ensured.active
                · rw [RecorderState.recorded, paths]
                  exact ensured.closed
              refine ⟨written.trimRetention, fun _ counted => ?_⟩
              have length : (appendActive (recordBytes buffer) next.files).length =
                  next.files.length := by
                have lengths := congrArg List.length paths
                rwa [List.length_map, List.length_map] at lengths
              exact (counts rfl counted).trans (congrArg (found.length + ·) length.symm)

/-- A segment that was found at the start and is retained has the text of the second and the
number behind those found and those written. -/
def Reuses (found : List String) (settings : RecorderSettings) (io : RecorderIo)
    (state : RecorderState) : Prop :=
  ∃ path ∈ found, path ∈ state.closedSegments.map Prod.fst ∧
    path = segmentPath settings (io.localTime (io.unixNs / 1000000000))
      (found.length + state.files.length + 1)

/-- The next segment has the path of a closed one. -/
def Overwrites (settings : RecorderSettings) (io : RecorderIo) (state : RecorderState) : Prop :=
  state.nextSegmentPath settings io ∈ state.closedSegments.map Prod.fst

instance (settings : RecorderSettings) (io : RecorderIo) (state : RecorderState) :
    Decidable (state.Overwrites settings io) :=
  inferInstanceAs (Decidable (_ ∈ _))

theorem Named.overwrites_iff (named : state.Named found settings) (counted : state.Counted found) :
    state.Overwrites settings io ↔ state.Reuses found settings io := by
  have next : state.nextSegmentPath settings io =
      segmentPath settings (io.localTime (io.unixNs / 1000000000))
        (found.length + state.files.length + 1) := by
    rw [nextSegmentPath_eq, counted]
  constructor
  · intro overwrites
    rcases named.closed _ overwrites with inFound | inFiles
    · exact ⟨_, inFound, overwrites, next⟩
    · -- the files of the run have smaller numbers
      obtain ⟨text, number, below, path⟩ := named.written _ inFiles
      have same := segmentPath_number ((nextSegmentPath_eq settings io state).symm.trans path)
      omega
  · rintro ⟨path, -, retained, rfl⟩
    rw [Overwrites, next]
    exact retained

end RecorderState

/-! ## Several runs -/

/-- The recorder of the latest run, and the segments found at its start. -/
structure RecorderRuns where
  recorder : RawFrameRecorder := .ofConfig {}
  found : List String := []

namespace RecorderRuns

/-- A new run finds whatever the runs before it and others left in the directory. -/
inductive Label where
  | start (config : RawRecordConfig) (directory : Except String (List DirectoryEntry))
      (io : RecorderIo)
  | step (label : RawFrameRecorder.Label)

/-- The segments that `load_existing_segments_locked` finds. -/
def foundBy (config : RawRecordConfig) (directory : Except String (List DirectoryEntry)) :
    List String :=
  match config.enabled, directory with
  | true, .ok entries =>
      (({} : RecorderState).loadExistingSegments (.ofConfig config) entries).closedSegments.map
        Prod.fst
  | _, _ => []

def step : Label → RecorderRuns → RecorderRuns
  | .start config directory io, runs =>
      match (RawFrameRecorder.ofConfig config).start directory io with
      | .error _ => runs
      | .ok recorder => { recorder, found := foundBy config directory }
  | .step label, runs => { runs with recorder := RawFrameRecorder.step label runs.recorder }

/-- The state in which a step opens a segment: the segment before it is closed. -/
def opensIn (runs : RecorderRuns) : Label → Option (RecorderState × RecorderIo)
  | .step (.write io) =>
      let recorder := runs.recorder
      match recorder.writer with
      | .writing _ (buffer :: _) =>
          if recorder.state.Fits recorder.settings (sizeofRecordHeader + buffer.length) ∨
              io.opened = false then none
          else some (recorder.state.closeActiveSegment recorder.settings io, io)
      | _ => none
  | _ => none

/-- The writer has not thrown and may open a segment. -/
def Opening : WriterPhase → Prop
  | .waiting | .writing _ _ => True
  | _ => False

structure Numbered (runs : RecorderRuns) : Prop where
  named : runs.recorder.state.Named runs.found runs.recorder.settings
  counted : Opening runs.recorder.writer → runs.recorder.state.Counted runs.found

variable {runs : RecorderRuns}

/-- Only the statistics and the failure message change. -/
theorem Numbered.of_same (numbered : runs.Numbered) {next : RawFrameRecorder}
    (settings : next.settings = runs.recorder.settings)
    (writer : Opening next.writer → Opening runs.recorder.writer)
    (state : ∃ stats failureMessage,
      next.state = { runs.recorder.state with stats, failureMessage }) :
    Numbered { runs with recorder := next } := by
  obtain ⟨stats, failureMessage, state⟩ := state
  obtain ⟨named, counted⟩ := numbered
  refine ⟨?_, fun opening => ?_⟩
  · change next.state.Named runs.found next.settings
    rw [settings, state]
    exact ⟨named.written, named.active, named.closed⟩
  · change next.state.Counted runs.found
    rw [state]
    exact counted (writer opening)

theorem Numbered.submit (numbered : runs.Numbered) (call nowNs : Nat) :
    Numbered { runs with recorder := runs.recorder.submit call nowNs } := by
  have settings := runs.recorder.step_settings (.submit call nowNs)
  have moves := RawFrameRecorder.submit_moves runs.recorder call nowNs
  have writer : (runs.recorder.submit call nowNs).writer = runs.recorder.writer := by
    cases present : runs.recorder.submits[call]? with
    | none => simp only [RawFrameRecorder.submit, present]
    | some phase =>
        have advances := runs.recorder.advance_advances nowNs phase
        simp only [RawFrameRecorder.submit, present]
        split
        · exact advances.writer
        · exact advances.writer
  apply numbered.of_same settings (fun opening => writer ▸ opening)
  cases moves with
  | kept stats state => exact ⟨stats, _, state⟩
  | accepted packet nowNs state => exact ⟨_, _, state⟩
  | wrote io buffer write => cases write
  | closed io write => cases write

theorem Numbered.write (numbered : runs.Numbered) (io : RecorderIo) :
    Numbered { runs with recorder := runs.recorder.write io } := by
  have settings := (runs.recorder.write_same io).1
  cases writer : runs.recorder.writer with
  | waiting =>
      refine numbered.of_same settings (fun _ => by rw [writer]; trivial)
        ⟨runs.recorder.state.stats, runs.recorder.state.failureMessage, ?_⟩
      simp only [RawFrameRecorder.write, writer]
      split
      · split
        · rfl
        · rfl
      · rfl
  | writing written left =>
      cases left with
      | nil =>
          refine numbered.of_same settings (fun _ => by rw [writer]; trivial)
            ⟨runs.recorder.state.stats, runs.recorder.state.failureMessage, ?_⟩
          simp only [RawFrameRecorder.write, writer]
      | cons buffer left =>
          obtain ⟨named, counts⟩ := @RecorderState.Named.writeBuffer _ io _ _ numbered.named buffer
          have counted := numbered.counted (by rw [writer]; trivial)
          simp only [RawFrameRecorder.write, writer]
          split
          · rename_i state result
            rw [result] at named counts
            exact ⟨named, fun _ => counts rfl counted⟩
          · rename_i state what result
            rw [result] at named
            exact ⟨named, fun impossible => by cases impossible⟩
  | caught written left what =>
      refine numbered.of_same settings (fun opening => ?_)
        ⟨runs.recorder.state.stats, what, ?_⟩
      · simp only [RawFrameRecorder.write, writer] at opening
        cases opening
      · simp only [RawFrameRecorder.write, writer]
  | failed written left =>
      refine numbered.of_same settings (fun opening => ?_)
        ⟨runs.recorder.state.stats, runs.recorder.state.failureMessage, ?_⟩
      · simp only [RawFrameRecorder.write, writer] at opening
        cases opening
      · simp only [RawFrameRecorder.write, writer]
  | closing =>
      simp only [RawFrameRecorder.write, writer]
      exact ⟨numbered.named.closeActiveSegment, fun impossible => by cases impossible⟩
  | leaving =>
      simp only [RawFrameRecorder.write, writer]
      exact ⟨numbered.named.closeActiveSegment.trimRetention, fun impossible => by cases impossible⟩
  | finished =>
      simp only [RawFrameRecorder.write, writer]
      exact numbered

theorem Numbered.step (numbered : runs.Numbered) (label : Label) :
    (step label runs).Numbered := by
  cases label with
  | start config directory io =>
      cases started : (RawFrameRecorder.ofConfig config).start directory io with
      | error what =>
          simp only [RecorderRuns.step, started]
          exact numbered
      | ok recorder =>
          simp only [RecorderRuns.step, started]
          obtain ⟨disabled | again, rfl⟩ | ⟨entries, rfl, on, rfl⟩ :=
            RawFrameRecorder.start_outcome started
          · have disabled : config.enabled = false := disabled
            have found : foundBy config directory = [] := by
              simp only [foundBy, disabled]
            exact ⟨⟨nofun, nofun, nofun⟩, fun _ => by rw [found]; rfl⟩
          · cases again
          · have enabled : config.enabled = true := on
            have found : foundBy config (.ok entries) =
                (({} : RecorderState).loadExistingSegments (.ofConfig config)
                  entries).closedSegments.map Prod.fst := by
              simp only [foundBy, enabled]
            refine ⟨?_, fun _ => ?_⟩
            · refine RecorderState.Named.trimRetention ⟨nofun, nofun, fun path member => ?_⟩
              exact .inl (found ▸ member)
            · rw [found, RecorderState.Counted, List.length_map]
              rfl
  | step label =>
      cases label with
      | enter packet =>
          simp only [RecorderRuns.step, RawFrameRecorder.step, RawFrameRecorder.enter]
          split
          · exact numbered.of_same rfl id ⟨_, _, rfl⟩
          · exact numbered
      | submit call nowNs => exact numbered.submit call nowNs
      | write io => exact numbered.write io
      | requestStop =>
          simp only [RecorderRuns.step, RawFrameRecorder.step, RawFrameRecorder.requestStop]
          split
          · exact numbered
          · exact numbered.of_same rfl id ⟨_, _, rfl⟩
      | joinWriter =>
          simp only [RecorderRuns.step, RawFrameRecorder.step, RawFrameRecorder.joinWriter]
          split
          · split
            · exact numbered.of_same rfl id ⟨_, _, rfl⟩
            · exact numbered
          · exact numbered

/-- What holds where a segment is opened. -/
theorem Numbered.opensIn (numbered : runs.Numbered) {label : Label} {state : RecorderState}
    {io : RecorderIo} (opens : runs.opensIn label = some (state, io)) :
    state.Named runs.found runs.recorder.settings ∧ state.Counted runs.found := by
  unfold RecorderRuns.opensIn at opens
  split at opens
  · simp only at opens
    split at opens
    · rename_i writer
      split at opens
      · cases opens
      · cases opens
        obtain ⟨-, files, counter⟩ :=
          @RecorderState.closeActiveSegment_counts runs.recorder.settings io runs.recorder.state
        have counted := numbered.counted (by rw [writer]; trivial)
        refine ⟨numbered.named.closeActiveSegment, ?_⟩
        rw [RecorderState.Counted, files, counter]
        exact counted
    · cases opens
  · cases opens

end RecorderRuns

/-- Over any sequence of runs, a segment is opened under the path of a closed one exactly if
a retained segment was found under the text of the second and the next number. -/
theorem segment_overwrites_iff (labels : List RecorderRuns.Label) :
    Machine.Along RecorderRuns.step
      (fun runs label => ∀ state io, runs.opensIn label = some (state, io) →
        (¬ state.Overwrites runs.recorder.settings io ↔
          ¬ state.Reuses runs.found runs.recorder.settings io)) labels {} := by
  refine @Machine.along_of_invariant _ _ _ _ RecorderRuns.Numbered
    (fun _ label numbered => numbered.step label) ?_ labels _ ⟨⟨nofun, nofun, nofun⟩, fun _ => rfl⟩
  intro runs label numbered state io opens
  obtain ⟨named, counted⟩ := numbered.opensIn opens
  exact not_congr (named.overwrites_iff counted)

namespace RecorderRuns

/-- Segments of one frame of 60 bytes, and room for two of them. -/
def smallConfig : RawRecordConfig where
  enabled := true
  segmentBytes := 100
  maxTotalBytes := 250

/-- The clock stands still within a second. -/
def sameSecond : RecorderIo where
  unixNs := 1704067200000000000
  localTime := fun _ => "20240101_000000"

/-- A frame is submitted and accepted. -/
def submitFrame : List Label :=
  [.step (.enter (PacketDesc.ofBytes (List.replicate 60 0))), .step (.submit 0 1),
    .step (.submit 0 1), .step (.submit 0 1)]

/-- A run with three frames, up to the end of `stop`. -/
def threeFrames : List Label :=
  .start smallConfig (.ok []) sameSecond :: submitFrame ++ submitFrame ++ submitFrame ++
    List.replicate 5 (.step (.write sameSecond)) ++
    [.step .requestStop, .step (.write sameSecond), .step (.write sameSecond), .step .joinWriter]

/-- What the run leaves in the directory: its first segment is deleted. -/
def leftBehind : List DirectoryEntry :=
  [{ name := "radar_raw_20240101_000000_000002.rawbin", isRegular := true, size := 108 },
    { name := "radar_raw_20240101_000000_000003.rawbin", isRegular := true, size := 108 }]

/-- A second run, up to the first write. -/
def secondRun : List Label :=
  .start smallConfig (.ok leftBehind) sameSecond :: submitFrame ++ [.step (.write sameSecond)]

/-- The segments of the first run that the second one finds. -/
def retained : List (String × Nat) :=
  leftBehind.map fun entry => (joinPath smallConfig.outputDir entry.name, entry.size)

/-- The recorder of the second run once it has started. -/
def restarted : RawFrameRecorder where
  settings := .ofConfig smallConfig
  freeBuffers := 4096
  started := true
  state :=
    { stats := { retainedBytes := 216 }
      closedSegments := retained
      retainedBytes := 216
      segmentCounter := 2 }

private theorem restarts :
    (RawFrameRecorder.ofConfig smallConfig).start (.ok leftBehind) sameSecond =
    .ok restarted := by
  let settings := RecorderSettings.ofConfig smallConfig
  have managed : leftBehind.filter (fun entry => entry.name ≠ "." && entry.name ≠ ".." &&
      isManagedSegmentFile settings.outputDir entry settings.filePrefix) = leftBehind := by
    decide +kernel
  have sorted : (leftBehind.map fun entry =>
      (joinPath settings.outputDir entry.name, entry.size)).mergeSort
        (fun first second => decide (first.1 ≤ second.1)) = retained :=
    List.mergeSort_of_pairwise (by decide +kernel)
  have loaded : ({} : RecorderState).loadExistingSegments settings leftBehind =
      { closedSegments := retained, retainedBytes := 216, segmentCounter := 2 } := by
    simp only [RecorderState.loadExistingSegments, managed, sorted]
    rfl
  change Except.ok _ = _
  apply congrArg Except.ok
  change RawFrameRecorder.mk settings 4096 [] true false
    ((({} : RecorderState).loadExistingSegments settings leftBehind).trimRetention settings
      sameSecond) [] .waiting = restarted
  rw [loaded]
  rfl

end RecorderRuns

/-- The second run finds what the first one left and opens one of these files again. -/
theorem segment_overwritten :
    let first := Machine.run RecorderRuns.step RecorderRuns.threeFrames {}
    first.recorder.started = false ∧
      first.recorder.state.closedSegments = RecorderRuns.leftBehind.map
        (fun entry => (joinPath RecorderRuns.smallConfig.outputDir entry.name, entry.size)) ∧
      ¬ Machine.Along RecorderRuns.step
        (fun runs label => ∀ state io, runs.opensIn label = some (state, io) →
          ¬ state.Overwrites runs.recorder.settings io)
        (RecorderRuns.threeFrames ++ RecorderRuns.secondRun ++
          [.step (.write RecorderRuns.sameSecond)]) {} := by
  refine ⟨by decide +kernel, by decide +kernel, fun along => ?_⟩
  have second : Machine.run RecorderRuns.step (RecorderRuns.threeFrames ++ RecorderRuns.secondRun) {} =
      Machine.run RecorderRuns.step (RecorderRuns.submitFrame ++ [.step (.write RecorderRuns.sameSecond)])
        { recorder := RecorderRuns.restarted
          found := RecorderRuns.foundBy RecorderRuns.smallConfig (.ok RecorderRuns.leftBehind) } := by
    rw [Machine.run_append, RecorderRuns.secondRun, List.cons_append, Machine.run_cons]
    simp only [RecorderRuns.step, RecorderRuns.restarts]
  have opens := (Machine.along_append.mp along).2.1
  rw [second] at opens
  exact opens _ _ rfl (by decide +kernel)

end RxTech
