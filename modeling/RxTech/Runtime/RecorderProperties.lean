import RxTech.Library.Counting
import RxTech.Runtime.RawFrameRecorder

/-!
# Conservation of recorded frames

A frame that was submitted is in a call of `submit`, in the queue, in the batch of the
writer, or counted as written or dropped. An exception of the writer takes its batch and
the queue out of this account.
-/

set_option autoImplicit false

namespace RxTech

namespace RecorderState

variable {settings : RecorderSettings} {io : RecorderIo}

/-- The frames that the statistics account for. -/
def counted (state : RecorderState) : Nat := state.stats.writtenFrames + state.stats.droppedFrames

/-- Every call that `write_buffer` makes on a file succeeds. -/
def Writes (settings : RecorderSettings) (io : RecorderIo) (state : RecorderState)
    (buffer : RecorderBuffer) : Prop :=
  (state.Fits settings (sizeofRecordHeader + buffer.length) ∨
    (io.opened = true ∧ io.headerWritten = true)) ∧ io.recordWritten = true

private theorem trimRetention_counted (state : RecorderState) :
    (state.trimRetention settings io).counted = state.counted := rfl

private theorem closeActiveSegment_counted (state : RecorderState) :
    (state.closeActiveSegment settings io).counted = state.counted := by
  unfold closeActiveSegment
  split
  · rfl
  · rfl

theorem ensureActiveSegment_counted (state : RecorderState) (nextRecordBytes : Nat) :
    (state.ensureActiveSegment settings io nextRecordBytes).1.counted = state.counted ∧
      ((state.ensureActiveSegment settings io nextRecordBytes).2 = none ↔
        state.Fits settings nextRecordBytes ∨ (io.opened = true ∧ io.headerWritten = true)) := by
  have closed := @closeActiveSegment_counted settings io state
  unfold ensureActiveSegment
  split
  · rename_i fits
    exact ⟨rfl, iff_of_true rfl (.inl fits)⟩
  rename_i full
  cases opened : io.opened with
  | false => exact ⟨closed, by simp [full]⟩
  | true =>
      cases written : io.headerWritten with
      | false => exact ⟨closed, by simp [full]⟩
      | true => exact ⟨closed, by simp⟩

/-- A buffer is counted exactly if it is written. -/
inductive WriteOutcome (settings : RecorderSettings) (io : RecorderIo) (state : RecorderState)
    (buffer : RecorderBuffer) : RecorderState × Option String → Prop where
  | written (next : RecorderState) (writes : state.Writes settings io buffer)
      (counted : next.counted = state.counted + 1) :
      WriteOutcome settings io state buffer (next, none)
  | failed (next : RecorderState) (what : String) (fails : ¬ state.Writes settings io buffer)
      (counted : next.counted = state.counted) :
      WriteOutcome settings io state buffer (next, some what)

private theorem writeBuffer_outcome (state : RecorderState) (buffer : RecorderBuffer) :
    WriteOutcome settings io state buffer (state.writeBuffer settings io buffer) := by
  obtain ⟨counted, ensured⟩ := @ensureActiveSegment_counted settings io state
    (sizeofRecordHeader + buffer.length)
  cases active : state.ensureActiveSegment settings io (sizeofRecordHeader + buffer.length) with
  | mk next failure =>
      rw [active] at counted ensured
      cases failure with
      | some what =>
          have fails : ¬ state.Writes settings io buffer := fun writes => by
            cases ensured.mpr writes.1
          simp only [writeBuffer, active]
          exact .failed next what fails counted
      | none =>
          simp only [writeBuffer, active]
          cases record : io.recordWritten with
          | false =>
              have fails : ¬ state.Writes settings io buffer := fun writes => by
                cases record.symm.trans writes.2
              exact .failed next _ fails counted
          | true =>
              refine .written _ ⟨ensured.mp rfl, record⟩ ?_
              rw [← counted]
              exact Nat.add_right_comm ..

end RecorderState

/-! ## The account -/

/-- The frame of a call that is neither counted nor in the queue yet. -/
def SubmitPhase.frames : SubmitPhase → Nat
  | .queued _ => 0
  | _ => 1

/-- What the writer has still to write of its batch. -/
def WriterPhase.frames : WriterPhase → Nat
  | .writing _ left => left.length
  | _ => 0

namespace RawFrameRecorder

def Label.frames : Label → Nat
  | .enter packet => if Records packet then 1 else 0
  | _ => 0

/-- The frames that are counted or will be. -/
def accounted (recorder : RawFrameRecorder) : Nat :=
  recorder.state.counted + (recorder.submits.map SubmitPhase.frames).sum +
    recorder.filledBuffers.length + recorder.writer.frames

/-- Whatever the writer asks of the files in this step succeeds. -/
def Faultless (recorder : RawFrameRecorder) : Label → Prop
  | .write io =>
      match recorder.writer with
      | .writing _ (buffer :: _) => recorder.state.Writes recorder.settings io buffer
      | _ => True
  | _ => True

/-- The writer has thrown nothing, and it only leaves when nothing more can be queued. -/
def Sound (recorder : RawFrameRecorder) : Prop :=
  match recorder.writer with
  | .waiting | .writing _ _ => True
  | .leaving | .finished => recorder.stopRequested = true ∧ recorder.filledBuffers = []
  | .caught _ _ _ | .failed _ _ | .closing => False

/-- What a step does to the account. -/
inductive StepOutcome (recorder : RawFrameRecorder) (label : Label) : RawFrameRecorder → Prop where
  | kept (next : RawFrameRecorder) (faultless : recorder.Faultless label)
      (accounted : next.accounted = recorder.accounted + label.frames)
      (sound : recorder.Sound → next.Sound) : StepOutcome recorder label next
  | threw (next : RawFrameRecorder) (faulty : ¬ recorder.Faultless label)
      (accounted : next.accounted < recorder.accounted + label.frames) :
      StepOutcome recorder label next
  | emptied (next : RawFrameRecorder) (faultless : recorder.Faultless label)
      (unsound : ¬ recorder.Sound)
      (accounted : next.accounted ≤ recorder.accounted + label.frames) :
      StepOutcome recorder label next

variable {recorder : RawFrameRecorder}

theorem Sound.of_same {next : RawFrameRecorder} (writer : next.writer = recorder.writer)
    (stopRequested : recorder.stopRequested = true → next.stopRequested = true)
    (filled : recorder.stopRequested = true → next.filledBuffers = recorder.filledBuffers)
    (sound : recorder.Sound) : next.Sound := by
  unfold Sound at sound ⊢
  rw [writer]
  split at sound
  · trivial
  · trivial
  · exact ⟨stopRequested sound.1, (filled sound.1).trans sound.2⟩
  · exact ⟨stopRequested sound.1, (filled sound.1).trans sound.2⟩
  · exact sound
  · exact sound
  · exact sound

/-- A section of `submit` moves its frame on. -/
structure Advances (recorder : RawFrameRecorder) (phase : SubmitPhase)
    (next : RawFrameRecorder × Option SubmitPhase) : Prop where
  frames : next.1.state.counted + next.1.filledBuffers.length + (next.2.elim 0 SubmitPhase.frames) =
    recorder.state.counted + recorder.filledBuffers.length + phase.frames
  submits : next.1.submits = recorder.submits
  writer : next.1.writer = recorder.writer
  stopRequested : next.1.stopRequested = recorder.stopRequested
  filled : recorder.stopRequested = true → next.1.filledBuffers = recorder.filledBuffers
  started : next.1.started = recorder.started
  settings : next.1.settings = recorder.settings

private theorem drop_advances (packet : PacketDesc) {phase : SubmitPhase} (one : phase.frames = 1) :
    Advances recorder phase (recorder.drop packet, none) where
  frames := by
    simp only [drop, RecorderState.counted, one, Option.elim_none]
    omega
  submits := rfl
  writer := rfl
  stopRequested := rfl
  filled _ := rfl
  started := rfl
  settings := rfl

private theorem stay_advances {phase next : SubmitPhase} (same : next.frames = phase.frames) :
    Advances recorder phase (recorder, some next) where
  frames := by rw [Option.elim_some, same]
  submits := rfl
  writer := rfl
  stopRequested := rfl
  filled _ := rfl
  started := rfl
  settings := rfl

theorem advance_advances (recorder : RawFrameRecorder) (nowNs : Nat) (phase : SubmitPhase) :
    Advances recorder phase (recorder.advance nowNs phase) := by
  cases phase with
  | entered packet =>
      simp only [advance]
      split
      · exact drop_advances packet rfl
      · exact stay_advances rfl
  | unfailed packet =>
      simp only [advance]
      split
      · exact drop_advances packet rfl
      split
      · exact stay_advances rfl
      · rename_i room
        rw [not_or] at room
        refine ⟨?_, rfl, rfl, rfl, fun stop => absurd stop room.1, rfl, rfl⟩
        simp [SubmitPhase.frames, Nat.add_assoc]
  | refused packet => exact drop_advances packet rfl
  | queued queueDepth => exact ⟨rfl, rfl, rfl, rfl, fun _ => rfl, rfl, rfl⟩

private theorem enter_outcome (enabled : recorder.settings.enabled = true) (packet : PacketDesc) :
    StepOutcome recorder (.enter packet) (recorder.enter packet) := by
  unfold enter
  split
  · rename_i records
    refine .kept _ trivial ?_ (Sound.of_same rfl id fun _ => rfl)
    simp only [accounted, List.map_append, List.sum_append, Label.frames, if_pos records.2,
      SubmitPhase.frames, List.map_cons, List.map_nil, List.sum_singleton]
    omega
  · rename_i ignored
    have none : Records packet ≠ true := fun records => ignored ⟨enabled, records⟩
    refine .kept _ trivial ?_ id
    simp only [Label.frames, if_neg none]
    rfl

theorem submit_outcome (recorder : RawFrameRecorder) (call nowNs : Nat) :
    StepOutcome recorder (.submit call nowNs) (recorder.submit call nowNs) := by
  cases present : recorder.submits[call]? with
  | none =>
      simp only [submit, present]
      exact .kept _ trivial rfl id
  | some phase =>
      have advances := recorder.advance_advances nowNs phase
      simp only [submit, present]
      generalize recorder.advance nowNs phase = advanced at advances
      obtain ⟨next, phase'⟩ := advanced
      obtain ⟨frames, submits, writer, stopRequested, filled, -, -⟩ := advances
      have others := Counting.sum_map_eraseIdx SubmitPhase.frames present
      simp only at frames submits writer stopRequested filled
      cases phase' with
      | none =>
          refine .kept _ trivial ?_ (Sound.of_same writer (fun stop => stopRequested.trans stop) filled)
          simp only [accounted, Label.frames, writer, submits, others]
          rw [Option.elim_none] at frames
          omega
      | some phase' =>
          refine .kept _ trivial ?_ (Sound.of_same writer (fun stop => stopRequested.trans stop) filled)
          have changed := Counting.sum_map_set SubmitPhase.frames present phase'
          simp only [accounted, Label.frames, writer, submits, others, changed]
          rw [Option.elim_some] at frames
          omega

theorem write_outcome (recorder : RawFrameRecorder) (io : RecorderIo) :
    StepOutcome recorder (.write io) (recorder.write io) := by
  cases writer : recorder.writer with
  | waiting =>
      simp only [write, writer]
      split
      · rename_i empty
        split
        · rename_i stop
          refine .kept _ (by simp only [Faultless, writer]) ?_ fun _ => ⟨stop, empty⟩
          simp only [accounted, writer, WriterPhase.frames, Label.frames]
        · exact .kept _ (by simp only [Faultless, writer]) rfl id
      · refine .kept _ (by simp only [Faultless, writer]) ?_ fun _ => trivial
        simp only [accounted, writer, WriterPhase.frames, Label.frames, List.length_take,
          List.length_drop]
        omega
  | writing written left =>
      cases left with
      | nil =>
          simp only [write, writer]
          refine .kept _ (by simp only [Faultless, writer]) ?_ fun _ => trivial
          simp only [accounted, writer, WriterPhase.frames, Label.frames]
          rfl
      | cons buffer left =>
          have faultless : recorder.Faultless (.write io) ↔
              recorder.state.Writes recorder.settings io buffer := by
            simp only [Faultless, writer]
          have outcome := @RecorderState.writeBuffer_outcome recorder.settings io recorder.state buffer
          simp only [write, writer]
          generalize recorder.state.writeBuffer recorder.settings io buffer = result at outcome
          cases outcome with
          | written next writes counted =>
              refine .kept _ (faultless.mpr writes) ?_ fun _ => trivial
              simp only [accounted, writer, WriterPhase.frames, Label.frames, counted,
                List.length_cons]
              omega
          | failed next what fails counted =>
              refine .threw _ (fun holds => fails (faultless.mp holds)) ?_
              simp only [accounted, writer, WriterPhase.frames, Label.frames, counted,
                List.length_cons]
              omega
  | caught written left what =>
      simp only [write, writer]
      refine .emptied _ (by simp only [Faultless, writer])
        (by simp only [Sound, writer, not_false_eq_true]) ?_
      simp only [accounted, writer, WriterPhase.frames, Label.frames, RecorderState.counted]
      omega
  | failed written left =>
      simp only [write, writer]
      refine .emptied _ (by simp only [Faultless, writer])
        (by simp only [Sound, writer, not_false_eq_true]) ?_
      simp only [accounted, writer, WriterPhase.frames, Label.frames, List.length_nil]
      omega
  | closing =>
      simp only [write, writer]
      refine .emptied _ (by simp only [Faultless, writer])
        (by simp only [Sound, writer, not_false_eq_true]) ?_
      simp only [accounted, writer, WriterPhase.frames, Label.frames,
        RecorderState.closeActiveSegment_counted]
      omega
  | leaving =>
      simp only [write, writer]
      refine .kept _ (by simp only [Faultless, writer]) ?_ fun sound => ?_
      · simp only [accounted, writer, WriterPhase.frames, Label.frames,
          RecorderState.trimRetention_counted, RecorderState.closeActiveSegment_counted]
      · simp only [Sound, writer] at sound ⊢
        exact sound
  | finished =>
      simp only [write, writer]
      exact .kept _ (by simp only [Faultless, writer]) rfl id

private theorem step_outcome (enabled : recorder.settings.enabled = true) (label : Label) :
    StepOutcome recorder label (step label recorder) := by
  cases label with
  | enter packet => exact enter_outcome enabled packet
  | submit call nowNs => exact submit_outcome recorder call nowNs
  | write io => exact write_outcome recorder io
  | requestStop =>
      simp only [step, requestStop]
      split
      · exact .kept _ trivial rfl id
      · exact .kept _ trivial rfl (Sound.of_same rfl (fun _ => rfl) fun _ => rfl)
  | joinWriter =>
      simp only [step, joinWriter]
      split
      · split
        · exact .kept _ trivial rfl (Sound.of_same rfl id fun _ => rfl)
        · exact .kept _ trivial rfl id
      · exact .kept _ trivial rfl id

/-- The recorder is enabled, and `stop` has only returned if the writer has finished. -/
structure Running (recorder : RawFrameRecorder) : Prop where
  enabled : recorder.settings.enabled = true
  joined : recorder.started = false → recorder.writer = .finished

/-- The writer leaves the settings and the flags of the owner alone. -/
theorem write_same (recorder : RawFrameRecorder) (io : RecorderIo) :
    (recorder.write io).settings = recorder.settings ∧
      (recorder.write io).started = recorder.started := by
  cases writer : recorder.writer with
  | waiting =>
      simp only [write, writer]
      split
      · split
        · exact ⟨rfl, rfl⟩
        · exact ⟨rfl, rfl⟩
      · exact ⟨rfl, rfl⟩
  | writing written left =>
      cases left with
      | nil => simp only [write, writer, and_self]
      | cons buffer left =>
          simp only [write, writer]
          split
          · exact ⟨rfl, rfl⟩
          · exact ⟨rfl, rfl⟩
  | caught | failed | closing | leaving | finished => simp only [write, writer, and_self]

theorem Running.write (running : recorder.Running) (io : RecorderIo) :
    (recorder.write io).Running := by
  obtain ⟨settings, started⟩ := recorder.write_same io
  refine ⟨settings ▸ running.enabled, fun stopped => ?_⟩
  have finished := running.joined (started.symm.trans stopped)
  simp only [RawFrameRecorder.write, finished]

theorem Running.submit (running : recorder.Running) (call nowNs : Nat) :
    (recorder.submit call nowNs).Running := by
  cases present : recorder.submits[call]? with
  | none =>
      simp only [RawFrameRecorder.submit, present]
      exact running
  | some phase =>
      have advances := recorder.advance_advances nowNs phase
      simp only [RawFrameRecorder.submit, present]
      generalize recorder.advance nowNs phase = advanced at advances
      obtain ⟨next, phase'⟩ := advanced
      have running : next.Running := by
        refine ⟨advances.settings ▸ running.enabled, fun stopped => ?_⟩
        exact advances.writer.trans (running.joined (advances.started.symm.trans stopped))
      cases phase' with
      | none => exact ⟨running.enabled, running.joined⟩
      | some phase' => exact ⟨running.enabled, running.joined⟩

theorem Running.step (running : recorder.Running) (label : Label) :
    (step label recorder).Running := by
  cases label with
  | enter packet =>
      simp only [RawFrameRecorder.step, enter]
      split
      · exact ⟨running.enabled, running.joined⟩
      · exact running
  | submit call nowNs => exact running.submit call nowNs
  | write io => exact running.write io
  | requestStop =>
      simp only [RawFrameRecorder.step, requestStop]
      split
      · exact running
      · exact ⟨running.enabled, running.joined⟩
  | joinWriter =>
      simp only [RawFrameRecorder.step, joinWriter]
      split
      · rename_i finished
        split
        · exact ⟨running.enabled, fun _ => finished⟩
        · exact running
      · exact running

/-! ## Runs -/

/-- The calls of `submit` with a frame. -/
def submitted (labels : List Label) : Nat := (labels.map Label.frames).sum

private theorem run_le (running : recorder.Running) (labels : List Label) :
    (Machine.run step labels recorder).accounted ≤ recorder.accounted + submitted labels := by
  induction labels generalizing recorder with
  | nil => exact Nat.le_refl _
  | cons label rest ih =>
      have later := ih (running.step label)
      have now : (step label recorder).accounted ≤ recorder.accounted + label.frames := by
        cases step_outcome running.enabled label with
        | kept _ accounted => exact Nat.le_of_eq accounted
        | threw _ accounted => exact Nat.le_of_lt accounted
        | emptied _ _ accounted => exact accounted
      simp only [Machine.run_cons, submitted, List.map_cons, List.sum_cons] at later ⊢
      omega

/-- An exception of the writer loses a frame for good. -/
theorem run_lt (running : recorder.Running) {labels : List Label}
    (faulty : ¬ Machine.Along step Faultless labels recorder) :
    (Machine.run step labels recorder).accounted < recorder.accounted + submitted labels := by
  induction labels generalizing recorder with
  | nil => exact absurd trivial faulty
  | cons label rest ih =>
      have next := running.step label
      have le := run_le next rest
      have later := @ih (step label recorder) next
      simp only [Machine.run_cons, submitted, List.map_cons, List.sum_cons, Machine.Along] at *
      have outcome := step_outcome running.enabled label
      generalize step label recorder = stepped at *
      cases outcome with
      | kept faultless accounted =>
          have after := later fun along => faulty ⟨faultless, along⟩
          omega
      | threw _ accounted => omega
      | emptied faultless _ accounted =>
          have after := later fun along => faulty ⟨faultless, along⟩
          omega

theorem run_accounted (running : recorder.Running) (sound : recorder.Sound) {labels : List Label}
    (faultless : Machine.Along step Faultless labels recorder) :
    (Machine.run step labels recorder).Sound ∧
      (Machine.run step labels recorder).accounted = recorder.accounted + submitted labels := by
  induction labels generalizing recorder with
  | nil => exact ⟨sound, rfl⟩
  | cons label rest ih =>
      have next := running.step label
      have later := fun kept => @ih (step label recorder) next kept faultless.2
      have now := faultless.1
      simp only [Machine.run_cons, submitted, List.map_cons, List.sum_cons] at *
      have outcome := step_outcome running.enabled label
      generalize step label recorder = stepped at *
      cases outcome with
      | kept _ accounted stays =>
          obtain ⟨ends, total⟩ := later (stays sound)
          exact ⟨ends, by omega⟩
      | threw faulty => exact absurd now faulty
      | emptied _ unsound => exact absurd sound unsound

theorem run_running (running : recorder.Running) (labels : List Label) :
    (Machine.run step labels recorder).Running :=
  Machine.run_invariant_of_step (fun _ label running => running.step label) labels running

theorem start_running {config : RawRecordConfig} (enabled : config.enabled = true)
    {directory : Except String (List DirectoryEntry)} {io : RecorderIo}
    (starts : (ofConfig config).start directory io = .ok recorder) :
    recorder.Running ∧ recorder.Sound ∧ recorder.accounted = 0 := by
  have on : (ofConfig config).settings.enabled = true := enabled
  obtain ⟨disabled | again, -⟩ | ⟨entries, -, -, rfl⟩ := start_outcome starts
  · cases on.symm.trans disabled
  · cases again
  · exact ⟨⟨enabled, fun stopped => by cases stopped⟩, trivial, rfl⟩

end RawFrameRecorder

/-- Once `stop` has returned and no call of `submit` is in flight, every frame is written
or dropped exactly if no call on a segment file failed. -/
theorem recorder_conserves_iff (config : RawRecordConfig) (enabled : config.enabled = true)
    (directory : Except String (List DirectoryEntry)) (io : RecorderIo)
    (recorder : RawFrameRecorder)
    (starts : (RawFrameRecorder.ofConfig config).start directory io = .ok recorder)
    (labels : List RawFrameRecorder.Label)
    (stopped : (Machine.run RawFrameRecorder.step labels recorder).started = false)
    (returned : (Machine.run RawFrameRecorder.step labels recorder).submits = []) :
    let stats := (Machine.run RawFrameRecorder.step labels recorder).state.stats
    RawFrameRecorder.submitted labels = stats.writtenFrames + stats.droppedFrames ↔
      Machine.Along RawFrameRecorder.step RawFrameRecorder.Faultless labels recorder := by
  obtain ⟨running, sound, nothing⟩ := RawFrameRecorder.start_running enabled starts
  have finished := (RawFrameRecorder.run_running running labels).joined stopped
  have account : (Machine.run RawFrameRecorder.step labels recorder).accounted =
      (Machine.run RawFrameRecorder.step labels recorder).state.counted +
        (Machine.run RawFrameRecorder.step labels recorder).filledBuffers.length := by
    simp only [RawFrameRecorder.accounted, returned, finished, WriterPhase.frames, List.map_nil,
      List.sum_nil, Nat.add_zero]
  dsimp only
  change _ = (Machine.run RawFrameRecorder.step labels recorder).state.counted ↔ _
  constructor
  · intro conserved
    by_contra faulty
    have lost := RawFrameRecorder.run_lt running faulty
    omega
  · intro faultless
    obtain ⟨ends, total⟩ := RawFrameRecorder.run_accounted running sound faultless
    simp only [RawFrameRecorder.Sound, finished] at ends
    rw [account, ends.2, List.length_nil] at total
    omega

namespace RawFrameRecorder

/-- A recorder with the default limits and an empty directory. -/
def recording : RawFrameRecorder where
  settings := .ofConfig { enabled := true }
  freeBuffers := 4096
  started := true

theorem recording_starts :
    (ofConfig { enabled := true }).start (.ok []) {} = .ok recording := by
  simp [start, ofConfig, recording, RecorderSettings.ofConfig, RecorderState.loadExistingSegments,
    RecorderState.trimRetention, RecorderState.trimSegments]

/-- Two frames are submitted, and the writer takes and writes them; the second write gets
the given answers. -/
def twoFrames (length : Nat) (io : RecorderIo) : List Label :=
  let packet := PacketDesc.ofBytes (List.replicate length 0)
  [.enter packet, .submit 0 1, .submit 0 1, .submit 0 1,
    .enter packet, .submit 0 2, .submit 0 2, .submit 0 2,
    .write {}, .write {}, .write io, .write {}, .write {}, .requestStop, .write {}, .write {},
    .joinWriter]

end RawFrameRecorder

theorem recorder_conserves_iff_written :
    let labels := RawFrameRecorder.twoFrames 2048 {}
    let final := Machine.run RawFrameRecorder.step labels .recording
    RawFrameRecorder.submitted labels =
        final.state.stats.writtenFrames + final.state.stats.droppedFrames ↔
      Machine.Along RawFrameRecorder.step RawFrameRecorder.Faultless labels .recording :=
  recorder_conserves_iff { enabled := true } rfl (.ok []) {} .recording
    RawFrameRecorder.recording_starts _ (by decide +kernel) (by decide +kernel)

/-- The second write fails: its frame ends in no counter. Frames of 2048 bytes do not stay in
the buffer of the stream, so the disk is full for the write itself. -/
theorem recorder_loses_frame :
    let labels := RawFrameRecorder.twoFrames 2048 { recordWritten := false }
    let final := Machine.run RawFrameRecorder.step labels .recording
    (RawFrameRecorder.ofConfig { enabled := true }).start (.ok []) {} = .ok .recording ∧
      final.started = false ∧ final.submits = [] ∧ RawFrameRecorder.submitted labels = 2 ∧
      final.state.stats.writtenFrames = 1 ∧ final.state.stats.droppedFrames = 0 :=
  ⟨RawFrameRecorder.recording_starts, by decide +kernel, by decide +kernel, by decide +kernel,
    by decide +kernel, by decide +kernel⟩

end RxTech
