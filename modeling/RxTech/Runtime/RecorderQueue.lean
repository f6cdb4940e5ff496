import RxTech.Runtime.SegmentLog

/-!
# The queue of the recorder

What a step of a run without a failure does to the frames that wait for the writer: a
submit that is accepted goes behind them, and the writer takes them from the front.
-/

set_option autoImplicit false

namespace RxTech

/-- The part of the batch that is not written. -/
def WriterPhase.left : WriterPhase → List RecorderBuffer
  | .writing _ left => left
  | _ => []

namespace RawFrameRecorder

/-- The frames that were accepted and are not written. -/
def pending (recorder : RawFrameRecorder) : List RecorderBuffer :=
  recorder.writer.left ++ recorder.filledBuffers

/-- The packet of a call of `submit` that this step queues. -/
def accepts (label : Label) (recorder : RawFrameRecorder) : Option PacketDesc :=
  match label with
  | .submit call nowNs =>
      match recorder.submits[call]? with
      | some (.unfailed packet) =>
          match (recorder.advance nowNs (.unfailed packet)).2 with
          | some (.queued _) => some packet
          | _ => none
      | _ => none
  | _ => none

/-- What a step does to the segments and to the frames that wait. -/
inductive Moves (recorder : RawFrameRecorder) (label : Label) : RawFrameRecorder → Prop where
  | kept (next : RawFrameRecorder) (stats : RawFrameRecorderStats)
      (state : next.state = { recorder.state with stats })
      (pending : next.pending = recorder.pending) (none : accepts label recorder = none) :
      Moves recorder label next
  | accepted (next : RawFrameRecorder) (packet : PacketDesc) (nowNs : Nat)
      (state : next.state = recorder.state)
      (fits : packet.len.toNat ≤ recorder.settings.maxFrameBytes)
      (pending : next.pending = recorder.pending ++ [fill packet nowNs])
      (some : accepts label recorder = some packet) : Moves recorder label next
  | wrote (next : RawFrameRecorder) (io : RecorderIo) (buffer : RecorderBuffer)
      (write : label = .write io) (writes : recorder.state.Writes recorder.settings io buffer)
      (state : next.state = (recorder.state.writeBuffer recorder.settings io buffer).1)
      (pending : recorder.pending = buffer :: next.pending) : Moves recorder label next
  | closed (next : RawFrameRecorder) (io : RecorderIo) (write : label = .write io)
      (state : next.state =
        (recorder.state.closeActiveSegment recorder.settings io).trimRetention recorder.settings io)
      (pending : next.pending = recorder.pending) : Moves recorder label next

variable {recorder : RawFrameRecorder}

theorem fill_length (packet : PacketDesc) (nowNs : Nat) :
    (fill packet nowNs).length ≤ packet.len.toNat := by
  unfold fill RecorderBuffer.length
  cases packet.data with
  | none => exact Nat.zero_le _
  | some data => simp [ByteView.bytes]

theorem submit_moves (recorder : RawFrameRecorder) (call nowNs : Nat) :
    Moves recorder (.submit call nowNs) (recorder.submit call nowNs) := by
  cases present : recorder.submits[call]? with
  | none =>
      simp only [submit, present]
      exact .kept _ _ rfl rfl (by simp only [accepts, present])
  | some phase =>
      cases phase with
      | entered packet =>
          have refused : accepts (.submit call nowNs) recorder = none := by
            simp only [accepts, present]
          by_cases failed : recorder.state.failureMessage ≠ ""
          · simp only [submit, present, advance, if_pos failed]
            exact .kept _ _ rfl rfl refused
          · simp only [submit, present, advance, if_neg failed]
            exact .kept _ _ rfl rfl refused
      | unfailed packet =>
          by_cases long : packet.len.toNat > recorder.settings.maxFrameBytes
          · have refused : accepts (.submit call nowNs) recorder = none := by
              simp only [accepts, present, advance, if_pos long]
            simp only [submit, present, advance, if_pos long]
            exact .kept _ _ rfl rfl refused
          by_cases full : recorder.stopRequested = true ∨ recorder.freeBuffers = 0
          · have refused : accepts (.submit call nowNs) recorder = none := by
              simp only [accepts, present, advance, if_neg long, if_pos full]
            simp only [submit, present, advance, if_neg long, if_pos full]
            exact .kept _ _ rfl rfl refused
          · have queued : accepts (.submit call nowNs) recorder = some packet := by
              simp only [accepts, present, advance, if_neg long, if_neg full]
            simp only [submit, present, advance, if_neg long, if_neg full]
            refine .accepted _ packet nowNs rfl (Nat.not_lt.mp long) ?_ queued
            simp only [pending, List.append_assoc]
      | refused packet =>
          have refused : accepts (.submit call nowNs) recorder = none := by
            simp only [accepts, present]
          simp only [submit, present, advance]
          exact .kept _ _ rfl rfl refused
      | queued queueDepth =>
          have refused : accepts (.submit call nowNs) recorder = none := by
            simp only [accepts, present]
          simp only [submit, present, advance]
          exact .kept _ _ rfl rfl refused

private theorem write_moves (sound : recorder.Sound) {io : RecorderIo}
    (faultless : recorder.Faultless (.write io)) :
    Moves recorder (.write io) (recorder.write io) := by
  cases writer : recorder.writer with
  | waiting =>
      simp only [write, writer]
      split
      · split
        · refine .kept _ _ rfl ?_ rfl
          simp only [pending, writer, WriterPhase.left]
        · exact .kept _ _ rfl rfl rfl
      · refine .kept _ _ rfl ?_ rfl
        simp only [pending, writer, WriterPhase.left, List.take_append_drop, List.nil_append]
  | writing written left =>
      cases left with
      | nil =>
          simp only [write, writer]
          refine .kept _ _ rfl ?_ rfl
          simp only [pending, writer, WriterPhase.left]
      | cons buffer left =>
          simp only [Faultless, writer] at faultless
          have succeeds : (recorder.state.writeBuffer recorder.settings io buffer).2 = none := by
            rw [RecorderState.writeBuffer_writes faultless]
          simp only [write, writer]
          split
          · rename_i state result
            refine .wrote _ io buffer rfl faultless (congrArg Prod.fst result).symm ?_
            simp only [pending, writer, WriterPhase.left, List.cons_append]
          · rename_i state what result
            rw [result] at succeeds
            cases succeeds
  | caught written left what =>
      simp only [Sound, writer] at sound
  | failed written left =>
      simp only [Sound, writer] at sound
  | closing =>
      simp only [Sound, writer] at sound
  | leaving =>
      simp only [write, writer]
      refine .closed _ io rfl rfl ?_
      simp only [pending, writer, WriterPhase.left]
  | finished =>
      simp only [write, writer]
      exact .kept _ _ rfl rfl rfl

theorem step_moves (sound : recorder.Sound) {label : Label}
    (faultless : recorder.Faultless label) : Moves recorder label (step label recorder) := by
  cases label with
  | enter packet =>
      simp only [step, enter]
      split
      · exact .kept _ _ rfl rfl rfl
      · exact .kept _ _ rfl rfl rfl
  | submit call nowNs => exact submit_moves recorder call nowNs
  | write io => exact write_moves sound faultless
  | requestStop =>
      simp only [step, requestStop]
      split
      · exact .kept _ _ rfl rfl rfl
      · exact .kept _ _ rfl rfl rfl
  | joinWriter =>
      simp only [step, joinWriter]
      split
      · split
        · exact .kept _ _ rfl rfl rfl
        · exact .kept _ _ rfl rfl rfl
      · exact .kept _ _ rfl rfl rfl

theorem step_settings (recorder : RawFrameRecorder) (label : Label) :
    (step label recorder).settings = recorder.settings := by
  cases label with
  | enter packet =>
      simp only [step, enter]
      split
      · rfl
      · rfl
  | submit call nowNs =>
      cases present : recorder.submits[call]? with
      | none => simp only [step, submit, present]
      | some phase =>
          have advances := recorder.advance_advances nowNs phase
          simp only [step, submit, present]
          generalize recorder.advance nowNs phase = advanced at advances
          obtain ⟨next, phase'⟩ := advanced
          cases phase' with
          | none => exact advances.settings
          | some phase' => exact advances.settings
  | write io => exact (recorder.write_same io).1
  | requestStop =>
      simp only [step, requestStop]
      split
      · rfl
      · rfl
  | joinWriter =>
      simp only [step, joinWriter]
      split
      · split
        · rfl
        · rfl
      · rfl

theorem Sound.of_outcome {label : Label} {next : RawFrameRecorder}
    (outcome : StepOutcome recorder label next) (sound : recorder.Sound)
    (faultless : recorder.Faultless label) : next.Sound := by
  cases outcome with
  | kept _ _ stays => exact stays sound
  | threw faulty => exact absurd faultless faulty
  | emptied _ unsound => exact absurd sound unsound

/-- A run without a failure stays sound. -/
theorem Sound.step (sound : recorder.Sound) {label : Label}
    (faultless : recorder.Faultless label) : (step label recorder).Sound := by
  cases label with
  | enter packet =>
      simp only [RawFrameRecorder.step, enter]
      split
      · exact @Sound.of_same recorder _ rfl id (fun _ => rfl) sound
      · exact sound
  | submit call nowNs => exact .of_outcome (submit_outcome recorder call nowNs) sound faultless
  | write io => exact .of_outcome (write_outcome recorder io) sound faultless
  | requestStop =>
      simp only [RawFrameRecorder.step, requestStop]
      split
      · exact sound
      · exact @Sound.of_same recorder _ rfl (fun _ => rfl) (fun _ => rfl) sound
  | joinWriter =>
      simp only [RawFrameRecorder.step, joinWriter]
      split
      · split
        · exact @Sound.of_same recorder _ rfl id (fun _ => rfl) sound
        · exact sound
      · exact sound

end RawFrameRecorder

end RxTech
