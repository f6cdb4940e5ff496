import RxTech.Library.Eviction
import RxTech.Runtime.RecorderQueue

/-!
# The bound on the retained segments

The accounted bytes are the sizes of the closed segments and of the active one, and after
every trim they are within the limit or the active segment is all there is.
-/

set_option autoImplicit false

namespace RxTech

namespace RecorderState

variable {settings : RecorderSettings} {io : RecorderIo} {state : RecorderState}

/-! ## Trimming -/

/-- The paths that `trim_retention_locked` unlinks. -/
def unlinked (settings : RecorderSettings) (state : RecorderState) : List String :=
  ((Eviction.evict settings.maxTotalBytes Prod.snd state.closedSegments
    state.retainedBytes).1).map Prod.fst

private theorem trimSegments_eq_evict (maxTotalBytes : Nat) {removed : String → Bool}
    (removes : ∀ path, removed path = true) (segments : List (String × Nat))
    (retainedBytes : Nat) :
    trimSegments maxTotalBytes removed segments retainedBytes =
      ((Eviction.evict maxTotalBytes Prod.snd segments retainedBytes).2,
        Eviction.remaining maxTotalBytes Prod.snd segments retainedBytes) := by
  induction segments generalizing retainedBytes with
  | nil => rfl
  | cons oldest rest ih =>
      have subtracted : (if retainedBytes > oldest.2 then retainedBytes - oldest.2 else 0) =
          retainedBytes - oldest.2 := by
        split
        · rfl
        · omega
      unfold trimSegments Eviction.remaining Eviction.evict
      split
      · rw [if_pos (removes oldest.1), subtracted, ih, List.map_cons, List.sum_cons,
          ← Nat.sub_sub]
        rfl
      · rfl

private theorem trimRetention_eq (removes : ∀ path, io.removed path = true) :
    (state.trimRetention settings io).closedSegments =
        (Eviction.evict settings.maxTotalBytes Prod.snd state.closedSegments
          state.retainedBytes).2 ∧
      (state.trimRetention settings io).retainedBytes =
        Eviction.remaining settings.maxTotalBytes Prod.snd state.closedSegments
          state.retainedBytes := by
  have trimmed := trimSegments_eq_evict settings.maxTotalBytes removes state.closedSegments
    state.retainedBytes
  exact ⟨congrArg Prod.fst trimmed, congrArg Prod.snd trimmed⟩

/-- What is unlinked and what stays were closed before. -/
theorem trimRetention_closed (removes : ∀ path, io.removed path = true) :
    state.closedSegments.map Prod.fst =
      state.unlinked settings ++
        (state.trimRetention settings io).closedSegments.map Prod.fst := by
  rw [(trimRetention_eq removes).1, unlinked, ← List.map_append, Eviction.evict_append]

/-! ## The account -/

/-- The bound on the retained bytes. -/
def retentionLimit (settings : RecorderSettings) : Nat :=
  max settings.maxTotalBytes (sizeofFileHeader + sizeofRecordHeader + settings.maxFrameBytes)

/-- The paths of the files written, the latest first. -/
def paths (state : RecorderState) : List String := state.files.map Prod.fst

/-- The paths of the files that are closed. -/
def closedPaths (state : RecorderState) : List String :=
  if state.activeStreamOpen = true then state.paths.tail else state.paths

/-- The accounted bytes are those of the closed segments and of the active one. A closed
segment was found at the start or was written before the active one. -/
structure Accounted (found : List String) (settings : RecorderSettings) (state : RecorderState) :
    Prop where
  balanced : state.retainedBytes =
    (state.closedSegments.map Prod.snd).sum + state.activeSegmentBytes
  idle : state.activeStreamOpen = false → state.activeSegmentBytes = 0
  active : state.activeSegmentBytes ≤ retentionLimit settings
  named : state.activeStreamOpen = true → state.activeSegmentPath ≠ ""
  latest : state.activeStreamOpen = true → state.paths.head? = some state.activeSegmentPath
  closed : ∀ path ∈ state.closedSegments.map Prod.fst, path ∈ found ∨ path ∈ state.closedPaths

variable {found : List String}

/-- After a trim the account holds and is within the limit. -/
theorem Accounted.trimRetention (accounted : state.Accounted found settings)
    (removes : ∀ path, io.removed path = true) :
    (state.trimRetention settings io).Accounted found settings ∧
      (state.trimRetention settings io).retainedBytes ≤ retentionLimit settings := by
  obtain ⟨kept, remaining⟩ := @trimRetention_eq settings io state removes
  have split := @trimRetention_closed settings io state removes
  constructor
  · refine ⟨?_, accounted.idle, accounted.active, accounted.named, accounted.latest, ?_⟩
    · rw [remaining, kept]
      exact Eviction.remaining_eq accounted.balanced
    · intro path member
      exact accounted.closed path (split ▸ List.mem_append_right _ member)
  · have within := @Eviction.remaining_le _ settings.maxTotalBytes _ _ _ _ accounted.balanced
    rw [remaining]
    exact Nat.le_trans within (Nat.max_le.mpr ⟨Nat.le_max_left .., accounted.active⟩)

theorem Accounted.closing (accounted : state.Accounted found settings)
    (active : state.activeStreamOpen = true) : state.closing.Accounted found settings := by
  have named := accounted.named active
  have latest := accounted.latest active
  refine ⟨?_, fun _ => rfl, Nat.zero_le _, nofun, nofun, ?_⟩
  · simp only [RecorderState.closing, if_pos named, List.map_append, List.sum_append,
      List.map_cons, List.map_nil, List.sum_singleton, Nat.add_zero]
    exact accounted.balanced
  · intro path member
    simp only [RecorderState.closing, if_pos named, List.map_append, List.map_cons,
      List.map_nil] at member
    have files : state.closing.closedPaths = state.paths := rfl
    rw [files]
    rcases List.mem_append.mp member with before | last
    · have known := accounted.closed path before
      rw [closedPaths, if_pos active] at known
      exact known.imp_right List.mem_of_mem_tail
    · rw [List.mem_singleton.mp last]
      exact .inr (List.mem_of_head? latest)

theorem Accounted.closeActiveSegment (accounted : state.Accounted found settings)
    (removes : ∀ path, io.removed path = true) :
    (state.closeActiveSegment settings io).Accounted found settings := by
  cases active : state.activeStreamOpen with
  | false =>
      rw [closeActiveSegment_closed active]
      exact accounted
  | true =>
      rw [closeActiveSegment_open active]
      exact ((accounted.closing active).trimRetention removes).1

/-- A segment has a name. -/
theorem nextSegmentPath_ne (settings : RecorderSettings) (io : RecorderIo)
    (state : RecorderState) : state.nextSegmentPath settings io ≠ "" := by
  have named : makeSegmentName io.localTime settings.filePrefix io.unixNs
      (state.segmentCounter + 1) ≠ "" := by
    simp [makeSegmentName]
  unfold nextSegmentPath joinPath
  split
  · exact named
  · split
    · simp [named]
    · simp [named]

theorem Accounted.opening (accounted : state.Accounted found settings)
    (idle : state.activeStreamOpen = false) :
    (state.opening settings io).Accounted found settings := by
  refine ⟨?_, nofun, ?_, fun _ => nextSegmentPath_ne settings io state, fun _ => rfl, ?_⟩
  · have balanced := accounted.balanced
    rw [accounted.idle idle] at balanced
    simp only [RecorderState.opening, balanced, Nat.add_zero]
  · exact Nat.le_trans (Nat.le_trans (Nat.le_add_right ..) (Nat.le_add_right ..))
      (Nat.le_max_right ..)
  · intro path member
    have known := accounted.closed path member
    rw [closedPaths, if_neg (by simp [idle])] at known
    exact known

theorem Accounted.recorded (accounted : state.Accounted found settings) {buffer : RecorderBuffer}
    (active : state.activeStreamOpen = true)
    (room : state.activeSegmentBytes + (sizeofRecordHeader + buffer.length) ≤
      retentionLimit settings) : (state.recorded buffer).Accounted found settings := by
  have paths : (state.recorded buffer).paths = state.paths := appendActive_paths ..
  refine ⟨?_, fun idle => absurd (active.symm.trans idle) (by simp), room, accounted.named, ?_, ?_⟩
  · have balanced := accounted.balanced
    simp only [RecorderState.recorded]
    omega
  · rw [paths]
    exact accounted.latest
  · intro path member
    have known := accounted.closed path member
    rw [closedPaths, paths]
    exact known

/-! ## Deletions -/

/-- The active segment is not among the files that this trim unlinks. -/
def Spares (settings : RecorderSettings) (state : RecorderState) : Prop :=
  state.activeStreamOpen = true → state.activeSegmentPath ∉ state.unlinked settings

theorem Accounted.spares (accounted : state.Accounted found settings)
    (distinct : (found ++ state.paths).Nodup) : state.Spares settings := by
  intro active deleted
  have latest := accounted.latest active
  have listed : state.activeSegmentPath ∈ state.closedSegments.map Prod.fst := by
    rw [← @Eviction.evict_append _ settings.maxTotalBytes Prod.snd state.closedSegments
      state.retainedBytes, List.map_append]
    exact List.mem_append_left _ deleted
  have known := accounted.closed _ listed
  rw [closedPaths, if_pos active] at known
  cases paths : state.paths with
  | nil =>
      rw [paths] at latest
      cases latest
  | cons path earlier =>
      rw [paths] at latest known distinct
      obtain ⟨-, others, apart⟩ := List.nodup_append.mp distinct
      cases latest
      rcases known with found' | written
      · exact apart _ found' _ (by simp) rfl
      · exact (List.nodup_cons.mp others).1 written

/-- The states in which `close_active_segment` trims. -/
def closeTrims (state : RecorderState) : List RecorderState :=
  if state.activeStreamOpen = true then [state.closing] else []

/-- The states in which `ensure_active_segment` trims. -/
def ensureTrims (settings : RecorderSettings) (io : RecorderIo) (state : RecorderState)
    (nextRecordBytes : Nat) : List RecorderState :=
  if state.Fits settings nextRecordBytes then []
  else
    state.closeTrims ++
      if io.opened = true ∧ io.headerWritten = true then
        [(state.closeActiveSegment settings io).opening settings io]
      else []

/-- The states in which `write_buffer` trims. -/
def writeTrims (settings : RecorderSettings) (io : RecorderIo) (state : RecorderState)
    (buffer : RecorderBuffer) : List RecorderState :=
  let nextRecordBytes := sizeofRecordHeader + buffer.length
  let ensured := state.ensureActiveSegment settings io nextRecordBytes
  state.ensureTrims settings io nextRecordBytes ++
    if ensured.2 = none ∧ io.recordWritten = true then [ensured.1.recorded buffer] else []

private theorem closeActiveSegment_idle (state : RecorderState) :
    (state.closeActiveSegment settings io).activeStreamOpen = false ∧
      (state.closeActiveSegment settings io).paths = state.paths := by
  cases active : state.activeStreamOpen with
  | false =>
      rw [closeActiveSegment_closed active]
      exact ⟨active, rfl⟩
  | true =>
      rw [closeActiveSegment_open active]
      exact ⟨rfl, rfl⟩

/-- The account in every state that trims on the way to `next`. -/
def TrimsTo (found : List String) (settings : RecorderSettings) (trims : List RecorderState)
    (next : RecorderState) : Prop :=
  ∀ trimmed ∈ trims, trimmed.Accounted found settings ∧ trimmed.paths <:+ next.paths

theorem Accounted.closeTrims (accounted : state.Accounted found settings) {next : RecorderState}
    (later : state.paths <:+ next.paths) : TrimsTo found settings state.closeTrims next := by
  intro trimmed member
  unfold RecorderState.closeTrims at member
  split at member
  · rename_i active
    rw [List.mem_singleton.mp member]
    exact ⟨accounted.closing active, later⟩
  · cases member

/-- The active segment has room for the record, or the record is its only one. -/
theorem Accounted.ensureActiveSegment (accounted : state.Accounted found settings)
    (removes : ∀ path, io.removed path = true) {nextRecordBytes : Nat}
    (ready : state.Fits settings nextRecordBytes ∨
      (io.opened = true ∧ io.headerWritten = true)) :
    let next := (state.ensureActiveSegment settings io nextRecordBytes).1
    next.Accounted found settings ∧ next.activeStreamOpen = true ∧
      next.activeSegmentBytes + nextRecordBytes ≤
        max settings.segmentBytes (sizeofFileHeader + nextRecordBytes) ∧
      state.paths <:+ next.paths ∧
      TrimsTo found settings (state.ensureTrims settings io nextRecordBytes) next := by
  intro next
  by_cases fits : state.Fits settings nextRecordBytes
  · have same : next = state := congrArg Prod.fst (ensureActiveSegment_fits fits)
    rw [same, ensureTrims, if_pos fits]
    exact ⟨accounted, fits.1, Nat.le_trans fits.2 (Nat.le_max_left ..), List.suffix_refl _, nofun⟩
  · obtain ⟨opened, headerWritten⟩ := ready.resolve_left fits
    obtain ⟨idle, samePaths⟩ := @closeActiveSegment_idle settings io state
    have opening : ((state.closeActiveSegment settings io).opening settings io).Accounted found
        settings := (accounted.closeActiveSegment removes).opening idle
    have opens : next = ((state.closeActiveSegment settings io).opening settings io).trimRetention
        settings io :=
      congrArg Prod.fst (ensureActiveSegment_full fits opened headerWritten)
    have later : state.paths <:+ next.paths := by
      rw [opens, ← samePaths]
      exact List.suffix_cons ..
    have trims : TrimsTo found settings (state.ensureTrims settings io nextRecordBytes) next := by
      rw [ensureTrims, if_neg fits, if_pos ⟨opened, headerWritten⟩]
      refine List.forall_mem_append.mpr ⟨accounted.closeTrims later, ?_⟩
      intro trimmed member
      rw [List.mem_singleton.mp member]
      exact ⟨opening, opens ▸ List.suffix_refl _⟩
    refine ⟨opens ▸ (opening.trimRetention removes).1, opens ▸ rfl, ?_, later, trims⟩
    rw [opens]
    exact Nat.le_max_right ..

theorem Accounted.writeBuffer (accounted : state.Accounted found settings)
    (removes : ∀ path, io.removed path = true) {buffer : RecorderBuffer}
    (short : buffer.length ≤ settings.maxFrameBytes)
    (writes : state.Writes settings io buffer) :
    let next := (state.writeBuffer settings io buffer).1
    next.Accounted found settings ∧ next.retainedBytes ≤ retentionLimit settings ∧
      state.paths <:+ next.paths ∧
      TrimsTo found settings (state.writeTrims settings io buffer) next := by
  intro next
  obtain ⟨ensured, active, room, later, trims⟩ := accounted.ensureActiveSegment removes writes.1
  have limited : max settings.segmentBytes
      (sizeofFileHeader + (sizeofRecordHeader + buffer.length)) ≤ retentionLimit settings := by
    refine Nat.max_le.mpr ⟨Nat.le_trans settings.segment_le (Nat.le_max_left ..), ?_⟩
    refine Nat.le_trans ?_ (Nat.le_max_right ..)
    omega
  have recorded := ensured.recorded active (Nat.le_trans room limited)
  obtain ⟨kept, bounded⟩ := recorded.trimRetention removes
  have writing : next = _ := congrArg Prod.fst (writeBuffer_writes writes)
  have samePaths : next.paths = (state.ensureActiveSegment settings io
      (sizeofRecordHeader + buffer.length)).1.paths := by
    rw [writing]
    exact appendActive_paths ..
  refine ⟨writing ▸ kept, writing ▸ bounded, samePaths ▸ later, ?_⟩
  refine List.forall_mem_append.mpr ⟨?_, ?_⟩
  · intro trimmed member
    rw [samePaths]
    exact trims trimmed member
  · intro trimmed member
    split at member
    · rw [List.mem_singleton.mp member]
      exact ⟨recorded, writing ▸ List.suffix_refl _⟩
    · cases member

end RecorderState

namespace RawFrameRecorder

open RecorderState

variable {recorder : RawFrameRecorder} {found : List String}

/-- The states in which a step trims. -/
def trims (recorder : RawFrameRecorder) : Label → List RecorderState
  | .write io =>
      match recorder.writer with
      | .writing _ (buffer :: _) => recorder.state.writeTrims recorder.settings io buffer
      | .closing => recorder.state.closeTrims
      | .leaving =>
          recorder.state.closeTrims ++ [recorder.state.closeActiveSegment recorder.settings io]
      | _ => []
  | _ => []

/-- Every file is deleted or is not there. -/
def Removes : Label → Prop
  | .write io => ∀ path, io.removed path = true
  | _ => True

/-- What holds of the segments throughout a run without a failure. -/
structure Retains (found : List String) (recorder : RawFrameRecorder) : Prop where
  sound : recorder.Sound
  accounted : recorder.state.Accounted found recorder.settings
  bounded : recorder.state.retainedBytes ≤ retentionLimit recorder.settings
  short : ∀ buffer ∈ recorder.pending, buffer.length ≤ recorder.settings.maxFrameBytes
  logged : ∃ segments, recorder.state.Logged recorder.settings segments

/-- A step keeps the account and only adds paths. -/
theorem Retains.step (retains : recorder.Retains found) {label : Label}
    (faultless : recorder.Faultless label) (removes : Removes label) :
    (step label recorder).Retains found ∧
      recorder.state.paths <:+ (RawFrameRecorder.step label recorder).state.paths := by
  have sound := retains.sound.step faultless
  have settings := recorder.step_settings label
  have moves := step_moves retains.sound faultless
  obtain ⟨segments, logged⟩ := retains.logged
  generalize RawFrameRecorder.step label recorder = next at sound settings moves
  cases moves with
  | kept stats state pending =>
      have kept := retains.accounted
      refine ⟨⟨sound, ?_, ?_, ?_, segments, ?_⟩, ?_⟩
      · rw [settings, state]
        exact ⟨kept.balanced, kept.idle, kept.active, kept.named, kept.latest, kept.closed⟩
      · rw [settings, state]
        exact retains.bounded
      · rw [settings, pending]
        exact retains.short
      · rw [settings, state]
        exact ⟨logged.files, logged.limited, logged.active⟩
      · rw [state]
        exact List.suffix_refl _
  | accepted packet nowNs state fits pending =>
      refine ⟨⟨sound, ?_, ?_, ?_, segments, ?_⟩, ?_⟩
      · rw [settings, state]
        exact retains.accounted
      · rw [settings, state]
        exact retains.bounded
      · rw [settings, pending]
        refine List.forall_mem_append.mpr ⟨retains.short, ?_⟩
        intro buffer member
        rw [List.mem_singleton.mp member]
        exact Nat.le_trans (fill_length packet nowNs) fits
      · rw [settings, state]
        exact logged
      · rw [state]
  | wrote io buffer write writes state pending =>
      subst write
      have short := retains.short
      rw [pending] at short
      obtain ⟨head, rest⟩ := List.forall_mem_cons.mp short
      obtain ⟨accounted, bounded, later, -⟩ := retains.accounted.writeBuffer removes head writes
      obtain ⟨extended, logged, -⟩ := logged.writeBuffer writes
      refine ⟨⟨sound, ?_, ?_, ?_, extended, ?_⟩, ?_⟩
      · rw [settings, state]
        exact accounted
      · rw [settings, state]
        exact bounded
      · rw [settings]
        exact rest
      · rw [settings, state]
        exact logged
      · rw [state]
        exact later
  | closed io write state pending =>
      subst write
      have closed := retains.accounted.closeActiveSegment removes
      obtain ⟨accounted, bounded⟩ := closed.trimRetention removes
      refine ⟨⟨sound, ?_, ?_, ?_, segments, ?_⟩, ?_⟩
      · rw [settings, state]
        exact accounted
      · rw [settings, state]
        exact bounded
      · rw [settings, pending]
        exact retains.short
      · rw [settings, state]
        exact logged.closeActiveSegment.trimRetention
      · rw [state]
        exact (closeActiveSegment_idle recorder.state).2 ▸ List.suffix_refl _

/-- The account in every state in which the step trims. -/
theorem Retains.trims (retains : recorder.Retains found) {label : Label}
    (faultless : recorder.Faultless label) (removes : Removes label) :
    TrimsTo found recorder.settings (recorder.trims label)
      (RawFrameRecorder.step label recorder).state := by
  cases label with
  | write io =>
      cases writer : recorder.writer with
      | writing written left =>
          cases left with
          | nil =>
              simp only [RawFrameRecorder.trims, writer]
              exact List.forall_mem_nil _
          | cons buffer left =>
              simp only [Faultless, writer] at faultless
              have head : buffer.length ≤ recorder.settings.maxFrameBytes :=
                retains.short buffer (by simp [pending, writer, WriterPhase.left])
              have written := (retains.accounted.writeBuffer removes head faultless).2.2.2
              have state : (RawFrameRecorder.step (.write io) recorder).state =
                  (recorder.state.writeBuffer recorder.settings io buffer).1 := by
                simp only [RawFrameRecorder.step, RawFrameRecorder.write, writer]
                rw [writeBuffer_writes faultless]
              simp only [RawFrameRecorder.trims, writer]
              rw [state]
              exact written
      | leaving =>
          have paths := (@closeActiveSegment_idle recorder.settings io recorder.state).2
          have state : (RawFrameRecorder.step (.write io) recorder).state =
              (recorder.state.closeActiveSegment recorder.settings io).trimRetention
                recorder.settings io := by
            simp only [RawFrameRecorder.step, RawFrameRecorder.write, writer]
          simp only [RawFrameRecorder.trims, writer]
          rw [state]
          refine List.forall_mem_append.mpr
            ⟨retains.accounted.closeTrims (paths ▸ List.suffix_refl _), ?_⟩
          intro trimmed member
          rw [List.mem_singleton.mp member]
          exact ⟨retains.accounted.closeActiveSegment removes, List.suffix_refl _⟩
      | closing =>
          have sound := retains.sound
          simp only [Sound, writer] at sound
      | waiting | caught | failed | finished =>
          simp only [RawFrameRecorder.trims, writer]
          exact List.forall_mem_nil _
  | enter | submit | requestStop | joinWriter => exact List.forall_mem_nil _

/-- No trim of a step unlinks the active segment. -/
def TrimsSpare (recorder : RawFrameRecorder) (label : Label) : Prop :=
  ∀ trimmed ∈ recorder.trims label, trimmed.Spares recorder.settings

theorem Retains.run (retains : recorder.Retains found) {labels : List Label}
    (faultless : Machine.Along RawFrameRecorder.step Faultless labels recorder)
    (removes : ∀ label ∈ labels, Removes label) :
    (Machine.run RawFrameRecorder.step labels recorder).Retains found ∧
      recorder.state.paths <:+ (Machine.run RawFrameRecorder.step labels recorder).state.paths ∧
      ((found ++ (Machine.run RawFrameRecorder.step labels recorder).state.paths).Nodup →
        Machine.Along RawFrameRecorder.step TrimsSpare labels recorder) := by
  induction labels generalizing recorder with
  | nil => exact ⟨retains, List.suffix_refl _, fun _ => trivial⟩
  | cons label rest ih =>
      obtain ⟨first, others⟩ := List.forall_mem_cons.mp removes
      obtain ⟨next, grows⟩ := retains.step faultless.1 first
      obtain ⟨ends, later, spares⟩ := ih next faultless.2 others
      refine ⟨ends, grows.trans later, fun distinct => ⟨fun trimmed member => ?_, spares distinct⟩⟩
      obtain ⟨accounted, trimmedPaths⟩ := retains.trims faultless.1 first trimmed member
      have sublist := (trimmedPaths.trans later).sublist
      exact accounted.spares (distinct.sublist (sublist.append_left found))

private theorem run_settings (labels : List Label) (recorder : RawFrameRecorder) :
    (Machine.run RawFrameRecorder.step labels recorder).settings = recorder.settings :=
  Machine.run_invariant_of_step
    (fun state label same => (step_settings state label).trans same) labels rfl

private theorem start_retains {config : RawRecordConfig}
    {directory : Except String (List DirectoryEntry)} {io : RecorderIo}
    (removes : ∀ path, io.removed path = true)
    (starts : (ofConfig config).start directory io = .ok recorder) :
    recorder.settings = .ofConfig config ∧
      recorder.Retains (recorder.state.closedSegments.map Prod.fst) := by
  obtain ⟨-, rfl⟩ | ⟨entries, -, -, rfl⟩ := start_outcome starts
  · exact ⟨rfl, trivial, ⟨rfl, fun _ => rfl, Nat.zero_le _, nofun, nofun, nofun⟩, Nat.zero_le _,
      nofun, [], .initial _ rfl rfl⟩
  · let loaded := (ofConfig config).state.loadExistingSegments (ofConfig config).settings entries
    have accounted : loaded.Accounted (loaded.closedSegments.map Prod.fst)
        (ofConfig config).settings :=
      ⟨rfl, fun _ => rfl, Nat.zero_le _, nofun, nofun, fun _ => .inl⟩
    obtain ⟨kept, bounded⟩ := accounted.trimRetention removes
    exact ⟨rfl, trivial, ⟨kept.balanced, kept.idle, kept.active, kept.named, kept.latest,
      fun _ => .inl⟩, bounded, nofun, [], .initial _ rfl rfl⟩

end RawFrameRecorder

/-- In every run without a failure, the bytes accounted are those of the closed segments and
of the active one and stay within the limit, no trim deletes the active segment, and a
segment over the limit of a segment holds one frame. -/
theorem retention_bounded (config : RawRecordConfig)
    (directory : Except String (List DirectoryEntry)) (io : RecorderIo)
    (removes : ∀ path, io.removed path = true) (recorder : RawFrameRecorder)
    (starts : (RawFrameRecorder.ofConfig config).start directory io = .ok recorder)
    (labels : List RawFrameRecorder.Label)
    (faultless : Machine.Along RawFrameRecorder.step RawFrameRecorder.Faultless labels recorder)
    (unlinks : ∀ label ∈ labels, RawFrameRecorder.Removes label)
    (distinct : (recorder.state.closedSegments.map Prod.fst ++
      (Machine.run RawFrameRecorder.step labels recorder).state.files.map Prod.fst).Nodup) :
    let settings := RecorderSettings.ofConfig config
    let state := (Machine.run RawFrameRecorder.step labels recorder).state
    state.retainedBytes = (state.closedSegments.map Prod.snd).sum + state.activeSegmentBytes ∧
      state.retainedBytes ≤ max settings.maxTotalBytes (48 + settings.maxFrameBytes) ∧
      Machine.Along RawFrameRecorder.step RawFrameRecorder.TrimsSpare labels recorder ∧
      ∀ file ∈ state.files, file.2.length ≤ settings.segmentBytes ∨ ∃ createdUnixNs buffer,
        file.2 = rawFrameFileHeader createdUnixNs settings.maxFrameBytes ++ recordBytes buffer ∧
          file.2.length = 48 + buffer.length := by
  obtain ⟨settings, retains⟩ := RawFrameRecorder.start_retains removes starts
  obtain ⟨ends, -, spares⟩ := retains.run faultless unlinks
  obtain ⟨segments, logged⟩ := ends.logged
  have bounded := ends.bounded
  have same := (RawFrameRecorder.run_settings labels recorder).trans settings
  rw [same] at bounded logged
  refine ⟨ends.accounted.balanced, bounded, spares distinct, fun file member => ?_⟩
  rw [logged.files] at member
  obtain ⟨segment, inLog, rfl⟩ := List.mem_map.mp member
  rcases logged.limited segment inLog with within | ⟨buffer, single⟩
  · exact .inl within
  · have bytes : (segment.file (RecorderSettings.ofConfig config).maxFrameBytes).2 =
        rawFrameFileHeader segment.createdUnixNs (RecorderSettings.ofConfig config).maxFrameBytes ++
          recordBytes buffer := by
      rw [Segment.file, Segment.bytes, single, List.flatMap_singleton]
    refine .inr ⟨segment.createdUnixNs, buffer, bytes, ?_⟩
    rw [bytes, List.length_append, rawFrameFileHeader_length, recordBytes_length,
      ← Nat.add_assoc]
    rfl

namespace RawFrameRecorder

/-- Room for one segment, and for one frame in it. -/
def tightConfig : RawRecordConfig where
  enabled := true
  segmentBytes := 100
  maxTotalBytes := 200

def tight : RawFrameRecorder where
  settings := .ofConfig tightConfig
  freeBuffers := 4096
  started := true

private theorem tight_starts : (ofConfig tightConfig).start (.ok []) {} = .ok tight := by
  simp [start, ofConfig, tight, tightConfig, RecorderSettings.ofConfig,
    RecorderState.loadExistingSegments, RecorderState.trimRetention, RecorderState.trimSegments]

end RawFrameRecorder

/-- The first segment of two is deleted. -/
theorem retention_bounded_tight :
    let state := (Machine.run RawFrameRecorder.step (RawFrameRecorder.twoFrames 60 {}) .tight).state
    state.retainedBytes = 108 ∧ state.files.length = 2 ∧ state.closedSegments.length = 1 ∧
    state.retainedBytes = (state.closedSegments.map Prod.snd).sum + state.activeSegmentBytes :=
  ⟨by decide +kernel, by decide +kernel, by decide +kernel,
    (retention_bounded RawFrameRecorder.tightConfig (.ok []) {} (fun _ => rfl) .tight
      RawFrameRecorder.tight_starts (RawFrameRecorder.twoFrames 60 {})
      ⟨trivial, trivial, trivial, trivial, trivial, trivial, trivial, trivial, trivial,
        ⟨.inr ⟨rfl, rfl⟩, rfl⟩, ⟨.inr ⟨rfl, rfl⟩, rfl⟩, trivial, trivial, trivial, trivial, trivial,
        trivial, trivial⟩
      (by simp [RawFrameRecorder.twoFrames, RawFrameRecorder.Removes]) (by decide +kernel)).1⟩

end RxTech
