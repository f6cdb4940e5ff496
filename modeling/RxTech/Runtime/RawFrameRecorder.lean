import RxTech.Library.Machine
import RxTech.Protocol.UdpPayloadAssembler
import RxTech.Runtime.RecorderSegments

/-!
# The raw frame recorder

`RawFrameRecorder`: calls of `submit`, the writer thread and `stop`, one locked section
at a time in any interleaving. Between two sections of `write_buffer` no other thread
touches what it reads, so a buffer is written in one step.
-/

set_option autoImplicit false

namespace RxTech

/-- Where a call of `submit` stands. -/
inductive SubmitPhase where
  | entered (packet : PacketDesc)
  | unfailed (packet : PacketDesc)
  | refused (packet : PacketDesc)
  | queued (queueDepth : Nat)

/-- Where `writer_loop` stands. The batch is what is written of it and what is left. -/
inductive WriterPhase where
  | waiting
  | writing (written left : List RecorderBuffer)
  | caught (written left : List RecorderBuffer) (what : String)
  | failed (written left : List RecorderBuffer)
  | closing
  | leaving
  | finished

/-- A buffer that is free is only counted. -/
structure RawFrameRecorder where
  settings : RecorderSettings
  freeBuffers : Nat := 0
  filledBuffers : List RecorderBuffer := []
  started : Bool := false
  stopRequested : Bool := false
  state : RecorderState := {}
  submits : List SubmitPhase := []
  writer : WriterPhase := .waiting

namespace RawFrameRecorder

def ofConfig (config : RawRecordConfig) : RawFrameRecorder where
  settings := .ofConfig config

/-- `start`; creating the directory may throw. -/
def start (recorder : RawFrameRecorder) (directory : Except String (List DirectoryEntry))
    (io : RecorderIo) : Except String RawFrameRecorder :=
  if recorder.settings.enabled = false ∨ recorder.started = true then .ok recorder
  else if recorder.settings.outputDir = "" then
    .error "启用原始帧录制时 raw_record_output_dir 不能为空"
  else
    match directory with
    | .error what => .error what
    | .ok entries =>
        let loaded := recorder.state.loadExistingSegments recorder.settings entries
        .ok
          { recorder with
            freeBuffers := recorder.freeBuffers + recorder.settings.ringSlots
            state := loaded.trimRetention recorder.settings io
            started := true }

/-- A recorder that is off or running is left as it is. -/
theorem start_outcome {recorder next : RawFrameRecorder}
    {directory : Except String (List DirectoryEntry)} {io : RecorderIo}
    (starts : recorder.start directory io = .ok next) :
    ((recorder.settings.enabled = false ∨ recorder.started = true) ∧ next = recorder) ∨
      ∃ entries, directory = .ok entries ∧ recorder.settings.enabled = true ∧
        next =
          { recorder with
            freeBuffers := recorder.freeBuffers + recorder.settings.ringSlots
            state := (recorder.state.loadExistingSegments recorder.settings entries).trimRetention
              recorder.settings io
            started := true } := by
  unfold start at starts
  split at starts
  · rename_i stays
    cases starts
    exact .inl ⟨stays, rfl⟩
  · rename_i opens
    have on : recorder.settings.enabled = true := by
      cases enabled : recorder.settings.enabled with
      | false => exact absurd (.inl enabled) opens
      | true => rfl
    split at starts
    · cases starts
    · cases directory with
      | error what => cases starts
      | ok entries =>
          cases starts
          exact .inr ⟨entries, rfl, on, rfl⟩

/-- A frame that is not recorded. -/
def drop (recorder : RawFrameRecorder) (packet : PacketDesc) : RawFrameRecorder :=
  let stats := recorder.state.stats
  { recorder with
    state :=
      { recorder.state with
        stats :=
          { stats with
            droppedFrames := stats.droppedFrames + 1
            droppedBytes := stats.droppedBytes + packet.len.toNat } } }

/-- The copy that `submit` makes; `nowNs` is the steady clock. -/
def fill (packet : PacketDesc) (nowNs : Nat) : RecorderBuffer where
  bytes := packet.data.elim [] fun data => data.bytes 0 packet.len.toNat
  timestampNs := if packet.tsNs ≠ 0 then packet.tsNs else nowNs
  queueId := packet.queueId

/-- The next section of a call of `submit`; `none` if the call is over with it. -/
def advance (recorder : RawFrameRecorder) (nowNs : Nat) :
    SubmitPhase → RawFrameRecorder × Option SubmitPhase
  | .entered packet =>
      if recorder.state.failureMessage ≠ "" then (recorder.drop packet, none)
      else (recorder, some (.unfailed packet))
  | .unfailed packet =>
      if packet.len.toNat > recorder.settings.maxFrameBytes then (recorder.drop packet, none)
      else if recorder.stopRequested = true ∨ recorder.freeBuffers = 0 then
        (recorder, some (.refused packet))
      else
        let filledBuffers := recorder.filledBuffers ++ [fill packet nowNs]
        ({ recorder with freeBuffers := recorder.freeBuffers - 1, filledBuffers },
          some (.queued filledBuffers.length))
  | .refused packet => (recorder.drop packet, none)
  | .queued queueDepth =>
      let stats := recorder.state.stats
      ({ recorder with
          state :=
            { recorder.state with
              stats :=
                { stats with
                  queueHighWatermark := max stats.queueHighWatermark queueDepth } } },
        none)

/-- A packet that `submit` does not ignore. -/
def Records (packet : PacketDesc) : Bool := packet.data.isSome && packet.len ≠ 0

def enter (recorder : RawFrameRecorder) (packet : PacketDesc) : RawFrameRecorder :=
  if recorder.settings.enabled = true ∧ Records packet = true then
    { recorder with submits := recorder.submits ++ [.entered packet] }
  else recorder

/-- A call in flight goes on. -/
def submit (recorder : RawFrameRecorder) (call nowNs : Nat) : RawFrameRecorder :=
  match recorder.submits[call]? with
  | none => recorder
  | some phase =>
      let (recorder, next) := recorder.advance nowNs phase
      match next with
      | none => { recorder with submits := recorder.submits.eraseIdx call }
      | some next => { recorder with submits := recorder.submits.set call next }

/-- `writer_loop`; waiting for the condition variable is no step. -/
def write (recorder : RawFrameRecorder) (io : RecorderIo) : RawFrameRecorder :=
  match recorder.writer with
  | .waiting =>
      if recorder.filledBuffers = [] then
        if recorder.stopRequested then { recorder with writer := .leaving } else recorder
      else
        let batchCount := min recorder.settings.writerBatchSize recorder.filledBuffers.length
        { recorder with
          filledBuffers := recorder.filledBuffers.drop batchCount
          writer := .writing [] (recorder.filledBuffers.take batchCount) }
  | .writing written [] =>
      { recorder with
        freeBuffers := recorder.freeBuffers + written.length
        writer := .waiting }
  | .writing written (buffer :: left) =>
      match recorder.state.writeBuffer recorder.settings io buffer with
      | (state, none) => { recorder with state, writer := .writing (written ++ [buffer]) left }
      | (state, some what) => { recorder with state, writer := .caught written (buffer :: left) what }
  | .caught written left what =>
      { recorder with
        state := { recorder.state with failureMessage := what }
        writer := .failed written left }
  | .failed written left =>
      { recorder with
        freeBuffers :=
          recorder.freeBuffers + (written ++ left).length + recorder.filledBuffers.length
        filledBuffers := []
        writer := .closing }
  | .closing =>
      { recorder with
        state := recorder.state.closeActiveSegment recorder.settings io
        writer := .finished }
  | .leaving =>
      let closed := recorder.state.closeActiveSegment recorder.settings io
      { recorder with
        state := closed.trimRetention recorder.settings io
        writer := .finished }
  | .finished => recorder

/-- `stop` up to joining the writer. -/
def requestStop (recorder : RawFrameRecorder) : RawFrameRecorder :=
  if recorder.settings.enabled = false ∨ recorder.started = false then recorder
  else { recorder with stopRequested := true }

/-- `stop` returns once the writer has finished. -/
def joinWriter (recorder : RawFrameRecorder) : RawFrameRecorder :=
  match recorder.writer with
  | .finished => if recorder.stopRequested then { recorder with started := false } else recorder
  | _ => recorder

inductive Label where
  | enter (packet : PacketDesc)
  | submit (call nowNs : Nat)
  | write (io : RecorderIo)
  | requestStop
  | joinWriter

def step : Label → RawFrameRecorder → RawFrameRecorder
  | .enter packet, recorder => recorder.enter packet
  | .submit call nowNs, recorder => recorder.submit call nowNs
  | .write io, recorder => recorder.write io
  | .requestStop, recorder => recorder.requestStop
  | .joinWriter, recorder => recorder.joinWriter

end RawFrameRecorder

end RxTech
