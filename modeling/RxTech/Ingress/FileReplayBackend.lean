import RxTech.Ingress.DpdkDatagramAdapter
import RxTech.Library.Machine
import RxTech.Protocol.Ipv4Text
import RxTech.Replay.FrameBuilder

/-!
# The file replay backend

`FileReplayBackend`: a frame is built for every entry, and bursts of descriptors serve
the frames in order, over and over. The rate limit only delays a burst.
-/

set_option autoImplicit false

namespace RxTech

/-- The directories and the rate are left out. -/
structure FileReplayOptions where
  loopCount : UInt32 := 1
  srcIpv4Be : UInt32 := 0
  dstIpv4Be : UInt32 := 0
  srcPort : UInt16 := 0
  dstPort : UInt16 := 0
  deriving DecidableEq, Repr

structure FileReplayBackend where
  opts : FileReplayOptions
  frames : List (List UInt8) := []
  cursor : Nat := 0
  loop : UInt32 := 0
  stats : BackendStats := {}
  stopped : Bool := false

/-- The addressing that `init` resolves; an address that is not read stays at the default
of `FrameConfig`. -/
def FileReplayOptions.frameConfig (opts : FileReplayOptions) (config : RxConfig) : FrameConfig :=
  let fcfg : FrameConfig := {}
  { fcfg with
    dstIpv4Be :=
      if opts.dstIpv4Be ≠ 0 then opts.dstIpv4Be
      else if config.receiverIpv4 ≠ "" then
        (scanfIpv4Be config.receiverIpv4).getD fcfg.dstIpv4Be
      else fcfg.dstIpv4Be
    srcIpv4Be :=
      if opts.srcIpv4Be ≠ 0 then opts.srcIpv4Be
      else if config.allowedSourceIpv4 ≠ "" then
        (scanfIpv4Be config.allowedSourceIpv4).getD fcfg.srcIpv4Be
      else fcfg.srcIpv4Be
    dstPort := if opts.dstPort ≠ 0 then opts.dstPort else UInt16.ofNat config.allowedDestPort
    srcPort := if opts.srcPort ≠ 0 then opts.srcPort else fcfg.srcPort }

namespace FileReplayBackend

def ofOptions (opts : FileReplayOptions) : FileReplayBackend := { opts }

/-- The loop of `init` over the entries; reading an entry yields its payload or throws.
The sequence number wraps around. -/
def buildFrames (fcfg : FrameConfig) :
    List (Except String (List UInt8)) → UInt16 → List (List UInt8) × Option String
  | [], _ => ([], none)
  | .error what :: _, _ => ([], some what)
  | .ok payload :: rest, seq =>
      let (frames, reason) := buildFrames fcfg rest (seq + 1)
      (buildEthFrame payload fcfg seq :: frames, reason)

/-- `init`, with the reason if it fails; `load_replay_entries` may throw, too. -/
def init (backend : FileReplayBackend) (config : RxConfig)
    (entries : Except String (List (Except String (List UInt8)))) :
    FileReplayBackend × Option String :=
  let fcfg := backend.opts.frameConfig config
  match entries with
  | .error what => (backend, some what)
  | .ok [] => (backend, some "未找到可回放的数据条目")
  | .ok entries =>
      let (frames, reason) := buildFrames fcfg entries 0
      ({ backend with frames := backend.frames ++ frames }, reason)

/-- The descriptor of a frame. -/
def describe (frame : List UInt8) (frameIndex ts : Nat) : UdpDatagramDesc where
  rawFrameData := some fun offset => frame.getD offset 0
  rawFrameLen := UInt32.ofNat frame.length
  payloadData := none
  payloadLen := 0
  srcIpv4Be := 0
  dstIpv4Be := 0
  srcPort := 0
  dstPort := 0
  tsNs := ts
  cookie := frameIndex
  backendKind := .fileReplay

/-- The loop that fills the burst, with the room that is left in it. -/
def fillBurst (ts : Nat) : Nat → FileReplayBackend → FileReplayBackend × List UdpDatagramDesc
  | 0, backend => (backend, [])
  | room + 1, backend =>
      match backend.frames[backend.cursor]? with
      | none => (backend, [])
      | some frame =>
          let datagram := describe frame backend.cursor ts
          let stats := backend.stats
          let (backend, datagrams) := fillBurst ts room
            { backend with
              cursor := backend.cursor + 1
              stats :=
                { stats with
                  rxPackets := stats.rxPackets + 1
                  rxBytes := stats.rxBytes + datagram.rawFrameLen.toNat } }
          (backend, datagram :: datagrams)

/-- The check for the end of a loop in `recv_burst`. -/
def rewind (backend : FileReplayBackend) : FileReplayBackend :=
  if backend.cursor < backend.frames.length then backend
  else if backend.loop + 1 ≥ backend.opts.loopCount then
    { backend with loop := backend.loop + 1, stopped := true }
  else { backend with loop := backend.loop + 1, cursor := 0 }

def recvBurst (backend : FileReplayBackend) (maxBurst : UInt32) (ts : Nat) :
    FileReplayBackend × List UdpDatagramDesc :=
  if backend.stopped = true ∨ backend.frames = [] then (backend, [])
  else
    let backend := backend.rewind
    if backend.stopped then (backend, [])
    else
      let (backend, datagrams) := fillBurst ts maxBurst.toNat backend
      let stats := backend.stats
      let emptyPolls := if datagrams = [] then stats.emptyPolls + 1 else stats.emptyPolls
      ({ backend with stats := { stats with rxPolls := stats.rxPolls + 1, emptyPolls } }, datagrams)

def shutdown (backend : FileReplayBackend) : FileReplayBackend :=
  { backend with stopped := true }

/-- The calls after `init`. `release_burst` only clears the burst. -/
inductive Call where
  | recvBurst (maxBurst : UInt32) (ts : Nat)
  | shutdown
  deriving DecidableEq, Repr

def step : Call → FileReplayBackend → FileReplayBackend
  | .recvBurst maxBurst ts, backend => (backend.recvBurst maxBurst ts).1
  | .shutdown, backend => backend.shutdown

def burst : Call → FileReplayBackend → Option (List UdpDatagramDesc)
  | .recvBurst maxBurst ts, backend => some (backend.recvBurst maxBurst ts).2
  | .shutdown, _ => none

/-- The datagrams served in a run. -/
def served (calls : List Call) (backend : FileReplayBackend) : List UdpDatagramDesc :=
  (Machine.answers step burst calls backend).flatten

end FileReplayBackend

end RxTech
