import RxTech.Ingress.FileReplayBackend
import RxTech.Library.Pacing

/-!
# The replay sender

`PpsController`, and what `main` of `rx_replay_sender` does with the entries it has loaded:
every loop sends their frames in order, each in its slot.
-/

set_option autoImplicit false

namespace RxTech

/-- The steady clock: what it will answer, and what it has answered last. -/
structure SteadyClock where
  answers : List Nat
  lastNs : Nat
  deriving DecidableEq, Repr

structure PpsController where
  nsPerToken : Nat
  nextNs : Nat
  deriving DecidableEq, Repr

namespace PpsController

/-- The constructor, which reads the clock once. -/
def ofPps (pps : UInt32) (nowNs : Nat) : PpsController where
  nsPerToken := if pps > 0 then 1000000000 / pps.toNat else 0
  nextNs := nowNs

/-- The loop that spins until the deadline. Without an answer of the clock it still spins. -/
def spin (deadline : Nat) : List Nat → Option SteadyClock
  | [] => none
  | nowNs :: answers =>
      if nowNs < deadline then spin deadline answers else some { answers, lastNs := nowNs }

/-- `wait_for_next_slot`; sleeping only makes the clock answer later. -/
def waitForNextSlot (rate : PpsController) (clock : SteadyClock) :
    Option (PpsController × SteadyClock) :=
  if rate.nsPerToken = 0 then some (rate, clock)
  else
    let deadline := rate.nextNs
    let rate := { rate with nextNs := rate.nextNs + rate.nsPerToken }
    match clock.answers with
    | [] => none
    | nowNs :: answers =>
        if nowNs ≥ deadline then some (rate, { answers, lastNs := nowNs })
        else (spin deadline answers).map fun clock => (rate, clock)

end PpsController

/-- `sent` has the frames with what the clock answered last before each of them. -/
structure ReplaySender where
  rate : PpsController
  clock : SteadyClock
  sent : List (List UInt8 × Nat) := []
  deriving DecidableEq, Repr

inductive ReplayExit where
  | finished
  | failed (text : String)
  | waiting
  deriving DecidableEq, Repr

namespace ReplaySender

/-- The loop over the entries. Reading an entry yields its payload or the text of a failure;
`accepts` tells which frames the socket takes. -/
def sendEntries (fcfg : FrameConfig) (accepts : Nat → Bool) :
    List (Except String (List UInt8)) → UInt16 → ReplaySender → ReplaySender × ReplayExit
  | [], _, sender => (sender, .finished)
  | .error what :: _, _, sender => (sender, .failed what)
  | .ok payload :: rest, seq, sender =>
      let frame := buildEthFrame payload fcfg seq
      match sender.rate.waitForNextSlot sender.clock with
      | none => (sender, .waiting)
      | some (rate, clock) =>
          if accepts sender.sent.length then
            sendEntries fcfg accepts rest (seq + 1)
              { rate, clock, sent := sender.sent ++ [(frame, clock.lastNs)] }
          else
            ({ sender with rate, clock },
              .failed ("发送数据帧失败，entry=" ++ toString sender.sent.length ++ "\n"))

/-- The loops; every one of them numbers its frames from zero. -/
def sendLoops (fcfg : FrameConfig) (accepts : Nat → Bool)
    (entries : List (Except String (List UInt8))) :
    Nat → ReplaySender → ReplaySender × ReplayExit
  | 0, sender => (sender, .finished)
  | loops + 1, sender =>
      match sendEntries fcfg accepts entries 0 sender with
      | (sender, .finished) => sendLoops fcfg accepts entries loops sender
      | (sender, exit) => (sender, exit)

/-- `main` behind its arguments; `load_replay_entries` may throw. The clock answers `startNs`
to the constructor of the controller. -/
def main (fcfg : FrameConfig) (loopCount pps : UInt32)
    (entries : Except String (List (Except String (List UInt8)))) (accepts : Nat → Bool)
    (startNs : Nat) (answers : List Nat) : ReplaySender × ReplayExit :=
  let sender : ReplaySender :=
    { rate := .ofPps pps startNs, clock := { answers, lastNs := startNs } }
  match entries with
  | .error what => (sender, .failed ("加载回放数据失败: " ++ what ++ "\n"))
  | .ok [] => (sender, .failed "在指定目录中未找到可回放数据条目。\n")
  | .ok entries => sendLoops fcfg accepts entries loopCount.toNat sender

end ReplaySender

/-! ## Slots -/

namespace PpsController

variable {rate next : PpsController} {clock after : SteadyClock}

private theorem spin_late {deadline : Nat} {answers : List Nat}
    (spun : spin deadline answers = some after) :
    deadline ≤ after.lastNs := by
  induction answers with
  | nil => cases spun
  | cons nowNs answers ih =>
      rw [spin] at spun
      split at spun
      · exact ih spun
      · rename_i late
        cases spun
        exact Nat.not_lt.mp late

/-- The spinning ends if one answer is late enough, and takes one such answer. -/
theorem spin_ends {deadline limit count : Nat} (within : deadline ≤ limit) {answers : List Nat}
    (enough : count < answers.countP (limit ≤ ·)) : ∃ after,
    spin deadline answers = some after ∧ count ≤ after.answers.countP (limit ≤ ·) := by
  induction answers with
  | nil => cases enough
  | cons nowNs answers ih =>
      rw [List.countP_cons] at enough
      rw [spin]
      by_cases early : nowNs < deadline
      · have notYet : ¬ decide (limit ≤ nowNs) = true := by
          rw [decide_eq_true_eq]
          exact Nat.not_le.mpr (Nat.lt_of_lt_of_le early within)
        rw [if_neg notYet] at enough
        rw [if_pos early]
        exact ih enough
      · rw [if_neg early]
        refine ⟨_, rfl, ?_⟩
        have one : (if decide (limit ≤ nowNs) = true then 1 else 0) ≤ 1 := by
          split <;> decide
        exact Nat.le_of_lt_succ (Nat.lt_of_lt_of_le enough (Nat.add_le_add_left one _))

/-- Waiting is spinning until the deadline. -/
theorem waitForNextSlot_eq (timed : rate.nsPerToken ≠ 0) (clock : SteadyClock) :
    rate.waitForNextSlot clock = (spin rate.nextNs clock.answers).map fun after =>
      ({ rate with nextNs := rate.nextNs + rate.nsPerToken }, after) := by
  rw [waitForNextSlot, if_neg timed]
  cases clock.answers with
  | nil => rfl
  | cons nowNs answers =>
      rw [spin]
      dsimp only
      by_cases early : nowNs < rate.nextNs
      · rw [if_neg (Nat.not_le.mpr early), if_pos early]
      · rw [if_pos (Nat.not_lt.mp early), if_neg early]
        rfl

end PpsController

/-! ## Runs -/

namespace ReplaySender

open FileReplayBackend (buildFrames)

variable {fcfg : FrameConfig} {accepts : Nat → Bool} {startNs gap : Nat}
  {sender next : ReplaySender} {exit : ReplayExit}

/-- Every frame has been sent in its slot or later, and the next slot follows. -/
structure OnTime (startNs gap : Nat) (sender : ReplaySender) : Prop where
  token : sender.rate.nsPerToken = gap
  slot : gap ≠ 0 → sender.rate.nextNs = startNs + sender.sent.length * gap
  begun : gap = 0 → startNs ≤ sender.clock.lastNs
  paced : Paced startNs gap (sender.sent.map Prod.snd)

theorem OnTime.sends (onTime : sender.OnTime startNs gap) {rate : PpsController}
    {clock : SteadyClock}
    (waited : sender.rate.waitForNextSlot sender.clock = some (rate, clock))
    (frame : List UInt8) :
    OnTime startNs gap { rate, clock, sent := sender.sent ++ [(frame, clock.lastNs)] } := by
  obtain ⟨rfl, next, begun, paced⟩ := onTime
  have sent : (sender.sent ++ [(frame, clock.lastNs)]).map Prod.snd =
      sender.sent.map Prod.snd ++ [clock.lastNs] := List.map_append
  have count : (sender.sent ++ [(frame, clock.lastNs)]).length = sender.sent.length + 1 :=
    List.length_append
  by_cases timed : sender.rate.nsPerToken = 0
  · rw [PpsController.waitForNextSlot, if_pos timed] at waited
    cases waited
    refine ⟨rfl, fun gap => absurd timed gap, begun, ?_⟩
    rw [sent]
    refine paced.snoc ?_
    rw [timed, Nat.mul_zero]
    exact begun timed
  · rw [PpsController.waitForNextSlot_eq timed, Option.map_eq_some_iff] at waited
    obtain ⟨after, spun, same⟩ := waited
    cases same
    refine ⟨rfl, fun _ => ?_, fun gap => absurd gap timed, ?_⟩
    · rw [count, Nat.succ_mul, ← Nat.add_assoc, next timed]
    · rw [sent]
      refine paced.snoc ?_
      rw [List.length_map, ← next timed]
      exact PpsController.spin_late spun

/-- What a part of a run has sent, out of `planned`. -/
structure Sends (startNs gap : Nat) (planned : List (List UInt8)) (sender next : ReplaySender)
    (exit : ReplayExit) : Prop where
  frames : ∃ sent, sent <+: planned ∧
    next.sent.map Prod.fst = sender.sent.map Prod.fst ++ sent ∧
    (exit = .finished → sent = planned)
  paced : Paced startNs gap (next.sent.map Prod.snd)
  onTime : exit = .finished → next.OnTime startNs gap

theorem Sends.stopped (planned : List (List UInt8)) (same : next.sent = sender.sent)
    (onTime : sender.OnTime startNs gap) (stopped : exit ≠ .finished) :
    Sends startNs gap planned sender next exit := by
  refine ⟨⟨[], List.nil_prefix, ?_, fun finished => absurd finished stopped⟩, ?_,
    fun finished => absurd finished stopped⟩
  · rw [same, List.append_nil]
  · rw [same]
    exact onTime.paced

theorem Sends.then {middle : ReplaySender} {planned others : List (List UInt8)}
    (first : Sends startNs gap planned sender middle .finished)
    (second : Sends startNs gap others middle next exit) :
    Sends startNs gap (planned ++ others) sender next exit := by
  obtain ⟨⟨sent, -, grown, whole⟩, -, -⟩ := first
  obtain ⟨⟨later, early, longer, all⟩, paced, onTime⟩ := second
  obtain rfl := whole rfl
  refine ⟨⟨sent ++ later, List.prefix_append_right_inj sent |>.mpr early, ?_, fun finished => ?_⟩,
    paced, onTime⟩
  · rw [longer, grown, List.append_assoc]
  · rw [all finished]

private theorem sendEntries_sends (entries : List (Except String (List UInt8))) (seq : UInt16)
    (onTime : sender.OnTime startNs gap) :
    Sends startNs gap (buildFrames fcfg entries seq).1 sender
      (sendEntries fcfg accepts entries seq sender).1
      (sendEntries fcfg accepts entries seq sender).2 := by
  induction entries generalizing seq sender with
  | nil => exact ⟨⟨[], List.nil_prefix, (List.append_nil _).symm, fun _ => rfl⟩, onTime.paced,
      fun _ => onTime⟩
  | cons entry rest ih =>
      cases entry with
      | error what => exact .stopped _ rfl onTime (by rintro ⟨⟩)
      | ok payload =>
          rw [sendEntries, buildFrames]
          dsimp only
          cases waited : sender.rate.waitForNextSlot sender.clock with
          | none => exact .stopped _ rfl onTime (by rintro ⟨⟩)
          | some slot =>
              obtain ⟨rate, clock⟩ := slot
              dsimp only
              split
              · have sent := onTime.sends waited (buildEthFrame payload fcfg seq)
                have one : Sends startNs gap [buildEthFrame payload fcfg seq] sender
                    { rate, clock
                      sent := sender.sent ++ [(buildEthFrame payload fcfg seq, clock.lastNs)] }
                    .finished :=
                  ⟨⟨_, List.prefix_refl _, List.map_append, fun _ => rfl⟩, sent.paced, fun _ => sent⟩
                exact one.then (ih (seq + 1) sent)
              · exact .stopped _ rfl onTime (by rintro ⟨⟩)

private theorem sendLoops_sends (entries : List (Except String (List UInt8))) (loops : Nat)
    (onTime : sender.OnTime startNs gap) :
    Sends startNs gap (List.replicate loops (buildFrames fcfg entries 0).1).flatten sender
      (sendLoops fcfg accepts entries loops sender).1
      (sendLoops fcfg accepts entries loops sender).2 := by
  induction loops generalizing sender with
  | zero => exact ⟨⟨[], List.nil_prefix, (List.append_nil _).symm, fun _ => rfl⟩, onTime.paced,
      fun _ => onTime⟩
  | succ loops ih =>
      have sends := @sendEntries_sends fcfg accepts startNs gap sender entries 0 onTime
      rw [sendLoops, List.replicate_succ, List.flatten_cons]
      generalize sendEntries fcfg accepts entries 0 sender = result at sends ⊢
      obtain ⟨next, exit⟩ := result
      cases exit with
      | finished => exact sends.then (ih (sends.onTime rfl))
      | failed text | waiting =>
          obtain ⟨⟨sent, early, grown, -⟩, paced, -⟩ := sends
          exact ⟨⟨sent, early.trans (List.prefix_append ..), grown, by rintro ⟨⟩⟩, paced,
            by rintro ⟨⟩⟩

/-! ## Getting through -/

private theorem buildFrames_length {entries : List (Except String (List UInt8))} {seq : UInt16}
    (readable : (buildFrames fcfg entries seq).2 = none) :
    (buildFrames fcfg entries seq).1.length = entries.length := by
  induction entries generalizing seq with
  | nil => rfl
  | cons entry rest ih =>
      cases entry with
      | error what => cases readable
      | ok payload => exact congrArg Nat.succ (ih readable)

variable {limit spare : Nat}

/-- A slot comes, and takes one answer of the clock that is late enough for all slots. -/
theorem OnTime.waits (onTime : sender.OnTime startNs gap)
    (within : startNs + sender.sent.length * gap ≤ limit)
    (enough : spare < sender.clock.answers.countP (limit ≤ ·)) : ∃ rate clock,
    sender.rate.waitForNextSlot sender.clock = some (rate, clock) ∧
      spare ≤ clock.answers.countP (limit ≤ ·) := by
  by_cases timed : sender.rate.nsPerToken = 0
  · rw [PpsController.waitForNextSlot, if_pos timed]
    exact ⟨_, _, rfl, Nat.le_of_lt enough⟩
  · rw [← onTime.slot (onTime.token ▸ timed)] at within
    obtain ⟨after, spun, left⟩ := PpsController.spin_ends within enough
    rw [PpsController.waitForNextSlot_eq timed, spun]
    exact ⟨_, _, rfl, left⟩

private theorem sendEntries_finishes (taken : ∀ index, accepts index = true)
    (entries : List (Except String (List UInt8))) (seq : UInt16)
    (readable : (buildFrames fcfg entries seq).2 = none) (onTime : sender.OnTime startNs gap)
    (within : startNs + (sender.sent.length + entries.length) * gap ≤ limit)
    (enough : entries.length + spare ≤ sender.clock.answers.countP (limit ≤ ·)) :
    (sendEntries fcfg accepts entries seq sender).2 = .finished ∧
      spare ≤ (sendEntries fcfg accepts entries seq sender).1.clock.answers.countP (limit ≤ ·) := by
  induction entries generalizing seq sender with
  | nil =>
      rw [List.length_nil, Nat.zero_add] at enough
      exact ⟨rfl, enough⟩
  | cons entry rest ih =>
      cases entry with
      | error what => cases readable
      | ok payload =>
          rw [List.length_cons] at within enough
          have soon : startNs + sender.sent.length * gap ≤ limit :=
            Nat.le_trans (Nat.add_le_add_left (Nat.mul_le_mul_right gap (Nat.le_add_right ..)) _)
              within
          obtain ⟨rate, clock, waited, left⟩ :=
            onTime.waits soon (by omega : rest.length + spare < _)
          rw [sendEntries]
          simp only [waited, taken, if_true]
          refine ih (seq + 1) readable (onTime.sends waited _) ?_ left
          rwa [List.length_append, List.length_singleton, Nat.add_assoc, Nat.add_comm 1]

private theorem sendLoops_finishes (taken : ∀ index, accepts index = true)
    (entries : List (Except String (List UInt8)))
    (readable : (buildFrames fcfg entries 0).2 = none) (loops : Nat)
    (onTime : sender.OnTime startNs gap)
    (within : startNs + (sender.sent.length + loops * entries.length) * gap ≤ limit)
    (enough : loops * entries.length ≤ sender.clock.answers.countP (limit ≤ ·)) :
    (sendLoops fcfg accepts entries loops sender).2 = .finished := by
  induction loops generalizing sender with
  | zero => rfl
  | succ loops ih =>
      rw [Nat.succ_mul, Nat.add_comm (loops * entries.length)] at within enough
      have soon : startNs + (sender.sent.length + entries.length) * gap ≤ limit :=
        Nat.le_trans (Nat.add_le_add_left (Nat.mul_le_mul_right gap
          (Nat.add_le_add_left (Nat.le_add_right ..) _)) _) within
      obtain ⟨finished, left⟩ := sendEntries_finishes taken entries 0 readable onTime soon enough
      have sends := @sendEntries_sends fcfg accepts startNs gap sender entries 0 onTime
      rw [sendLoops]
      generalize sendEntries fcfg accepts entries 0 sender = result at finished left sends ⊢
      obtain ⟨next, exit⟩ := result
      obtain rfl : exit = .finished := finished
      obtain ⟨sent, -, grown, whole⟩ := sends.frames
      obtain rfl := whole rfl
      have count := congrArg List.length grown
      rw [List.length_map, List.length_append, List.length_map, buildFrames_length readable] at count
      refine ih (sends.onTime rfl) ?_ left
      rwa [count, Nat.add_assoc]

/-- The limiter that `main` begins with. -/
theorem onTime_start (pps : UInt32) (startNs : Nat) (answers : List Nat) :
    OnTime startNs (1000000000 / pps.toNat)
      { rate := .ofPps pps startNs, clock := { answers, lastNs := startNs } } := by
  refine ⟨?_, fun _ => ?_, fun _ => Nat.le_refl _, .nil⟩
  · rw [PpsController.ofPps]
    split
    · rfl
    · rename_i none
      have zero : pps = 0 := UInt32.le_zero_iff.mp (UInt32.not_lt.mp none)
      change 0 = 1000000000 / pps.toNat
      rw [zero]
      rfl
  · exact (Nat.add_zero startNs).symm.trans (congrArg _ (Nat.zero_mul _).symm)

/-- A run of `main` that finishes has sent all frames. -/
theorem main_sends {loopCount pps : UInt32} {entries : List (Except String (List UInt8))}
    {answers : List Nat}
    (finished : (main fcfg loopCount pps (.ok entries) accepts startNs answers).2 = .finished) :
    (main fcfg loopCount pps (.ok entries) accepts startNs answers).1.sent.map Prod.fst =
      (List.replicate loopCount.toNat (buildFrames fcfg entries 0).1).flatten := by
  cases entries with
  | nil => cases finished
  | cons entry rest =>
      have sends := @sendLoops_sends fcfg accepts startNs _ _ (entry :: rest) loopCount.toNat
        (onTime_start pps startNs answers)
      obtain ⟨sent, -, grown, whole⟩ := sends.frames
      exact grown.trans (whole finished)

end ReplaySender

/-- A run of the replay sender sends the frames of its entries, loop after loop, up to the
first that cannot be read or sent. By no time has it sent more frames than slots have begun.
It sends all of them if all can be read and sent and the clock gets past the last slot. -/
theorem replay_main_paced (fcfg : FrameConfig) (loopCount pps : UInt32)
    (entries : List (Except String (List UInt8))) (accepts : Nat → Bool) (startNs : Nat)
    (answers : List Nat) :
    let run := ReplaySender.main fcfg loopCount pps (.ok entries) accepts startNs answers
    let built := FileReplayBackend.buildFrames fcfg entries 0
    let planned := (List.replicate loopCount.toNat built.1).flatten
    let gap := 1000000000 / pps.toNat
    run.1.sent.map Prod.fst <+: planned ∧
      (run.2 = .finished → run.1.sent.map Prod.fst = planned) ∧
      (0 < gap → ∀ limit, (run.1.sent.map Prod.snd).countP (· ≤ limit) ≤
        (limit - startNs) / gap + 1) ∧
      (entries ≠ [] → built.2 = none → (∀ index, accepts index = true) →
        planned.length ≤ answers.countP (startNs + planned.length * gap ≤ ·) →
        run.2 = .finished) := by
  intro run built planned gap
  have onTime := ReplaySender.onTime_start pps startNs answers
  cases entries with
  | nil =>
      refine ⟨List.nil_prefix, fun finished => ?_, fun _ limit => Nat.zero_le _, fun some => ?_⟩
      · cases finished
      · exact absurd rfl some
  | cons entry rest =>
      have sends := @ReplaySender.sendLoops_sends fcfg accepts startNs gap _ (entry :: rest)
        loopCount.toNat onTime
      obtain ⟨⟨sent, early, grown, -⟩, paced, -⟩ := sends
      rw [List.map_nil, List.nil_append] at grown
      refine ⟨grown ▸ early, ReplaySender.main_sends,
        fun pos limit => paced.count_le pos limit, fun _ readable taken enough => ?_⟩
      have length : planned.length = loopCount.toNat * (entry :: rest).length := by
        rw [List.length_flatten, List.map_replicate, List.sum_replicate_nat,
          ReplaySender.buildFrames_length readable]
      rw [length] at enough
      refine ReplaySender.sendLoops_finishes taken _ readable _ onTime ?_ enough
      exact Nat.le_of_eq (by rw [List.length_nil, Nat.zero_add])

end RxTech
