import RxTech.Library.CommandLine
import RxTech.Runtime.ConfigFile

/-!
# The command line of the receiver

`parse_cli_args`, and the command lines that it accepts.
-/

set_option autoImplicit false

namespace RxTech

open CommandLine (Role Use Takes Stops render)
open DecimalText (scan IsNumber)

structure CliArgs where
  configPath : String := ""
  dryRun : Bool := false
  help : Bool := false
  runUntilStopped : Bool := false
  durationSeconds : Option Nat := none
  statusIntervalSeconds : Option Nat := none
  valid : Bool := true
  errorMessage : String := ""
  deriving DecidableEq, Repr

/-- `parse_u32_argument`; `processed` is the length of what has been read. -/
def parseU32Argument (value : List Char) : Option Nat :=
  match ConfigText.stoul value, scan value with
  | .ok rawValue, some (_, _, rest) =>
      if rest ≠ [] ∨ rawValue > 4294967295 then none else some rawValue
  | _, _ => none

/-- `current.rfind("--", 0) == 0`. -/
def isLongOption (current : String) : Bool := current.toList.take 2 == ['-', '-']

def CliArgs.fail (args : CliArgs) (message : String) : CliArgs :=
  { args with valid := false, errorMessage := message }

/-- The loop of `parse_cli_args`. -/
def parseCliLoop : List String → CliArgs → CliArgs
  | [], args => args
  | current :: rest, args =>
      if current = "-h" ∨ current = "--help" then parseCliLoop rest { args with help := true }
      else if isLongOption current then
        if current = "--dry-run" then parseCliLoop rest { args with dryRun := true }
        else if current = "--run-until-stopped" then
          parseCliLoop rest { args with runUntilStopped := true }
        else
          match rest with
          | [] => args.fail ("missing value for argument: " ++ current)
          | value :: rest =>
              if current = "--config" then parseCliLoop rest { args with configPath := value }
              else if current = "--duration" then
                match parseU32Argument value.toList with
                | none => args.fail "invalid unsigned integer for argument: --duration"
                | some seconds => parseCliLoop rest { args with durationSeconds := some seconds }
              else if current = "--status-interval" then
                match parseU32Argument value.toList with
                | none => args.fail "invalid unsigned integer for argument: --status-interval"
                | some seconds =>
                    parseCliLoop rest { args with statusIntervalSeconds := some seconds }
              else args.fail ("unknown argument: " ++ current)
      else args.fail ("unexpected positional argument: " ++ current)

/-- `parse_cli_args`, on the words behind the name of the program. -/
def parseCliArgs (words : List String) : CliArgs := parseCliLoop words {}

/-! ## The options -/

/-- What a number option does with its value. -/
def readSeconds (current value : String) (put : Nat → CliArgs) : Except String CliArgs :=
  match parseU32Argument value.toList with
  | none => .error ("invalid unsigned integer for argument: " ++ current)
  | some seconds => .ok (put seconds)

def cliValue (current : String) (args : CliArgs) (value : String) : Except String CliArgs :=
  if current = "--config" then .ok { args with configPath := value }
  else if current = "--duration" then
    readSeconds current value fun seconds => { args with durationSeconds := some seconds }
  else if current = "--status-interval" then
    readSeconds current value fun seconds => { args with statusIntervalSeconds := some seconds }
  else .error ("unknown argument: " ++ current)

def cliRole (current : String) : Role String CliArgs String :=
  if current = "-h" ∨ current = "--help" then .flag fun args => { args with help := true }
  else if isLongOption current then
    if current = "--dry-run" then .flag fun args => { args with dryRun := true }
    else if current = "--run-until-stopped" then
      .flag fun args => { args with runUntilStopped := true }
    else .valued ("missing value for argument: " ++ current) (cliValue current)
  else .refused ("unexpected positional argument: " ++ current)

/-- The arguments with the error that ended the reading, if there is one. -/
def CliArgs.finish : CliArgs × Option String → CliArgs
  | (args, none) => args
  | (args, some message) => args.fail message

private theorem parseCliLoop_eq (words : List String) (args : CliArgs) :
    parseCliLoop words args = CliArgs.finish (CommandLine.read cliRole args words) := by
  fun_induction parseCliLoop words args with
  | case1 args => rfl
  | case2 args current rest known ih =>
      rw [ih, CommandLine.read, cliRole, if_pos known]
  | case3 args rest help long ih => simp [ih, CommandLine.read, cliRole, isLongOption]
  | case4 args rest help long dry ih => simp [ih, CommandLine.read, cliRole, isLongOption]
  | case5 args current help long dry endless =>
      simp only [CommandLine.read, cliRole, if_neg help, if_pos long, if_neg dry, if_neg endless]
      rfl
  | case6 args value rest help long dry endless ih =>
      simp [ih, CommandLine.read, cliRole, isLongOption, cliValue]
  | case7 args value rest unread =>
      simp [CommandLine.read, cliRole, isLongOption, cliValue, readSeconds, unread, CliArgs.finish]
  | case8 args value rest seconds read help long dry endless config ih =>
      simp [ih, CommandLine.read, cliRole, isLongOption, cliValue, readSeconds, read]
  | case9 args value rest unread =>
      simp [CommandLine.read, cliRole, isLongOption, cliValue, readSeconds, unread, CliArgs.finish]
  | case10 args value rest seconds read help long dry endless config duration ih =>
      simp [ih, CommandLine.read, cliRole, isLongOption, cliValue, readSeconds, read]
  | case11 args current help long dry endless value rest config duration status =>
      simp only [CommandLine.read, cliRole, if_neg help, if_pos long, if_neg dry, if_neg endless,
        cliValue, if_neg config, if_neg duration, if_neg status]
      rfl
  | case12 args current rest help long =>
      simp only [CommandLine.read, cliRole, if_neg help, if_neg long]
      rfl

/-- The texts of a number that fits 32 bits: one without a minus, or one with a minus so large
that `std::stoul` wraps it around into the range. -/
inductive U32Text : List Char → Nat → Prop where
  | plain {text spaces signs digits : List Char} {number : Nat} :
      IsNumber text false number [] spaces signs digits → number < 2 ^ 32 → U32Text text number
  | wrapped {text spaces signs digits : List Char} {magnitude : Nat} :
      IsNumber text true magnitude [] spaces signs digits → magnitude < 2 ^ 64 →
      (2 ^ 64 - magnitude) % 2 ^ 64 < 2 ^ 32 → U32Text text ((2 ^ 64 - magnitude) % 2 ^ 64)

/-- `std::stoul` on a magnitude that it can represent. -/
def wrappedNumber (negative : Bool) (magnitude : Nat) : Nat :=
  if negative then (2 ^ 64 - magnitude) % 2 ^ 64 else magnitude

private theorem parseU32Argument_of_scan {text rest : List Char} {negative : Bool} {magnitude : Nat}
    (scanned : scan text = some (negative, magnitude, rest)) (number : Nat) :
    parseU32Argument text = some number ↔
      magnitude < 2 ^ 64 ∧ rest = [] ∧ wrappedNumber negative magnitude = number ∧
        number < 2 ^ 32 := by
  have stoul : ConfigText.stoul text =
      if magnitude < 2 ^ 64 then .ok (wrappedNumber negative magnitude)
      else .error .outOfRange := by
    rw [ConfigText.stoul, scanned]
    rfl
  rw [parseU32Argument, stoul, scanned]
  by_cases inside : magnitude < 2 ^ 64
  · rw [if_pos inside]
    dsimp only
    constructor
    · intro parsed
      split at parsed
      · cases parsed
      · rename_i whole
        obtain ⟨ended, small⟩ := not_or.mp whole
        have found := Option.some.inj parsed
        have fits := Nat.lt_succ_of_le (Nat.not_lt.mp small)
        exact ⟨inside, Classical.not_not.mp ended, found, found ▸ fits⟩
    · rintro ⟨-, rfl, rfl, fits⟩
      rw [if_neg]
      exact not_or.mpr ⟨Classical.not_not.mpr rfl, Nat.not_lt.mpr (Nat.le_of_lt_succ fits)⟩
  · rw [if_neg inside]
    constructor
    · intro parsed
      cases parsed
    · intro reads
      exact absurd reads.1 inside

private theorem parseU32Argument_eq_some_iff {text : List Char} {number : Nat} :
    parseU32Argument text = some number ↔ U32Text text number := by
  constructor
  · intro parsed
    cases scanned : scan text with
    | none =>
        rw [parseU32Argument, ConfigText.stoul, scanned] at parsed
        cases parsed
    | some found =>
        obtain ⟨negative, magnitude, rest⟩ := found
        obtain ⟨spaces, signs, digits, isNumber⟩ := DecimalText.scan_eq_some_iff.mp scanned
        obtain ⟨inside, rfl, rfl, fits⟩ := (parseU32Argument_of_scan scanned number).mp parsed
        cases negative with
        | false => exact .plain isNumber fits
        | true => exact .wrapped isNumber inside fits
  · intro reads
    cases reads with
    | plain isNumber fits =>
        have scanned := DecimalText.scan_eq_some_iff.mpr ⟨_, _, _, isNumber⟩
        apply (parseU32Argument_of_scan scanned _).mpr
        exact ⟨Nat.lt_trans fits (by decide), rfl, rfl, fits⟩
    | wrapped isNumber inside fits =>
        have scanned := DecimalText.scan_eq_some_iff.mpr ⟨_, _, _, isNumber⟩
        apply (parseU32Argument_of_scan scanned _).mpr
        exact ⟨inside, rfl, rfl, fits⟩

/-! ## The grammar of the command line -/

/-- An option with its value; a number stands beside the text that it is read from. -/
inductive CliOption where
  | shortHelp
  | help
  | dryRun
  | runUntilStopped
  | config (path : String)
  | duration (text : String) (seconds : Nat)
  | statusInterval (text : String) (seconds : Nat)
  deriving DecidableEq, Repr

namespace CliOption

def use : CliOption → Use String
  | .shortHelp => .flag "-h"
  | .help => .flag "--help"
  | .dryRun => .flag "--dry-run"
  | .runUntilStopped => .flag "--run-until-stopped"
  | .config path => .valued "--config" path
  | .duration text _ => .valued "--duration" text
  | .statusInterval text _ => .valued "--status-interval" text

def Reads : CliOption → Prop
  | .duration text seconds | .statusInterval text seconds => U32Text text.toList seconds
  | .shortHelp | .help | .dryRun | .runUntilStopped | .config _ => True

def apply (args : CliArgs) : CliOption → CliArgs
  | .shortHelp | .help => { args with help := true }
  | .dryRun => { args with dryRun := true }
  | .runUntilStopped => { args with runUntilStopped := true }
  | .config path => { args with configPath := path }
  | .duration _ seconds => { args with durationSeconds := some seconds }
  | .statusInterval _ seconds => { args with statusIntervalSeconds := some seconds }

/-- The words of several options. -/
def line (options : List CliOption) : List String := render (options.map use)

/-- The arguments that they come to. -/
def applyAll (args : CliArgs) (options : List CliOption) : CliArgs := options.foldl apply args

/-- An option is taken, whatever the arguments are by then. -/
theorem takes {option : CliOption} (reads : option.Reads) {args last : CliArgs}
    {uses : List (Use String)} (rest : Takes cliRole (option.apply args) uses last) :
    Takes cliRole args (option.use :: uses) last := by
  cases option with
  | shortHelp => exact .flag rfl rest
  | help => exact .flag rfl rest
  | dryRun => exact .flag rfl rest
  | runUntilStopped => exact .flag rfl rest
  | config path => exact .valued rfl rfl rest
  | duration text seconds =>
      have parsed := parseU32Argument_eq_some_iff.mpr reads
      refine .valued rfl ?_ rest
      simp [cliValue, readSeconds, parsed, apply]
  | statusInterval text seconds =>
      have parsed := parseU32Argument_eq_some_iff.mpr reads
      refine .valued rfl ?_ rest
      simp [cliValue, readSeconds, parsed, apply]

end CliOption

private theorem readSeconds_eq_ok {current value : String} {put : Nat → CliArgs} {next : CliArgs}
    (read : readSeconds current value put = .ok next) :
    ∃ seconds, U32Text value.toList seconds ∧ next = put seconds := by
  rw [readSeconds] at read
  cases parsed : parseU32Argument value.toList with
  | none =>
      rw [parsed] at read
      cases read
  | some seconds =>
      rw [parsed] at read
      cases read
      exact ⟨seconds, parseU32Argument_eq_some_iff.mp parsed, rfl⟩

private theorem readSeconds_eq_error_iff {current value message : String} {put : Nat → CliArgs} :
    readSeconds current value put = .error message ↔
      (∀ seconds, ¬ U32Text value.toList seconds) ∧
        message = "invalid unsigned integer for argument: " ++ current := by
  rw [readSeconds]
  cases parsed : parseU32Argument value.toList with
  | none =>
      have unread (seconds : Nat) : ¬ U32Text value.toList seconds := by
        intro reads
        cases (parseU32Argument_eq_some_iff.mpr reads).symm.trans parsed
      constructor
      · intro failed
        cases failed
        exact ⟨unread, rfl⟩
      · rintro ⟨-, rfl⟩
        rfl
  | some seconds =>
      constructor
      · intro failed
        cases failed
      · rintro ⟨unread, -⟩
        exact absurd (parseU32Argument_eq_some_iff.mp parsed) (unread seconds)

/-- A word that is an option by itself. -/
theorem cliRole_flag {word : String} {apply : CliArgs → CliArgs}
    (known : cliRole word = .flag apply) :
    ∃ option : CliOption, option.use = .flag word ∧ option.Reads ∧
      ∀ args, apply args = option.apply args := by
  rw [cliRole] at known
  split at known
  · rename_i help
    cases known
    rcases help with rfl | rfl
    · exact ⟨.shortHelp, rfl, trivial, fun _ => rfl⟩
    · exact ⟨.help, rfl, trivial, fun _ => rfl⟩
  split at known
  · split at known
    · rename_i dry
      cases known
      exact ⟨.dryRun, congrArg Use.flag dry.symm, trivial, fun _ => rfl⟩
    split at known
    · rename_i endless
      cases known
      exact ⟨.runUntilStopped, congrArg Use.flag endless.symm, trivial, fun _ => rfl⟩
    · cases known
  · cases known

/-- A long word that is no flag: an option with a value, or unknown. -/
theorem cliRole_valued {word missing : String} {apply : CliArgs → String → Except String CliArgs}
    (known : cliRole word = .valued missing apply) :
    isLongOption word = true ∧ word ∉ ["--help", "--dry-run", "--run-until-stopped"] ∧
      missing = "missing value for argument: " ++ word ∧ apply = cliValue word := by
  rw [cliRole] at known
  split at known
  · cases known
  rename_i help
  split at known
  · rename_i long
    split at known
    · cases known
    rename_i dry
    split at known
    · cases known
    rename_i endless
    cases known
    have apart : word ∉ ["--help", "--dry-run", "--run-until-stopped"] := by
      simp [(not_or.mp help).2, dry, endless]
    exact ⟨long, apart, rfl, rfl⟩
  · cases known

private theorem cliRole_long {word : String} (long : isLongOption word = true)
    (apart : word ∉ ["--help", "--dry-run", "--run-until-stopped"]) :
    cliRole word = .valued ("missing value for argument: " ++ word) (cliValue word) := by
  simp only [List.mem_cons, List.not_mem_nil, or_false, not_or] at apart
  obtain ⟨help, dry, endless⟩ := apart
  have short : word ≠ "-h" := by
    rintro rfl
    revert long
    decide
  rw [cliRole, if_neg (not_or.mpr ⟨short, help⟩), if_pos long, if_neg dry, if_neg endless]

private theorem cliRole_refused {word message : String} (known : cliRole word = .refused message) :
    word ≠ "-h" ∧ isLongOption word = false ∧
      message = "unexpected positional argument: " ++ word := by
  rw [cliRole] at known
  split at known
  · cases known
  rename_i help
  split at known
  · split at known
    · cases known
    split at known
    · cases known
    · cases known
  · rename_i short
    cases known
    exact ⟨(not_or.mp help).1, Bool.eq_false_iff.mpr short, rfl⟩

private theorem cliRole_short {word : String} (help : word ≠ "-h")
    (short : isLongOption word = false) :
    cliRole word = .refused ("unexpected positional argument: " ++ word) := by
  have long : word ≠ "--help" := by
    rintro rfl
    revert short
    decide
  rw [cliRole, if_neg (not_or.mpr ⟨help, long⟩), if_neg (ne_true_of_eq_false short)]

/-- The value of an option is taken as one of the options that have one. -/
theorem cliValue_eq_ok {word value : String} {args next : CliArgs}
    (taken : cliValue word args value = .ok next) :
    ∃ option : CliOption, option.use = .valued word value ∧ option.Reads ∧
      next = option.apply args := by
  rw [cliValue] at taken
  split at taken
  · rename_i config
    cases taken
    exact ⟨.config value, congrArg (Use.valued · value) config.symm, trivial, rfl⟩
  split at taken
  · rename_i duration
    obtain ⟨seconds, reads, rfl⟩ := readSeconds_eq_ok taken
    exact ⟨.duration value seconds, congrArg (Use.valued · value) duration.symm, reads, rfl⟩
  split at taken
  · rename_i status
    obtain ⟨seconds, reads, rfl⟩ := readSeconds_eq_ok taken
    exact ⟨.statusInterval value seconds, congrArg (Use.valued · value) status.symm, reads, rfl⟩
  · cases taken

private theorem takes_cliRole_iff {args last : CliArgs} {uses : List (Use String)} :
    Takes cliRole args uses last ↔ ∃ options : List CliOption, (∀ option ∈ options, option.Reads) ∧
      uses = options.map CliOption.use ∧ last = CliOption.applyAll args options := by
  constructor
  · intro takes
    induction takes with
    | done => exact ⟨[], List.forall_mem_nil _, rfl, rfl⟩
    | flag known _ ih =>
        obtain ⟨options, reads, rfl, rfl⟩ := ih
        obtain ⟨option, use, read, applied⟩ := cliRole_flag known
        refine ⟨option :: options, List.forall_mem_cons.mpr ⟨read, reads⟩, ?_, ?_⟩
        · rw [List.map_cons, use]
        · rw [applied]
          rfl
    | valued known valid _ ih =>
        obtain ⟨options, reads, rfl, rfl⟩ := ih
        obtain ⟨-, -, -, rfl⟩ := cliRole_valued known
        obtain ⟨option, use, read, rfl⟩ := cliValue_eq_ok valid
        refine ⟨option :: options, List.forall_mem_cons.mpr ⟨read, reads⟩, ?_, rfl⟩
        rw [List.map_cons, use]
  · rintro ⟨options, reads, rfl, rfl⟩
    induction options generalizing args with
    | nil => exact .done
    | cons option options ih =>
        obtain ⟨read, reads⟩ := List.forall_mem_cons.mp reads
        exact CliOption.takes read (ih reads)

/-- What stops the reading of a command line, with the message. -/
inductive CliFault : List String → String → Prop where
  | positional {word : String} {words : List String} :
      word ≠ "-h" → isLongOption word = false →
      CliFault (word :: words) ("unexpected positional argument: " ++ word)
  | missing {word : String} :
      isLongOption word = true → word ∉ ["--help", "--dry-run", "--run-until-stopped"] →
      CliFault [word] ("missing value for argument: " ++ word)
  | unknown {word value : String} {words : List String} :
      isLongOption word = true → word ∉ ["--help", "--dry-run", "--run-until-stopped"] →
      word ∉ ["--config", "--duration", "--status-interval"] →
      CliFault (word :: value :: words) ("unknown argument: " ++ word)
  | number {word value : String} {words : List String} :
      word ∈ ["--duration", "--status-interval"] → (∀ seconds, ¬ U32Text value.toList seconds) →
      CliFault (word :: value :: words) ("invalid unsigned integer for argument: " ++ word)

private theorem cliValue_eq_error {word value message : String} {args : CliArgs}
    (failed : cliValue word args value = .error message) :
    (word ∉ ["--config", "--duration", "--status-interval"] ∧
        message = "unknown argument: " ++ word) ∨
      (word ∈ ["--duration", "--status-interval"] ∧ (∀ seconds, ¬ U32Text value.toList seconds) ∧
        message = "invalid unsigned integer for argument: " ++ word) := by
  rw [cliValue] at failed
  split at failed
  · cases failed
  rename_i config
  split at failed
  · rename_i duration
    obtain ⟨unread, rfl⟩ := readSeconds_eq_error_iff.mp failed
    exact .inr ⟨by simp [duration], unread, rfl⟩
  rename_i duration
  split at failed
  · rename_i status
    obtain ⟨unread, rfl⟩ := readSeconds_eq_error_iff.mp failed
    exact .inr ⟨by simp [status], unread, rfl⟩
  · rename_i status
    cases failed
    exact .inl ⟨by simp [config, duration, status], rfl⟩

private theorem stops_cliRole_iff {args : CliArgs} {words : List String} {message : String} :
    Stops cliRole args words message ↔ CliFault words message := by
  constructor
  · intro stops
    cases stops with
    | refused known =>
        obtain ⟨help, short, rfl⟩ := cliRole_refused known
        exact .positional help short
    | missing known =>
        obtain ⟨long, apart, rfl, -⟩ := cliRole_valued known
        exact .missing long apart
    | invalid known invalid =>
        obtain ⟨long, apart, -, rfl⟩ := cliRole_valued known
        rcases cliValue_eq_error invalid with ⟨other, rfl⟩ | ⟨numeric, unread, rfl⟩
        · exact .unknown long apart other
        · exact .number numeric unread
  · intro fault
    cases fault with
    | positional help short => exact .refused (cliRole_short help short)
    | missing long apart => exact .missing (cliRole_long long apart)
    | unknown long apart other =>
        simp only [List.mem_cons, List.not_mem_nil, or_false, not_or] at other
        refine .invalid (cliRole_long long apart) ?_
        rw [cliValue, if_neg other.1, if_neg other.2.1, if_neg other.2.2]
    | number numeric unread =>
        simp only [List.mem_cons, List.not_mem_nil, or_false] at numeric
        have invalid {current : String} {put : Nat → CliArgs} :=
          (@readSeconds_eq_error_iff current _ _ put).mpr ⟨unread, rfl⟩
        rcases numeric with rfl | rfl
        · exact .invalid (cliRole_long rfl (by decide)) invalid
        · exact .invalid (cliRole_long rfl (by decide)) invalid

theorem parseCliArgs_line {options : List CliOption} (reads : ∀ option ∈ options, option.Reads) :
    parseCliArgs (CliOption.line options) = CliOption.applyAll {} options := by
  have takes : Takes cliRole {} (options.map CliOption.use) (CliOption.applyAll {} options) :=
    takes_cliRole_iff.mpr ⟨options, reads, rfl, rfl⟩
  rw [parseCliArgs, parseCliLoop_eq, CliOption.line,
    CommandLine.read_eq_none_iff.mpr ⟨_, rfl, takes⟩]
  rfl

theorem parseCliArgs_fault {options : List CliOption} (reads : ∀ option ∈ options, option.Reads)
    {rest : List String} {message : String} (fault : CliFault rest message) :
    parseCliArgs (CliOption.line options ++ rest) =
      (CliOption.applyAll {} options).fail message := by
  have takes : Takes cliRole {} (options.map CliOption.use) (CliOption.applyAll {} options) :=
    takes_cliRole_iff.mpr ⟨options, reads, rfl, rfl⟩
  rw [parseCliArgs, parseCliLoop_eq, CliOption.line,
    CommandLine.read_eq_some_iff.mpr ⟨_, rest, rfl, takes, stops_cliRole_iff.mpr fault⟩]
  rfl

/-- Any words are options up to their end, or up to a fault. -/
theorem exists_cliOptions (words : List String) : ∃ options : List CliOption,
    (∀ option ∈ options, option.Reads) ∧ (words = CliOption.line options ∨
      ∃ rest message, words = CliOption.line options ++ rest ∧ CliFault rest message) := by
  obtain ⟨uses, rest, last, rfl, takes, ends⟩ := CommandLine.exists_takes cliRole {} words
  obtain ⟨options, reads, rfl, rfl⟩ := takes_cliRole_iff.mp takes
  refine ⟨options, reads, ?_⟩
  rcases ends with rfl | ⟨message, stops⟩
  · exact .inl (List.append_nil _)
  · exact .inr ⟨rest, message, rfl, stops_cliRole_iff.mp stops⟩

/-- The parser accepts the command lines that consist of options, and then every option has
done its part in turn. Otherwise the first words that are none decide the message, and what
stands behind them is not looked at. -/
theorem parse_cli_args_iff (words : List String) (args : CliArgs) :
    parseCliArgs words = args ↔ ∃ options : List CliOption,
      (∀ option ∈ options, option.Reads) ∧
        ((words = CliOption.line options ∧ args = CliOption.applyAll {} options) ∨
          ∃ rest message, words = CliOption.line options ++ rest ∧ CliFault rest message ∧
            args = (CliOption.applyAll {} options).fail message) := by
  constructor
  · rintro rfl
    obtain ⟨options, reads, rfl | ⟨rest, message, rfl, fault⟩⟩ := exists_cliOptions words
    · exact ⟨options, reads, .inl ⟨rfl, parseCliArgs_line reads⟩⟩
    · exact ⟨options, reads, .inr ⟨rest, message, rfl, fault, parseCliArgs_fault reads fault⟩⟩
  · rintro ⟨options, reads, ⟨rfl, rfl⟩ | ⟨rest, message, rfl, fault, rfl⟩⟩
    · exact parseCliArgs_line reads
    · exact parseCliArgs_fault reads fault

end RxTech
