import RxTech.App.CliArgs
import RxTech.App.RunArtifacts

/-!
# Starting the receiver

`build_effective_config`, and `run_app` up to the backend: which command lines start a run, and
with which configuration.
-/

set_option autoImplicit false

namespace RxTech

open RunArtifacts (IsTimestamp)

/-! ## What the options come to -/

namespace CliOption

def configPath? : CliOption → Option String
  | .config path => some path
  | _ => none

def durationSeconds? : CliOption → Option Nat
  | .duration _ seconds => some seconds
  | _ => none

def statusIntervalSeconds? : CliOption → Option Nat
  | .statusInterval _ seconds => some seconds
  | _ => none

/-- The value of the last option of its kind. -/
def last {α : Type} (value? : CliOption → Option α) (options : List CliOption) : Option α :=
  (options.filterMap value?).getLast?

theorem last_concat {α : Type} (value? : CliOption → Option α) (options : List CliOption)
    (option : CliOption) :
    last value? (options ++ [option]) = (value? option).or (last value? options) := by
  rw [last, List.filterMap_append]
  cases found : value? option with
  | none => simp [found, last]
  | some value => simp [found]

private theorem applyAll_concat (args : CliArgs) (options : List CliOption) (option : CliOption) :
    applyAll args (options ++ [option]) = option.apply (applyAll args options) :=
  List.foldl_append

/-- The last option of a kind decides; a flag is set by any of its options. -/
theorem applyAll_eq (options : List CliOption) : applyAll {} options =
    { configPath := (last configPath? options).getD ""
      dryRun := decide (.dryRun ∈ options)
      help := decide (.shortHelp ∈ options ∨ .help ∈ options)
      runUntilStopped := decide (.runUntilStopped ∈ options)
      durationSeconds := last durationSeconds? options
      statusIntervalSeconds := last statusIntervalSeconds? options } := by
  induction options using List.reverseRecOn with
  | nil => rfl
  | append_singleton options option ih =>
      rw [applyAll_concat, ih]
      cases option with
      | shortHelp =>
          simp [apply, last_concat, configPath?, durationSeconds?, statusIntervalSeconds?]
      | help =>
          simp [apply, last_concat, configPath?, durationSeconds?, statusIntervalSeconds?]
      | dryRun =>
          simp [apply, last_concat, configPath?, durationSeconds?, statusIntervalSeconds?]
      | runUntilStopped =>
          simp [apply, last_concat, configPath?, durationSeconds?, statusIntervalSeconds?]
      | config path =>
          simp [apply, last_concat, configPath?, durationSeconds?, statusIntervalSeconds?]
      | duration text seconds =>
          simp [apply, last_concat, configPath?, durationSeconds?, statusIntervalSeconds?]
      | statusInterval text seconds =>
          simp [apply, last_concat, configPath?, durationSeconds?, statusIntervalSeconds?]

end CliOption

/-! ## Starting -/

/-- `build_effective_config`; `files` tells what a file holds. -/
def buildEffectiveConfig (backendName : String) (args : CliArgs) (files : String → Option String) :
    Except ConfigException RunConfig :=
  let effective :=
    if args.configPath ≠ "" then loadConfigFile args.configPath (files args.configPath)
    else .ok loadDefaultConfig
  effective.map fun effective =>
    let effective := { effective with backendName }
    let effective :=
      if args.runUntilStopped then { effective with runUntilStopped := true } else effective
    let effective :=
      match args.durationSeconds with
      | some seconds => { effective with durationSeconds := seconds }
      | none => effective
    let effective :=
      match args.statusIntervalSeconds with
      | some seconds => { effective with statusIntervalSeconds := seconds }
      | none => effective
    { toFullRxConfig := effective }

/-- How far `run_app` gets. -/
inductive AppOutcome where
  | badArguments (message : String)
  | help
  | missingConfig
  | failed (exception : ConfigException)
  | invalidConfig (message : String)
  | dryRun (config : RunConfig)
  | started (config : RunConfig)

/-- `run_app` up to `make_backend`. -/
def startApp (backendName : String) (words : List String) (files : String → Option String)
    (timestamp : String) : AppOutcome :=
  let args := parseCliArgs words
  if args.valid = false then .badArguments args.errorMessage
  else if args.help then .help
  else if args.configPath = "" ∧ args.dryRun = false then .missingConfig
  else
    match buildEffectiveConfig backendName args files with
    | .error exception => .failed exception
    | .ok config =>
        let config := prepareRunArtifactPaths timestamp config
        let validationError := validateConfig config.toFullRxConfig
        if validationError ≠ "" then .invalidConfig validationError
        else if args.dryRun then .dryRun config
        else .started config

/-- The options over the file, and the file over the defaults. -/
def effectiveConfig (backendName : String) (options : List CliOption) (base : FullRxConfig) :
    FullRxConfig :=
  { base with
    backendName
    runUntilStopped := decide (.runUntilStopped ∈ options) || base.runUntilStopped
    durationSeconds :=
      (CliOption.last CliOption.durationSeconds? options).getD base.durationSeconds
    statusIntervalSeconds :=
      (CliOption.last CliOption.statusIntervalSeconds? options).getD base.statusIntervalSeconds }

private theorem buildEffectiveConfig_eq (backendName : String) (options : List CliOption)
    (files : String → Option String) :
    buildEffectiveConfig backendName (CliOption.applyAll {} options) files =
      let path := (CliOption.last CliOption.configPath? options).getD ""
      (loadConfigFile path (files path)).map fun base =>
        { toFullRxConfig := effectiveConfig backendName options base } := by
  rw [buildEffectiveConfig, CliOption.applyAll_eq]
  dsimp only
  generalize (CliOption.last CliOption.configPath? options).getD "" = path
  have loaded : (if path ≠ "" then loadConfigFile path (files path) else .ok loadDefaultConfig) =
      loadConfigFile path (files path) := by
    by_cases unset : path = ""
    · rw [if_neg (Classical.not_not.mpr unset)]
      unfold loadConfigFile
      rw [if_pos unset]
    · rw [if_pos unset]
  rw [loaded]
  congr 1
  funext base
  rw [effectiveConfig]
  cases CliOption.last CliOption.durationSeconds? options with
  | none =>
      cases CliOption.last CliOption.statusIntervalSeconds? options with
      | none => by_cases endless : CliOption.runUntilStopped ∈ options <;> simp [endless]
      | some status => by_cases endless : CliOption.runUntilStopped ∈ options <;> simp [endless]
  | some duration =>
      cases CliOption.last CliOption.statusIntervalSeconds? options with
      | none => by_cases endless : CliOption.runUntilStopped ∈ options <;> simp [endless]
      | some status => by_cases endless : CliOption.runUntilStopped ∈ options <;> simp [endless]

/-- Only what is not overridden by an option is validated. -/
theorem validateConfig_effectiveConfig (backendName : String) (options : List CliOption)
    (base : FullRxConfig) :
    validateConfig (effectiveConfig backendName options base) =
      validateConfig { base with backendName } := rfl

section Outcomes

variable {options : List CliOption} (reads : ∀ option ∈ options, option.Reads)
  (backendName : String) (files : String → Option String) (timestamp : String)
include reads

private theorem startApp_fault {rest : List String} {message : String}
    (fault : CliFault rest message) :
    startApp backendName (CliOption.line options ++ rest) files timestamp =
      .badArguments message := by
  rw [startApp, parseCliArgs_fault reads fault]
  rfl

/-- The outcomes for a command line of options. -/
theorem startApp_line :
    startApp backendName (CliOption.line options) files timestamp =
      let path := (CliOption.last CliOption.configPath? options).getD ""
      if .shortHelp ∈ options ∨ .help ∈ options then .help
      else if path = "" ∧ .dryRun ∉ options then .missingConfig
      else
        match loadConfigFile path (files path) with
        | .error exception => .failed exception
        | .ok base =>
            let message := validateConfig { base with backendName }
            let config := prepareRunArtifactPaths timestamp
              { toFullRxConfig := effectiveConfig backendName options base }
            if message ≠ "" then .invalidConfig message
            else if .dryRun ∈ options then .dryRun config
            else .started config := by
  rw [startApp, parseCliArgs_line reads, buildEffectiveConfig_eq]
  have fields := CliOption.applyAll_eq options
  have valid : (CliOption.applyAll {} options).valid = true := by rw [fields]
  have help : (CliOption.applyAll {} options).help =
      decide (.shortHelp ∈ options ∨ .help ∈ options) := by rw [fields]
  have dry : (CliOption.applyAll {} options).dryRun = decide (.dryRun ∈ options) := by rw [fields]
  have path : (CliOption.applyAll {} options).configPath =
      (CliOption.last CliOption.configPath? options).getD "" := by rw [fields]
  simp only [valid, help, dry, path, decide_eq_true_eq, decide_eq_false_iff_not,
    Bool.true_eq_false, if_false]
  cases loaded : loadConfigFile ((CliOption.last CliOption.configPath? options).getD "")
      (files ((CliOption.last CliOption.configPath? options).getD "")) with
  | error exception => rfl
  | ok base =>
      simp only [Except.map, RunArtifacts.validateConfig_prepare, validateConfig_effectiveConfig]

end Outcomes

/-- The receiver starts, or shows what it would start with, exactly if its command line consists
of options without help, the file of the last `--config` loads and the file's configuration is
valid for the backend. The other options stand over the file and are never validated. -/
theorem run_app_starts_iff (backendName : String) (words : List String)
    (files : String → Option String) (timestamp : String) (dry : Bool) (config : RunConfig) :
    startApp backendName words files timestamp =
        (if dry then .dryRun config else .started config) ↔
      ∃ options : List CliOption, ∃ base, (∀ option ∈ options, option.Reads) ∧
        words = CliOption.line options ∧ .shortHelp ∉ options ∧ .help ∉ options ∧
        (dry = true ↔ .dryRun ∈ options) ∧
        let path := (CliOption.last CliOption.configPath? options).getD ""
        (path = "" → dry = true) ∧ loadConfigFile path (files path) = .ok base ∧
        validateConfig { base with backendName } = "" ∧
        config = prepareRunArtifactPaths timestamp
          { toFullRxConfig := effectiveConfig backendName options base } := by
  constructor
  · intro started
    obtain ⟨options, reads, rfl | ⟨rest, message, rfl, fault⟩⟩ := exists_cliOptions words
    · rw [startApp_line reads] at started
      dsimp only at started
      split at started
      · cases dry <;> cases started
      rename_i helpless
      split at started
      · cases dry <;> cases started
      rename_i given
      split at started
      · cases dry <;> cases started
      rename_i base loaded
      split at started
      · cases dry <;> cases started
      rename_i accepted
      obtain ⟨short, long⟩ := not_or.mp helpless
      have valid := Classical.not_not.mp accepted
      split at started
      · rename_i dryRun
        cases dry with
        | false => cases started
        | true =>
            cases started
            exact ⟨options, base, reads, rfl, short, long, iff_of_true rfl dryRun,
              fun _ => rfl, loaded, valid, rfl⟩
      · rename_i wet
        cases dry with
        | true => cases started
        | false =>
            cases started
            refine ⟨options, base, reads, rfl, short, long,
              iff_of_false Bool.false_ne_true wet, ?_, loaded, valid, rfl⟩
            exact fun none => absurd ⟨none, wet⟩ given
    · rw [startApp_fault reads backendName files timestamp fault] at started
      cases dry <;> cases started
  · rintro ⟨options, base, reads, rfl, short, long, dryIff, given, loaded, valid, rfl⟩
    rw [startApp_line reads]
    dsimp only
    have present : ¬ ((CliOption.last CliOption.configPath? options).getD "" = "" ∧
        .dryRun ∉ options) := fun missing => missing.2 (dryIff.mp (given missing.1))
    rw [if_neg (not_or.mpr ⟨short, long⟩), if_neg present, loaded]
    dsimp only
    rw [if_neg (Classical.not_not.mpr valid)]
    cases dry with
    | true => rw [if_pos (dryIff.mp rfl), if_pos rfl]
    | false =>
        rw [if_neg fun dryRun => Bool.false_ne_true (dryIff.mpr dryRun),
          if_neg Bool.false_ne_true]

end RxTech
