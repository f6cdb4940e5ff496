import RxTech.App.ValidateConfig
import RxTech.Library.PathComponents
import RxTech.Runtime.RecorderSegments

/-!
# The artifacts of a run

`prepare_run_artifact_paths`: the directories of a run get its label, which starts with the time
of its start.
-/

set_option autoImplicit false

namespace RxTech

open PathComponents (components join)

/-- The configuration with the members that `prepare_run_artifact_paths` keeps its results in. -/
structure RunConfig extends FullRxConfig where
  runLabel : String := ""
  runArtifactsPrepared : Bool := false
  deriving DecidableEq, Repr

namespace RunArtifacts

/-! ## Paths -/

/-- The separators at the end are dropped first. -/
def normalized (path : String) : List Char := path.toList.rdropWhile isPathSeparator

def pathFilename (path : String) : String :=
  String.ofList ((normalized path).rtakeWhile fun char => !isPathSeparator char)

/-- `normalized.substr(0U, pos)` with the position of the last separator. -/
def pathParent (path : String) : String :=
  String.ofList ((normalized path).rdropWhile fun char => !isPathSeparator char).dropLast

/-! ## The label of a run -/

/-- The characters that a label keeps. -/
def keeps (char : Char) : Bool :=
  ('a' ≤ char && char ≤ 'z') || ('A' ≤ char && char ≤ 'Z') || ('0' ≤ char && char ≤ '9') ||
    char = '_' || char = '-'

/-- Every byte of a character that is not kept becomes an underscore. -/
def sanitizeRunLabel (label : String) : String :=
  let label := (label.toList.flatMap fun char =>
    if keeps char then [char] else List.replicate char.utf8Size '_').dropWhile
      fun char => char = '_' || char = '-'
  if label = [] then "run" else String.ofList label

example : sanitizeRunLabel "数a据" = "a___" := by decide +kernel

def chooseRunSuffix (config : FullRxConfig) : String :=
  let suffix := sanitizeRunLabel (pathFilename (effectiveCaptureOutputDir config))
  if suffix = "run" ∧ config.backendName ≠ "" then sanitizeRunLabel config.backendName else suffix

/-! ## The artifacts -/

def makeCaptureRunDir (captureDir runLabel : String) : String :=
  joinPath (pathParent captureDir) runLabel

def makeRawRecordRunDir (rawRecordDir runLabel : String) : String := joinPath rawRecordDir runLabel

def makeLogRunPath (logFilePath runLabel : String) : String :=
  joinPath (joinPath (pathParent logFilePath) runLabel) (pathFilename logFilePath)

end RunArtifacts

open RunArtifacts

/-- `prepare_run_artifact_paths`; `timestamp` is the text that `make_run_timestamp` makes of the
local time. -/
def prepareRunArtifactPaths (timestamp : String) (config : RunConfig) : RunConfig :=
  if config.runArtifactsPrepared then config
  else
    let runSuffix := chooseRunSuffix config.toFullRxConfig
    let config : RunConfig := { config with runLabel := timestamp ++ "_" ++ runSuffix }
    let captureDir := effectiveCaptureOutputDir config.toFullRxConfig
    let config : RunConfig :=
      if captureDir = "" then config
      else
        let runCaptureDir := makeCaptureRunDir captureDir config.runLabel
        { config with outputDir := runCaptureDir, captureOutputDir := runCaptureDir }
    let config : RunConfig :=
      if config.rawRecordEnabled = true ∧ config.rawRecordOutputDir ≠ "" then
        { config with
          rawRecordOutputDir := makeRawRecordRunDir config.rawRecordOutputDir config.runLabel }
      else config
    let config : RunConfig :=
      if config.logOutput = "file" ∧ config.logFilePath ≠ "" then
        { config with logFilePath := makeLogRunPath config.logFilePath config.runLabel }
      else config
    { config with runArtifactsPrepared := true }

/-! ## Where the artifacts lie -/

namespace RunArtifacts

/-- The names on a path, the outermost first. -/
def parts (path : String) : List (List Char) := components isPathSeparator path.toList

/-- Whether a path starts at the root. -/
def rooted (path : String) : Bool := PathComponents.rooted isPathSeparator path.toList

/-- A path to the root or to a name right below it. -/
def AtRoot (path : String) : Prop := PathComponents.AtRoot isPathSeparator path.toList

private theorem joinPath_toList (base name : String) :
    (joinPath base name).toList = join isPathSeparator '/' base.toList name.toList := by
  rw [joinPath, join]
  cases base.toList.getLast? with
  | none => rfl
  | some last =>
      dsimp only
      cases isPathSeparator last with
      | true => exact String.toList_append
      | false => simp

private theorem parts_joinPath (base name : String) :
    parts (joinPath base name) = parts base ++ parts name := by
  rw [parts, joinPath_toList]
  exact PathComponents.components_join rfl _ _

private theorem joinPath_eq_empty {base name : String} (empty : joinPath base name = "") :
    base = "" ∧ name = "" := by
  have joined := joinPath_toList base name
  rw [empty, join] at joined
  cases last : base.toList.getLast? with
  | none =>
      rw [last] at joined
      exact ⟨String.toList_injective (List.getLast?_eq_none_iff.mp last),
        String.toList_injective joined.symm⟩
  | some char =>
      rw [last] at joined
      dsimp only at joined
      have nonempty : base.toList ≠ [] := by
        intro none
        rw [none] at last
        cases last
      split at joined
      · exact absurd (List.append_eq_nil_iff.mp joined.symm).1 nonempty
      · exact absurd (List.append_eq_nil_iff.mp joined.symm).1 nonempty

/-- A path has no names, or is split into its parent and the last name. -/
theorem parts_split (path : String) :
    (parts path = [] ∧ pathParent path = "" ∧ pathFilename path = "") ∨
      parts path = parts (pathParent path) ++ [(pathFilename path).toList] ∧
        parts (pathFilename path) = [(pathFilename path).toList] := by
  have same : components isPathSeparator (normalized path) = parts path :=
    PathComponents.components_rdropWhile path.toList
  by_cases empty : normalized path = []
  · left
    rw [empty] at same
    refine ⟨same.symm, ?_, ?_⟩
    · rw [pathParent, empty]
      rfl
    · rw [pathFilename, empty]
      rfl
  · right
    have ends : isPathSeparator ((normalized path).getLast empty) = false :=
      Bool.eq_false_iff.mpr (List.rdropWhile_last_not isPathSeparator path.toList empty)
    have split := PathComponents.components_split_last empty ends
    have plain := PathComponents.lastPart_plain isPathSeparator (normalized path)
    have some := PathComponents.lastPart_ne_nil empty ends
    rw [parts, parts, parts, pathParent, pathFilename, String.toList_ofList, String.toList_ofList]
    exact ⟨same.symm.trans split, PathComponents.components_part plain some⟩

private theorem parts_pathParent (path : String) :
    parts (pathParent path) = (parts path).dropLast := by
  rcases parts_split path with ⟨none, parent, -⟩ | ⟨split, -⟩
  · rw [none, parent]
    rfl
  · rw [split, List.dropLast_concat]

private theorem parts_pathFilename (path : String) :
    parts (pathFilename path) = (parts path).getLast?.toList := by
  rcases parts_split path with ⟨none, -, filename⟩ | ⟨split, single⟩
  · rw [none, filename]
    rfl
  · rw [split, List.getLast?_concat, single]
    rfl

/-- A label: some kept characters, the first of them a letter or a digit. -/
structure IsLabel (label : List Char) : Prop where
  nonempty : label ≠ []
  kept : ∀ char ∈ label, keeps char = true
  first : ∀ char ∈ label.head?, char ≠ '_' ∧ char ≠ '-'

private theorem sanitizeRunLabel_isLabel (label : String) :
    IsLabel (sanitizeRunLabel label).toList := by
  rw [sanitizeRunLabel]
  generalize mapped : (label.toList.flatMap fun char =>
    if keeps char then [char] else List.replicate char.utf8Size '_') = text
  have kept : ∀ char ∈ text, keeps char = true := by
    intro char member
    rw [← mapped] at member
    obtain ⟨source, -, inside⟩ := List.mem_flatMap.mp member
    split at inside
    · rw [List.mem_singleton.mp inside]
      assumption
    · rw [List.eq_of_mem_replicate inside]
      rfl
  split
  · exact ⟨by simp, by simp [keeps], by simp⟩
  · rename_i nonempty
    rw [String.toList_ofList]
    refine ⟨nonempty, fun char member => kept char ((List.dropWhile_sublist _).mem member), ?_⟩
    intro char first
    have stopped := List.head?_dropWhile_not (fun char => char = '_' || char = '-') text
    rw [Option.mem_def.mp first] at stopped
    simpa using stopped

private theorem chooseRunSuffix_isLabel (config : FullRxConfig) :
    IsLabel (chooseRunSuffix config).toList := by
  rw [chooseRunSuffix]
  split
  · exact sanitizeRunLabel_isLabel _
  · exact sanitizeRunLabel_isLabel _

private theorem not_isPathSeparator_of_keeps {char : Char} (kept : keeps char = true) :
    isPathSeparator char = false := by
  by_contra separator
  rw [Bool.not_eq_false, isPathSeparator, Bool.or_eq_true, decide_eq_true_eq,
    decide_eq_true_eq] at separator
  rcases separator with rfl | rfl
  · revert kept
    decide
  · revert kept
    decide

/-- What `strftime` makes of `%Y%m%d_%H%M%S`. -/
structure IsTimestamp (timestamp : String) : Prop where
  length : timestamp.toList.length = 15
  kept : ∀ char ∈ timestamp.toList, keeps char = true

/-- The label of a run is a single name. -/
theorem parts_runLabel {timestamp : String} (stamp : IsTimestamp timestamp)
    (config : FullRxConfig) :
    parts (timestamp ++ "_" ++ chooseRunSuffix config) =
      [(timestamp ++ "_" ++ chooseRunSuffix config).toList] := by
  have suffix := chooseRunSuffix_isLabel config
  apply PathComponents.components_part
  · intro char member
    rw [String.toList_append, String.toList_append, List.mem_append, List.mem_append] at member
    rcases member with (inStamp | between) | inSuffix
    · exact not_isPathSeparator_of_keeps (stamp.kept char inStamp)
    · cases List.mem_singleton.mp between
      rfl
    · exact not_isPathSeparator_of_keeps (suffix.kept char inSuffix)
  · rw [String.toList_append]
    exact List.append_ne_nil_of_right_ne_nil _ suffix.nonempty

/-- Every artifact of a run lies in a directory with the label of the run; apart from that the
configuration stays as it is. A capture directory or a log file right below the root loses the
root: its run writes below the working directory. -/
structure Placed (timestamp : String) (config next : RunConfig) : Prop where
  label : ∃ suffix, next.runLabel = timestamp ++ "_" ++ suffix ∧ IsLabel suffix.toList
  capture : effectiveCaptureOutputDir config.toFullRxConfig ≠ "" →
    next.outputDir = next.captureOutputDir ∧
      (rooted next.captureOutputDir = true ↔
        rooted (effectiveCaptureOutputDir config.toFullRxConfig) = true ∧
          ¬ AtRoot (effectiveCaptureOutputDir config.toFullRxConfig)) ∧
      parts next.captureOutputDir =
        (parts (effectiveCaptureOutputDir config.toFullRxConfig)).dropLast ++
          [next.runLabel.toList]
  noCapture : effectiveCaptureOutputDir config.toFullRxConfig = "" →
    next.outputDir = "" ∧ next.captureOutputDir = ""
  rawRecord : config.rawRecordEnabled = true → config.rawRecordOutputDir ≠ "" →
    rooted next.rawRecordOutputDir = rooted config.rawRecordOutputDir ∧
      parts next.rawRecordOutputDir = parts config.rawRecordOutputDir ++ [next.runLabel.toList]
  noRawRecord : config.rawRecordEnabled = false ∨ config.rawRecordOutputDir = "" →
    next.rawRecordOutputDir = config.rawRecordOutputDir
  log : config.logOutput = "file" → config.logFilePath ≠ "" →
    (rooted next.logFilePath = true ↔
        rooted config.logFilePath = true ∧ ¬ AtRoot config.logFilePath) ∧
      parts next.logFilePath = (parts config.logFilePath).dropLast ++
        next.runLabel.toList :: (parts config.logFilePath).getLast?.toList
  noLog : config.logOutput ≠ "file" ∨ config.logFilePath = "" →
    next.logFilePath = config.logFilePath
  others : next = { config with
    runLabel := next.runLabel
    outputDir := next.outputDir
    captureOutputDir := next.captureOutputDir
    rawRecordOutputDir := next.rawRecordOutputDir
    logFilePath := next.logFilePath
    runArtifactsPrepared := true }

private theorem parts_makeCaptureRunDir {timestamp : String} (stamp : IsTimestamp timestamp)
    (config : FullRxConfig) (captureDir : String) :
    parts (makeCaptureRunDir captureDir (timestamp ++ "_" ++ chooseRunSuffix config)) =
      (parts captureDir).dropLast ++ [(timestamp ++ "_" ++ chooseRunSuffix config).toList] := by
  rw [makeCaptureRunDir, parts_joinPath, parts_pathParent, parts_runLabel stamp]

private theorem parts_makeRawRecordRunDir {timestamp : String} (stamp : IsTimestamp timestamp)
    (config : FullRxConfig) (rawRecordDir : String) :
    parts (makeRawRecordRunDir rawRecordDir (timestamp ++ "_" ++ chooseRunSuffix config)) =
      parts rawRecordDir ++ [(timestamp ++ "_" ++ chooseRunSuffix config).toList] := by
  rw [makeRawRecordRunDir, parts_joinPath, parts_runLabel stamp]

private theorem parts_makeLogRunPath {timestamp : String} (stamp : IsTimestamp timestamp)
    (config : FullRxConfig) (logFilePath : String) :
    parts (makeLogRunPath logFilePath (timestamp ++ "_" ++ chooseRunSuffix config)) =
      (parts logFilePath).dropLast ++ (timestamp ++ "_" ++ chooseRunSuffix config).toList ::
        (parts logFilePath).getLast?.toList := by
  rw [makeLogRunPath, parts_joinPath, parts_joinPath, parts_pathParent, parts_pathFilename,
    parts_runLabel stamp, List.append_assoc, List.singleton_append]

private theorem runLabel_ne_empty (timestamp : String) (config : FullRxConfig) :
    timestamp ++ "_" ++ chooseRunSuffix config ≠ "" := by
  intro empty
  have text := congrArg String.toList empty
  rw [String.toList_append] at text
  exact (chooseRunSuffix_isLabel config).nonempty (List.append_eq_nil_iff.mp text).2

private theorem rooted_runLabel {timestamp : String} (stamp : IsTimestamp timestamp)
    (config : FullRxConfig) : rooted (timestamp ++ "_" ++ chooseRunSuffix config) = false := by
  have length := stamp.length
  have kept := stamp.kept
  rw [rooted, String.toList_append, String.toList_append, List.append_assoc]
  cases text : timestamp.toList with
  | nil =>
      rw [text] at length
      cases length
  | cons char rest => exact not_isPathSeparator_of_keeps (kept char (by rw [text]; simp))

/-- A label behind the parent of a path starts at the root if the parent does. -/
theorem rooted_joinPath_runLabel {timestamp : String} (stamp : IsTimestamp timestamp)
    (config : FullRxConfig) (path : String) :
    rooted (joinPath (pathParent path) (timestamp ++ "_" ++ chooseRunSuffix config)) = true ↔
      rooted path = true ∧ ¬ AtRoot path := by
  have text : (pathParent path).toList = PathComponents.parent isPathSeparator path.toList :=
    String.toList_ofList
  rw [rooted, joinPath_toList, text, rooted, AtRoot, ← PathComponents.rooted_parent_iff]
  by_cases none : PathComponents.parent isPathSeparator path.toList = []
  · rw [none]
    exact iff_of_false (ne_true_of_eq_false (rooted_runLabel stamp config)) Bool.false_ne_true
  · rw [PathComponents.rooted_join none]

private theorem rooted_makeLogRunPath {timestamp : String} (stamp : IsTimestamp timestamp)
    (config : FullRxConfig) (logFilePath : String) :
    rooted (makeLogRunPath logFilePath (timestamp ++ "_" ++ chooseRunSuffix config)) = true ↔
      rooted logFilePath = true ∧ ¬ AtRoot logFilePath := by
  rw [← rooted_joinPath_runLabel stamp config, makeLogRunPath, rooted, joinPath_toList,
    PathComponents.rooted_join]
  · rfl
  · intro none
    have empty := joinPath_eq_empty (String.toList_injective (none.trans rfl : _ = "".toList))
    exact runLabel_ne_empty timestamp config empty.2

private theorem effectiveCaptureOutputDir_eq_empty {config : FullRxConfig}
    (empty : effectiveCaptureOutputDir config = "") :
    config.outputDir = "" ∧ config.captureOutputDir = "" := by
  rw [effectiveCaptureOutputDir] at empty
  split at empty
  · rename_i unset
    exact ⟨empty, unset⟩
  · rename_i set
    exact absurd empty set

/-- What the preparation comes to, member by member. -/
theorem prepareRunArtifactPaths_eq (timestamp : String) {config : RunConfig}
    (unprepared : config.runArtifactsPrepared = false) :
    prepareRunArtifactPaths timestamp config =
      let captureDir := effectiveCaptureOutputDir config.toFullRxConfig
      let runLabel := timestamp ++ "_" ++ chooseRunSuffix config.toFullRxConfig
      { config with
        runLabel
        outputDir :=
          if captureDir = "" then config.outputDir else makeCaptureRunDir captureDir runLabel
        captureOutputDir :=
          if captureDir = "" then config.captureOutputDir else makeCaptureRunDir captureDir runLabel
        rawRecordOutputDir :=
          if config.rawRecordEnabled = true ∧ config.rawRecordOutputDir ≠ "" then
            makeRawRecordRunDir config.rawRecordOutputDir runLabel
          else config.rawRecordOutputDir
        logFilePath :=
          if config.logOutput = "file" ∧ config.logFilePath ≠ "" then
            makeLogRunPath config.logFilePath runLabel
          else config.logFilePath
        runArtifactsPrepared := true } := by
  rw [prepareRunArtifactPaths, if_neg (ne_true_of_eq_false unprepared)]
  by_cases capture : effectiveCaptureOutputDir config.toFullRxConfig = ""
  · by_cases rawRecord : config.rawRecordEnabled = true ∧ config.rawRecordOutputDir ≠ ""
    · by_cases log : config.logOutput = "file" ∧ config.logFilePath ≠ ""
      · simp only [if_pos capture, if_pos rawRecord, if_pos log]
      · simp only [if_pos capture, if_pos rawRecord, if_neg log]
    · by_cases log : config.logOutput = "file" ∧ config.logFilePath ≠ ""
      · simp only [if_pos capture, if_neg rawRecord, if_pos log]
      · simp only [if_pos capture, if_neg rawRecord, if_neg log]
  · by_cases rawRecord : config.rawRecordEnabled = true ∧ config.rawRecordOutputDir ≠ ""
    · by_cases log : config.logOutput = "file" ∧ config.logFilePath ≠ ""
      · simp only [if_neg capture, if_pos rawRecord, if_pos log]
      · simp only [if_neg capture, if_pos rawRecord, if_neg log]
    · by_cases log : config.logOutput = "file" ∧ config.logFilePath ≠ ""
      · simp only [if_neg capture, if_neg rawRecord, if_pos log]
      · simp only [if_neg capture, if_neg rawRecord, if_neg log]

private theorem prepareRunArtifactPaths_placed {timestamp : String} (stamp : IsTimestamp timestamp)
    {config : RunConfig} (unprepared : config.runArtifactsPrepared = false) :
    Placed timestamp config (prepareRunArtifactPaths timestamp config) := by
  rw [prepareRunArtifactPaths_eq timestamp unprepared]
  constructor
  case label => exact ⟨_, rfl, chooseRunSuffix_isLabel config.toFullRxConfig⟩
  case capture =>
    intro set
    simp only [if_neg set]
    exact ⟨trivial, rooted_joinPath_runLabel stamp config.toFullRxConfig _,
      parts_makeCaptureRunDir stamp config.toFullRxConfig _⟩
  case noCapture =>
    intro unset
    simp only [if_pos unset]
    exact effectiveCaptureOutputDir_eq_empty unset
  case rawRecord =>
    intro enabled set
    simp only [if_pos (And.intro enabled set)]
    refine ⟨?_, parts_makeRawRecordRunDir stamp config.toFullRxConfig _⟩
    rw [makeRawRecordRunDir, rooted, joinPath_toList, PathComponents.rooted_join, rooted]
    exact fun none => set (String.toList_injective none)
  case noRawRecord =>
    intro unused
    refine if_neg ?_
    rintro ⟨enabled, set⟩
    rcases unused with disabled | unset
    · cases enabled.symm.trans disabled
    · exact set unset
  case log =>
    intro file set
    simp only [if_pos (And.intro file set)]
    exact ⟨rooted_makeLogRunPath stamp config.toFullRxConfig _,
      parts_makeLogRunPath stamp config.toFullRxConfig _⟩
  case noLog =>
    intro unused
    refine if_neg ?_
    rintro ⟨file, set⟩
    rcases unused with other | unset
    · exact other file
    · exact set unset
  case others => rfl

/-- Neither path lies in the other. -/
def Apart (first second : String) : Prop :=
  ¬ parts first <+: parts second ∧ ¬ parts second <+: parts first

private theorem apart_of_parts {first second : String} {front : List (List Char)}
    {label label' : List Char}
    {behind behind' : List (List Char)} (firstIs : parts first = front ++ label :: behind)
    (secondIs : parts second = front ++ label' :: behind') (different : label ≠ label') :
    Apart first second := by
  constructor
  · intro inside
    rw [firstIs, secondIs, List.prefix_append_right_inj, List.cons_prefix_cons] at inside
    exact different inside.1
  · intro inside
    rw [firstIs, secondIs, List.prefix_append_right_inj, List.cons_prefix_cons] at inside
    exact different inside.1.symm

private theorem runLabel_injective {first second : String} (stamp : IsTimestamp first)
    (stamp' : IsTimestamp second) {suffix suffix' : String}
    (same : first ++ "_" ++ suffix = second ++ "_" ++ suffix') : first = second := by
  have texts := congrArg String.toList same
  rw [String.toList_append, String.toList_append, String.toList_append, String.toList_append,
    List.append_assoc, List.append_assoc] at texts
  exact String.toList_injective
    (List.append_inj_left texts (stamp.length.trans stamp'.length.symm))

end RunArtifacts

/-- Preparing a run puts every artifact below its label and changes nothing else; preparing it
again changes nothing at all. Runs of one configuration at different times have no directory or
file in common, and none of the one lies inside one of the other. -/
theorem run_artifacts_apart (config : RunConfig) (unprepared : config.runArtifactsPrepared = false)
    (first second : String) (stamp : IsTimestamp first) (stamp' : IsTimestamp second)
    (later : first ≠ second) :
    let run := prepareRunArtifactPaths first config
    let other := prepareRunArtifactPaths second config
    Placed first config run ∧ prepareRunArtifactPaths second run = run ∧
      run.runLabel ≠ other.runLabel ∧
      (effectiveCaptureOutputDir config.toFullRxConfig ≠ "" →
        Apart run.captureOutputDir other.captureOutputDir) ∧
      (config.rawRecordEnabled = true → config.rawRecordOutputDir ≠ "" →
        Apart run.rawRecordOutputDir other.rawRecordOutputDir) ∧
      (config.logOutput = "file" → config.logFilePath ≠ "" →
        Apart run.logFilePath other.logFilePath) := by
  intro run other
  have placed : Placed first config run := prepareRunArtifactPaths_placed stamp unprepared
  have placed' : Placed second config other := prepareRunArtifactPaths_placed stamp' unprepared
  have labels : run.runLabel ≠ other.runLabel := by
    intro same
    obtain ⟨suffix, label, -⟩ := placed.label
    obtain ⟨suffix', label', -⟩ := placed'.label
    rw [label, label'] at same
    exact later (runLabel_injective stamp stamp' same)
  have different : run.runLabel.toList ≠ other.runLabel.toList :=
    fun same => labels (String.toList_injective same)
  have prepared : run.runArtifactsPrepared = true := by
    rw [placed.others]
  refine ⟨placed, if_pos prepared, labels, ?_, ?_, ?_⟩
  · intro set
    exact apart_of_parts (placed.capture set).2.2 (placed'.capture set).2.2 different
  · intro enabled set
    exact apart_of_parts (placed.rawRecord enabled set).2 (placed'.rawRecord enabled set).2
      different
  · intro file set
    exact apart_of_parts (placed.log file set).2 (placed'.log file set).2 different

/-- A configuration with all three artifacts, the log file right below the root. -/
def recordedConfig : RunConfig where
  captureOutputDir := "/data/capture"
  rawRecordEnabled := true
  rawRecordOutputDir := "raw/"
  logOutput := "file"
  logFilePath := "/rx.log"

theorem run_artifacts_apart_seconds :
    let run := prepareRunArtifactPaths "20240101_000000" recordedConfig
    let other := prepareRunArtifactPaths "20240101_000001" recordedConfig
    run.captureOutputDir = "/data/20240101_000000_capture" ∧
      run.rawRecordOutputDir = "raw/20240101_000000_capture" ∧
      run.logFilePath = "20240101_000000_capture/rx.log" ∧
      Apart run.captureOutputDir other.captureOutputDir ∧
      Apart run.rawRecordOutputDir other.rawRecordOutputDir ∧
      Apart run.logFilePath other.logFilePath := by
  intro run other
  obtain ⟨-, -, -, capture, rawRecord, log⟩ := run_artifacts_apart recordedConfig rfl
    "20240101_000000" "20240101_000001" ⟨by decide, by simp [keeps]⟩ ⟨by decide, by simp [keeps]⟩
    (by decide)
  exact ⟨by decide +kernel, by decide +kernel, by decide +kernel, capture (by decide),
    rawRecord rfl (by decide), log rfl (by decide)⟩

/-! ## Preparing and validating -/

namespace RunArtifacts

/-- Only whether the paths are empty is validated. -/
theorem validateConfig_congr (config : FullRxConfig)
    {outputDir captureOutputDir rawRecordOutputDir logFilePath : String}
    (capture : effectiveCaptureOutputDir { config with outputDir, captureOutputDir } = "" ↔
      effectiveCaptureOutputDir config = "")
    (rawRecord : rawRecordOutputDir = "" ↔ config.rawRecordOutputDir = "")
    (log : logFilePath = "" ↔ config.logFilePath = "") :
    validateConfig
        { config with outputDir, captureOutputDir, rawRecordOutputDir, logFilePath } =
      validateConfig config := by
  have captures : effectiveCaptureOutputDir
      { config with outputDir, captureOutputDir, rawRecordOutputDir, logFilePath } = "" ↔
        effectiveCaptureOutputDir config = "" := capture
  simp only [validateConfig, ValidateConfig.checks, ValidateConfig.captureChecks,
    ValidateConfig.rawRecordChecks, ValidateConfig.protocolChecks, captures, rawRecord, log]
  rfl

private theorem effectiveCaptureOutputDir_replaced (config : FullRxConfig) {dir : String}
    (set : dir ≠ "") :
    effectiveCaptureOutputDir { config with
        outputDir := if effectiveCaptureOutputDir config = "" then config.outputDir else dir
        captureOutputDir :=
          if effectiveCaptureOutputDir config = "" then config.captureOutputDir else dir } = "" ↔
      effectiveCaptureOutputDir config = "" := by
  by_cases unset : effectiveCaptureOutputDir config = ""
  · simp only [if_pos unset]
  · simp only [if_neg unset]
    rw [effectiveCaptureOutputDir]
    dsimp only
    rw [if_neg set]
    exact iff_of_false set unset

/-- The preparation does not change what is refused. -/
theorem validateConfig_prepare (timestamp : String) (config : RunConfig) :
    validateConfig (prepareRunArtifactPaths timestamp config).toFullRxConfig =
      validateConfig config.toFullRxConfig := by
  cases prepared : config.runArtifactsPrepared with
  | true => rw [prepareRunArtifactPaths, if_pos prepared]
  | false =>
      rw [prepareRunArtifactPaths_eq timestamp prepared]
      have label := runLabel_ne_empty timestamp config.toFullRxConfig
      apply validateConfig_congr
      case capture =>
        apply effectiveCaptureOutputDir_replaced
        intro empty
        exact label (joinPath_eq_empty empty).2
      case rawRecord =>
        split
        · rename_i used
          exact iff_of_false (fun empty => label (joinPath_eq_empty empty).2) used.2
        · exact Iff.rfl
      case log =>
        split
        · rename_i used
          refine iff_of_false ?_ used.2
          intro empty
          exact label (joinPath_eq_empty (joinPath_eq_empty empty).1).2
        · exact Iff.rfl

end RunArtifacts

end RxTech
