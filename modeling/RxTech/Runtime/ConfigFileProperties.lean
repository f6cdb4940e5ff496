import RxTech.Library.Precedence
import RxTech.Runtime.ConfigFile

/-!
# Precedence of the configuration file

The loader keeps, for every option, the last assignment inside a section, or else the last
one outside, and knows which options were assigned inside a section.
-/

set_option autoImplicit false

namespace RxTech

open ConfigText

/-! ## One assignment -/

/-- The members that an option sets. -/
def ConfigOption.fields : ConfigOption → List ConfigField
  | .backendName => [.backendName]
  | .captureOutputDir => [.outputDir, .captureOutputDir]
  | .captureEnabled => [.captureEnabled]
  | .captureIndexFilename => [.captureIndexFilename]
  | .captureDataFilename => [.captureDataFilename]
  | .rawRecordEnabled => [.rawRecordEnabled]
  | .rawRecordOutputDir => [.rawRecordOutputDir]
  | .rawRecordFilePrefix => [.rawRecordFilePrefix]
  | .rawRecordRingSlots => [.rawRecordRingSlots]
  | .rawRecordWriterBatchSize => [.rawRecordWriterBatchSize]
  | .rawRecordMaxFrameBytes => [.rawRecordMaxFrameBytes]
  | .rawRecordSegmentBytes => [.rawRecordSegmentBytes]
  | .rawRecordMaxTotalBytes => [.rawRecordMaxTotalBytes]
  | .interfaceName => [.interfaceName]
  | .receiverIpv4 => [.receiverIpv4]
  | .allowedSourceIpv4 => [.allowedSourceIpv4]
  | .socketBindIp => [.socketBindIp]
  | .socketBindPort => [.socketBindPort]
  | .socketRcvbufBytes => [.socketRcvbufBytes]
  | .socketNonblocking => [.socketNonblocking]
  | .socketBatchTimeoutMs => [.socketBatchTimeoutMs]
  | .queueId => [.queueId]
  | .maxBurst => [.maxBurst]
  | .durationSeconds => [.durationSeconds]
  | .packetSizeBytes => [.packetSizeBytes]
  | .statusIntervalSeconds => [.statusIntervalSeconds]
  | .allowedDestPort => [.allowedDestPort]
  | .cpuCores => [.cpuCores]
  | .runUntilStopped => [.runUntilStopped]
  | .dpdkPortId => [.dpdkPortId]
  | .dpdkPciAddr => [.dpdkPciAddr]
  | .dpdkSocketMemMb => [.dpdkSocketMemMb]
  | .dpdkMempoolSize => [.dpdkMempoolSize]
  | .dpdkMbufCacheSize => [.dpdkMbufCacheSize]
  | .dpdkRxDesc => [.dpdkRxDesc]
  | .dpdkTxDesc => [.dpdkTxDesc]
  | .logLevel => [.logLevel]
  | .logOutput => [.logOutput]
  | .logFilePath => [.logFilePath]
  | .protocolUdpPacketSize => [.protocolUdpPacketSize]
  | .protocolChannelsPerPrt => [.protocolChannelsPerPrt]
  | .protocolPacketsPerChannel => [.protocolPacketsPerChannel]
  | .protocolExpectedNPrt => [.protocolExpectedNPrt]
  | .protocolCpiTimeoutNs => [.protocolCpiTimeoutNs]
  | .protocolDynamicPrtEnabled => [.protocolDynamicPrtEnabled]
  | .protocolMaxNPrt => [.protocolMaxNPrt]
  | .outputDropPolicy => [.outputDropPolicy]
  | .outputRingCapacity => [.outputRingCapacity]
  | .recycleRingCapacity => [.recycleRingCapacity]

/-- The value that a setter reads from its text. -/
def ConfigSetter.parse (value : List Char) : ConfigSetter → Except ConfigException ConfigValue
  | .text _ => .ok (.text (String.ofList value))
  | .lower _ => .ok (.text (String.ofList (toLower value)))
  | .dropPolicy _ => .ok (.text (normalizedDropPolicy value))
  | .flag _ => .ok (.flag (parseBool value))
  | .uint32 _ => (stoul value).map fun number => .number (u32 number)
  | .uint64 _ => (stoul value).map ConfigValue.number
  | .intList _ => (parseIntList value).map ConfigValue.cores

/-- A setter puts a value of its kind into the configuration. -/
inductive ConfigSetter.Puts (config : FullRxConfig) :
    ConfigSetter → ConfigValue → FullRxConfig → Prop where
  | text (put : FullRxConfig → String → FullRxConfig) (value : String) :
      Puts config (.text put) (.text value) (put config value)
  | lower (put : FullRxConfig → String → FullRxConfig) (value : String) :
      Puts config (.lower put) (.text value) (put config value)
  | dropPolicy (put : FullRxConfig → String → FullRxConfig) (value : String) :
      Puts config (.dropPolicy put) (.text value) (put config value)
  | flag (put : FullRxConfig → Bool → FullRxConfig) (value : Bool) :
      Puts config (.flag put) (.flag value) (put config value)
  | uint32 (put : FullRxConfig → Nat → FullRxConfig) (value : Nat) :
      Puts config (.uint32 put) (.number value) (put config value)
  | uint64 (put : FullRxConfig → Nat → FullRxConfig) (value : Nat) :
      Puts config (.uint64 put) (.number value) (put config value)
  | intList (put : FullRxConfig → List Int → FullRxConfig) (value : List Int) :
      Puts config (.intList put) (.cores value) (put config value)

theorem ConfigSetter.run_puts {setter : ConfigSetter} {config config' : FullRxConfig}
    {value : List Char} (ran : setter.run config value = .ok config') :
    ∃ parsed, setter.parse value = .ok parsed ∧ setter.Puts config parsed config' := by
  cases setter with
  | text put =>
      cases ran
      exact ⟨_, rfl, .text put _⟩
  | lower put =>
      cases ran
      exact ⟨_, rfl, .lower put _⟩
  | dropPolicy put =>
      cases ran
      exact ⟨_, rfl, .dropPolicy put _⟩
  | flag put =>
      cases ran
      exact ⟨_, rfl, .flag put _⟩
  | uint32 put =>
      cases read : stoul value with
      | error exception => simp [run, read, Except.map] at ran
      | ok number =>
          simp only [run, read, Except.map, Except.ok.injEq] at ran
          subst ran
          exact ⟨.number (u32 number), by rw [parse, read]; rfl, .uint32 put _⟩
  | uint64 put =>
      cases read : stoul value with
      | error exception => simp [run, read, Except.map] at ran
      | ok number =>
          simp only [run, read, Except.map, Except.ok.injEq] at ran
          subst ran
          exact ⟨.number number, by rw [parse, read]; rfl, .uint64 put _⟩
  | intList put =>
      cases read : parseIntList value with
      | error exception => simp [run, read, Except.map] at ran
      | ok list =>
          simp only [run, read, Except.map, Except.ok.injEq] at ran
          subst ran
          exact ⟨.cores list, by rw [parse, read]; rfl, .intList put _⟩

/-- Each row of the table sets the fields of its option and no other. -/
theorem ConfigOption.puts_values {option : ConfigOption} {config config' : FullRxConfig}
    {parsed : ConfigValue} (puts : option.setter.Puts config parsed config') :
    config'.values = writeFields option.fields parsed config.values := by
  cases option <;> cases puts <;> rfl

theorem ConfigOption.run_value {option : ConfigOption} {config config' : FullRxConfig}
    {value : List Char} (ran : option.setter.run config value = .ok config') :
    ∃ parsed, option.setter.parse value = .ok parsed ∧
      ∀ field : ConfigField, field.value config' =
        if field ∈ option.fields then parsed else field.value config := by
  obtain ⟨parsed, read, puts⟩ := ConfigSetter.run_puts ran
  exact ⟨parsed, read, ConfigField.value_of_write (ConfigOption.puts_values puts)⟩

/-- The option that a member belongs to. -/
def ConfigField.owner (field : ConfigField) : Option ConfigOption :=
  ConfigOption.all.find? fun option => field ∈ option.fields

theorem ConfigField.owner_of_mem {option : ConfigOption} {field : ConfigField}
    (member : field ∈ option.fields) : field.owner = some option := by
  cases option <;> simp only [ConfigOption.fields, List.mem_cons, List.not_mem_nil, or_false]
    at member
  case captureOutputDir =>
    rcases member with rfl | rfl
    · rfl
    · rfl
  all_goals
    subst member
    rfl

theorem ConfigOption.not_mem_fields {first second : ConfigOption} {field : ConfigField}
    (different : first ≠ second) (member : field ∈ first.fields) : field ∉ second.fields := by
  intro other
  have owner := ConfigField.owner_of_mem member
  rw [ConfigField.owner_of_mem other] at owner
  exact different (Option.some.inj owner).symm

/-! ## The declarative rule -/

/-- The assignment that a line of a section makes if its key is recognised. One inside a
section is strong. -/
def recognisedAssignment (currentSection key value : List Char) :
    Option (PrecedenceAssignment ConfigOption (List Char)) :=
  (configDispatch (toLower (trim (ConfigLoader.effectiveKey currentSection key)))).map
    fun option => ⟨option, currentSection ≠ [], stripQuotes (trim value)⟩

def recognisedAssignments :
    List Char → List (List Char) → List (PrecedenceAssignment ConfigOption (List Char))
  | _, [] => []
  | currentSection, line :: lines =>
      match ConfigLine.ofText line with
      | .ignored => recognisedAssignments currentSection lines
      | .header name => recognisedAssignments name lines
      | .assignment key value =>
          (recognisedAssignment currentSection key value).toList ++
            recognisedAssignments currentSection lines

/-- The value of a member when this text decides its option, or none does. -/
def ConfigOption.valueFrom (option : ConfigOption) (field : ConfigField) :
    Option (List Char) → Except ConfigException ConfigValue
  | none => .ok (field.value loadDefaultConfig)
  | some text => option.setter.parse text

/-! ## The loader as a reader -/

namespace ConfigLoader

abbrev OptionReader := Precedence.Reader ConfigOption (List Char)

structure Refines (loader : ConfigLoader) (reader : OptionReader) : Prop where
  keys : loader.sectionAssignedKeys = reader.strongKeys
  values : ∀ option : ConfigOption, ∀ field ∈ option.fields,
    option.valueFrom field (reader.kept option) = .ok (field.value loader.config)

private theorem refines_default : Refines { config := loadDefaultConfig } {} where
  keys := rfl
  values := fun _ _ _ => rfl

/-- The setter of an option ran, and the reader keeps its text. -/
theorem Refines.written {loader : ConfigLoader} {reader : OptionReader}
    (refines : loader.Refines reader) {option : ConfigOption} {text : List Char}
    {config : FullRxConfig} (ran : option.setter.run loader.config text = .ok config) :
    ∀ other : ConfigOption, ∀ field ∈ other.fields,
      other.valueFrom field (Function.update reader.kept option (some text) other) =
        .ok (field.value config) := by
  obtain ⟨parsed, read, written⟩ := ConfigOption.run_value ran
  intro other field member
  rw [written field]
  by_cases same : other = option
  · subst same
    rw [Function.update_self, if_pos member]
    exact read
  · rw [Function.update_of_ne same, if_neg (ConfigOption.not_mem_fields same member)]
    exact refines.values other field member

theorem Refines.assignConfigValue {loader loader' : ConfigLoader} {reader : OptionReader}
    (refines : loader.Refines reader) {key value : List Char}
    (assigned : loader.assignConfigValue (effectiveKey loader.currentSection key) value
      (loader.currentSection ≠ []) = .ok loader') :
    loader'.currentSection = loader.currentSection ∧
      loader'.Refines ((recognisedAssignment loader.currentSection key value).toList.foldl
        Precedence.Reader.assign reader) := by
  rw [ConfigLoader.assignConfigValue, recognisedAssignment] at *
  cases found : configDispatch (toLower (trim (effectiveKey loader.currentSection key))) with
  | none =>
      simp only [found, Except.ok.injEq] at assigned
      subst assigned
      exact ⟨rfl, refines⟩
  | some option =>
      simp only [found] at assigned
      simp only [Option.map_some, Option.toList_some, List.foldl_cons, List.foldl_nil]
      rw [Precedence.Reader.assign]
      by_cases inside : loader.currentSection = []
      · -- Outside of sections the assignment counts unless its option is in the set.
        simp only [inside, ne_eq, not_true, decide_false, shouldSkipAssignment] at assigned ⊢
        simp only [Bool.false_eq_true, if_false, List.contains_iff_mem, refines.keys] at assigned ⊢
        by_cases taken : option ∈ reader.strongKeys
        · rw [if_pos taken, Except.ok.injEq] at assigned
          rw [if_pos taken, ← assigned]
          exact ⟨rfl, rfl, refines.values⟩
        · rw [if_neg taken] at assigned ⊢
          cases ran : option.setter.run loader.config (stripQuotes (trim value)) with
          | error exception => simp [ran, Except.map] at assigned
          | ok config =>
              simp only [ran, Except.map, Except.ok.injEq] at assigned
              subst assigned
              exact ⟨rfl, rfl, refines.written ran⟩
      · simp only [inside, ne_eq, not_false_eq_true, decide_true, shouldSkipAssignment] at assigned ⊢
        simp only [if_true, Bool.false_eq_true, if_false] at assigned ⊢
        cases ran : option.setter.run loader.config (stripQuotes (trim value)) with
        | error exception => simp [ran, Except.map] at assigned
        | ok config =>
            simp only [ran, Except.map, Except.ok.injEq] at assigned
            subst assigned
            exact ⟨rfl, congrArg (option :: ·) refines.keys, refines.written ran⟩

theorem Refines.readLines {loader loader' : ConfigLoader} {reader : OptionReader}
    (refines : loader.Refines reader) {lines : List (List Char)}
    (read : loader.readLines lines = .ok loader') :
    loader'.Refines ((recognisedAssignments loader.currentSection lines).foldl
      Precedence.Reader.assign reader) := by
  induction lines generalizing loader reader with
  | nil =>
      cases read
      exact refines
  | cons line lines ih =>
      rw [ConfigLoader.readLines, ConfigLoader.readLine] at read
      rw [recognisedAssignments]
      cases reads : ConfigLine.ofText line with
      | ignored =>
          simp only [reads] at read
          exact ih refines read
      | header name =>
          simp only [reads] at read
          have moved : Refines { loader with currentSection := name } reader :=
            ⟨refines.keys, refines.values⟩
          exact ih moved read
      | assignment key value =>
          simp only [reads] at read
          cases assigned : loader.assignConfigValue (effectiveKey loader.currentSection key) value
              (loader.currentSection ≠ []) with
          | error exception => simp only [assigned, reduceCtorEq] at read
          | ok next =>
              simp only [assigned] at read
              obtain ⟨same, tracked⟩ := refines.assignConfigValue assigned
              have rest := ih tracked read
              rw [same, ← List.foldl_append] at rest
              exact rest

end ConfigLoader

/-! ## The loaded configuration -/

private theorem fillDirectories_of_same {config : FullRxConfig}
    (same : config.captureOutputDir = config.outputDir) : fillDirectories config = config := by
  have capture : { config with captureOutputDir := config.outputDir } = config :=
    congrArg (fun dir => { config with captureOutputDir := dir }) same.symm
  have output : { config with outputDir := config.captureOutputDir } = config :=
    congrArg (fun dir => { config with outputDir := dir }) same
  simp only [fillDirectories, capture, output, ite_self]

/-- One option sets both directories, so the final fallback has nothing to do. -/
theorem ConfigLoader.Refines.same_directories {loader : ConfigLoader} {reader : OptionReader}
    (refines : loader.Refines reader) :
    loader.config.captureOutputDir = loader.config.outputDir := by
  have output := refines.values .captureOutputDir .outputDir (by simp [ConfigOption.fields])
  have capture := refines.values .captureOutputDir .captureOutputDir
    (by simp [ConfigOption.fields])
  have same : ConfigField.value loader.config .captureOutputDir =
      ConfigField.value loader.config .outputDir := by
    have both : Except.ok (ConfigField.value loader.config .captureOutputDir) =
        (Except.ok (ConfigField.value loader.config .outputDir) :
          Except ConfigException ConfigValue) := by
      rw [← capture, ← output]
      cases reader.kept .captureOutputDir <;> rfl
    exact Except.ok.inj both
  exact ConfigValue.text.inj same

theorem ConfigField.value_with_configPath (config : FullRxConfig) (path : String)
    {field : ConfigField} (other : field ≠ .configPath) :
    field.value { config with configPath := path } = field.value config := by
  cases field with
  | configPath => exact absurd rfl other
  | _ => rfl

/-- The lines of a file. -/
def textLines (text : String) : List (List Char) := text.toList.splitOn (Char.ofNat 10)

/-- Every member that an option sets has the value of the last recognised assignment to
the option inside a section, or else of the last one outside, or else its default. -/
theorem loadConfigFile_precedence (path text : String) (config : FullRxConfig)
    (loaded : loadConfigFile path (some text) = .ok config) (named : path ≠ "")
    (option : ConfigOption) (field : ConfigField) (member : field ∈ option.fields) :
    option.valueFrom field
        (Precedence.decisive option (recognisedAssignments [] (textLines text))) =
      .ok (field.value config) := by
  simp only [loadConfigFile, if_neg named] at loaded
  cases read : ConfigLoader.readLines { config := loadDefaultConfig } (textLines text) with
  | error exception => simp [textLines] at read; simp [read] at loaded
  | ok loader =>
      have refines := ConfigLoader.refines_default.readLines read
      rw [textLines] at read
      simp only [read, Except.ok.injEq, fillDirectories_of_same refines.same_directories] at loaded
      have kept := refines.values option field member
      rw [Precedence.Reader.foldl_kept] at kept
      have other : field ≠ .configPath := by
        rintro rfl
        cases ConfigField.owner_of_mem member
      subst loaded
      exact kept.trans (congrArg Except.ok
        (ConfigField.value_with_configPath loader.config path other).symm)

/-- A plain assignment before and one behind the section that decides. -/
theorem loadConfigFile_precedence_section :
    let text := "output: a\n[capture]\noutput_dir = b\n[]\noutput: c"
    let config : FullRxConfig :=
      { loadDefaultConfig with outputDir := "b", captureOutputDir := "b", configPath := "rx.conf" }
    loadConfigFile "rx.conf" (some text) = .ok config ∧
      ConfigOption.captureOutputDir.valueFrom .outputDir
          (Precedence.decisive .captureOutputDir (recognisedAssignments [] (textLines text))) =
        .ok (ConfigField.value config .outputDir) := by
  have loaded : loadConfigFile "rx.conf"
      (some "output: a\n[capture]\noutput_dir = b\n[]\noutput: c") =
        .ok { loadDefaultConfig with
          outputDir := "b", captureOutputDir := "b", configPath := "rx.conf" } := by
    decide +kernel
  exact ⟨loaded, loadConfigFile_precedence _ _ _ loaded (by decide) .captureOutputDir .outputDir
    (by simp [ConfigOption.fields])⟩

end RxTech

