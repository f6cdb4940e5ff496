import RxTech.Runtime.RxConfig

/-!
# Merging configurations

`merge_config` takes the members of the second configuration that pass a test: a text or
list is not empty, the duration is not zero, anything else is not the default. For the
members whose default is not empty the first test also passes for the default.
-/

set_option autoImplicit false

namespace RxTech

namespace MergeConfig

def nonempty (override base : String) : String := if override ≠ "" then override else base

def changed {α : Type} [DecidableEq α] (default override base : α) : α :=
  if override ≠ default then override else base

end MergeConfig

open MergeConfig in
/-- `merge_config`, with the merged configuration as the result. -/
def mergeConfig (base overrides : FullRxConfig) : FullRxConfig :=
  let defaults := loadDefaultConfig
  { base with
    backendName := nonempty overrides.backendName base.backendName
    outputDir := nonempty overrides.outputDir base.outputDir
    captureOutputDir := nonempty overrides.captureOutputDir base.captureOutputDir
    captureIndexFilename := nonempty overrides.captureIndexFilename base.captureIndexFilename
    captureDataFilename := nonempty overrides.captureDataFilename base.captureDataFilename
    rawRecordOutputDir := nonempty overrides.rawRecordOutputDir base.rawRecordOutputDir
    rawRecordFilePrefix := nonempty overrides.rawRecordFilePrefix base.rawRecordFilePrefix
    interfaceName := nonempty overrides.interfaceName base.interfaceName
    receiverIpv4 := nonempty overrides.receiverIpv4 base.receiverIpv4
    allowedSourceIpv4 := nonempty overrides.allowedSourceIpv4 base.allowedSourceIpv4
    socketBindIp := nonempty overrides.socketBindIp base.socketBindIp
    dpdkPciAddr := nonempty overrides.dpdkPciAddr base.dpdkPciAddr
    logLevel := nonempty overrides.logLevel base.logLevel
    logOutput := nonempty overrides.logOutput base.logOutput
    logFilePath := nonempty overrides.logFilePath base.logFilePath
    configPath := nonempty overrides.configPath base.configPath
    queueId := changed defaults.queueId overrides.queueId base.queueId
    maxBurst := changed defaults.maxBurst overrides.maxBurst base.maxBurst
    durationSeconds := changed 0 overrides.durationSeconds base.durationSeconds
    packetSizeBytes :=
      changed defaults.packetSizeBytes overrides.packetSizeBytes base.packetSizeBytes
    statusIntervalSeconds :=
      changed defaults.statusIntervalSeconds
        overrides.statusIntervalSeconds base.statusIntervalSeconds
    allowedDestPort :=
      changed defaults.allowedDestPort overrides.allowedDestPort base.allowedDestPort
    socketBindPort := changed defaults.socketBindPort overrides.socketBindPort base.socketBindPort
    socketRcvbufBytes :=
      changed defaults.socketRcvbufBytes overrides.socketRcvbufBytes base.socketRcvbufBytes
    socketNonblocking :=
      changed defaults.socketNonblocking overrides.socketNonblocking base.socketNonblocking
    socketBatchTimeoutMs :=
      changed defaults.socketBatchTimeoutMs
        overrides.socketBatchTimeoutMs base.socketBatchTimeoutMs
    captureEnabled := changed defaults.captureEnabled overrides.captureEnabled base.captureEnabled
    rawRecordEnabled :=
      changed defaults.rawRecordEnabled overrides.rawRecordEnabled base.rawRecordEnabled
    dpdkPortId := changed defaults.dpdkPortId overrides.dpdkPortId base.dpdkPortId
    dpdkSocketMemMb :=
      changed defaults.dpdkSocketMemMb overrides.dpdkSocketMemMb base.dpdkSocketMemMb
    dpdkMempoolSize :=
      changed defaults.dpdkMempoolSize overrides.dpdkMempoolSize base.dpdkMempoolSize
    dpdkMbufCacheSize :=
      changed defaults.dpdkMbufCacheSize overrides.dpdkMbufCacheSize base.dpdkMbufCacheSize
    dpdkRxDesc := changed defaults.dpdkRxDesc overrides.dpdkRxDesc base.dpdkRxDesc
    dpdkTxDesc := changed defaults.dpdkTxDesc overrides.dpdkTxDesc base.dpdkTxDesc
    protocolUdpPacketSize :=
      changed defaults.protocolUdpPacketSize
        overrides.protocolUdpPacketSize base.protocolUdpPacketSize
    protocolChannelsPerPrt :=
      changed defaults.protocolChannelsPerPrt
        overrides.protocolChannelsPerPrt base.protocolChannelsPerPrt
    protocolPacketsPerChannel :=
      changed defaults.protocolPacketsPerChannel
        overrides.protocolPacketsPerChannel base.protocolPacketsPerChannel
    protocolExpectedNPrt :=
      changed defaults.protocolExpectedNPrt
        overrides.protocolExpectedNPrt base.protocolExpectedNPrt
    protocolCpiTimeoutNs :=
      changed defaults.protocolCpiTimeoutNs
        overrides.protocolCpiTimeoutNs base.protocolCpiTimeoutNs
    protocolDynamicPrtEnabled :=
      changed defaults.protocolDynamicPrtEnabled
        overrides.protocolDynamicPrtEnabled base.protocolDynamicPrtEnabled
    protocolMaxNPrt :=
      changed defaults.protocolMaxNPrt overrides.protocolMaxNPrt base.protocolMaxNPrt
    rawRecordRingSlots :=
      changed defaults.rawRecordRingSlots overrides.rawRecordRingSlots base.rawRecordRingSlots
    rawRecordWriterBatchSize :=
      changed defaults.rawRecordWriterBatchSize
        overrides.rawRecordWriterBatchSize base.rawRecordWriterBatchSize
    rawRecordMaxFrameBytes :=
      changed defaults.rawRecordMaxFrameBytes
        overrides.rawRecordMaxFrameBytes base.rawRecordMaxFrameBytes
    rawRecordSegmentBytes :=
      changed defaults.rawRecordSegmentBytes
        overrides.rawRecordSegmentBytes base.rawRecordSegmentBytes
    rawRecordMaxTotalBytes :=
      changed defaults.rawRecordMaxTotalBytes
        overrides.rawRecordMaxTotalBytes base.rawRecordMaxTotalBytes
    runUntilStopped :=
      changed defaults.runUntilStopped overrides.runUntilStopped base.runUntilStopped
    cpuCores := if overrides.cpuCores ≠ [] then overrides.cpuCores else base.cpuCores
    outputDropPolicy :=
      changed defaults.outputDropPolicy overrides.outputDropPolicy base.outputDropPolicy
    outputRingCapacity :=
      changed defaults.outputRingCapacity overrides.outputRingCapacity base.outputRingCapacity
    recycleRingCapacity :=
      changed defaults.recycleRingCapacity overrides.recycleRingCapacity base.recycleRingCapacity }

/-! ## What a merge does to a field -/

inductive MergeTest where
  | notEmpty
  | notDefault
  | notZero
  deriving DecidableEq, Repr

def ConfigField.mergeTest : ConfigField → MergeTest
  | .backendName | .outputDir | .captureOutputDir | .captureIndexFilename | .captureDataFilename
  | .rawRecordOutputDir | .rawRecordFilePrefix | .interfaceName | .receiverIpv4
  | .allowedSourceIpv4 | .socketBindIp | .dpdkPciAddr | .logLevel | .logOutput | .logFilePath
  | .configPath | .cpuCores => .notEmpty
  | .durationSeconds => .notZero
  | _ => .notDefault

def ConfigValue.isEmpty : ConfigValue → Bool
  | .text value => value = ""
  | .cores value => value = []
  | _ => false

/-- The test of a field. -/
def ConfigField.passes (overrides : FullRxConfig) (field : ConfigField) : Bool :=
  match field.mergeTest with
  | .notEmpty => !(field.value overrides).isEmpty
  | .notDefault => field.value overrides ≠ field.value loadDefaultConfig
  | .notZero => field.value overrides ≠ .number 0

theorem MergeConfig.value_nonempty (override base : String) :
    ConfigValue.text (nonempty override base) =
      if !(ConfigValue.text override).isEmpty then .text override else .text base := by
  by_cases empty : override = ""
  · simp [nonempty, ConfigValue.isEmpty, empty]
  · simp [nonempty, ConfigValue.isEmpty, empty]

/-- A member of any kind that is compared with a value. -/
theorem MergeConfig.value_changed {α : Type} [DecidableEq α] {kind : α → ConfigValue}
    (injective : Function.Injective kind) (default override base : α) :
    kind (changed default override base) =
      if decide (kind override ≠ kind default) then kind override else kind base := by
  by_cases same : override = default
  · simp [changed, same]
  · have different : kind override ≠ kind default := fun equal => same (injective equal)
    simp [changed, same, different]

theorem ConfigValue.kinds_injective :
    Function.Injective text ∧ Function.Injective number ∧ Function.Injective flag := by
  refine ⟨?_, ?_, ?_⟩
  · exact fun _ _ => text.inj
  · exact fun _ _ => number.inj
  · exact fun _ _ => flag.inj

private theorem mergeConfig_value (base overrides : FullRxConfig) (field : ConfigField) :
    field.value (mergeConfig base overrides) =
      if field.passes overrides then field.value overrides else field.value base := by
  obtain ⟨text, number, flag⟩ := ConfigValue.kinds_injective
  cases field with
  | cpuCores =>
      by_cases empty : overrides.cpuCores = []
      · simp [ConfigField.value, ConfigField.passes, ConfigField.mergeTest, ConfigValue.isEmpty,
          mergeConfig, empty]
      · simp [ConfigField.value, ConfigField.passes, ConfigField.mergeTest, ConfigValue.isEmpty,
          mergeConfig, empty]
  | outputDropPolicy => exact MergeConfig.value_changed text _ _ _
  | _ =>
      first
      | exact MergeConfig.value_nonempty _ _
      | exact MergeConfig.value_changed number _ _ _
      | exact MergeConfig.value_changed flag _ _ _

/-! ## The law -/

/-- A field that the override leaves at its default keeps the base; any other field becomes
the override's. -/
def KeepsUnchanged (base overrides : FullRxConfig) (field : ConfigField) : Prop :=
  (field.value overrides = field.value loadDefaultConfig →
      field.value (mergeConfig base overrides) = field.value base) ∧
    (field.value overrides ≠ field.value loadDefaultConfig →
      field.value (mergeConfig base overrides) = field.value overrides)

/-- The members that are tested for being empty although their default is not. -/
def ConfigField.defaulted (field : ConfigField) : Bool :=
  field.mergeTest = .notEmpty ∧ (field.value loadDefaultConfig).isEmpty = false

theorem ConfigField.defaulted_iff {field : ConfigField} :
    field.defaulted = true ↔ field ∈ ([.backendName, .outputDir, .captureOutputDir,
      .captureIndexFilename, .captureDataFilename, .rawRecordOutputDir, .rawRecordFilePrefix,
      .interfaceName, .logLevel, .logOutput, .cpuCores] : List ConfigField) := by
  cases field <;> decide

/-- The other members whose test is not a comparison with the default. -/
theorem ConfigField.mergeTest_of_plain {field : ConfigField} (plain : field.defaulted = false) :
    field.mergeTest = .notDefault ∨ field ∈ ([.receiverIpv4, .allowedSourceIpv4, .socketBindIp,
      .dpdkPciAddr, .logFilePath, .configPath, .durationSeconds] : List ConfigField) := by
  revert plain
  cases field <;> decide

/-- Away from the members above the test says whether the override is the default. -/
theorem ConfigField.passes_iff {field : ConfigField} (plain : field.defaulted = false)
    (overrides : FullRxConfig) :
    field.passes overrides = true ↔ field.value overrides ≠ field.value loadDefaultConfig := by
  rcases ConfigField.mergeTest_of_plain plain with compared | listed
  · simp [passes, compared]
  · simp only [List.mem_cons, List.not_mem_nil, or_false] at listed
    rcases listed with rfl | rfl | rfl | rfl | rfl | rfl | rfl <;>
      simp [passes, mergeTest, value, ConfigValue.isEmpty, loadDefaultConfig]

theorem ConfigField.defaulted_passes {field : ConfigField} (defaulted : field.defaulted = true)
    (overrides : FullRxConfig) :
    field.passes overrides = !(field.value overrides).isEmpty ∧
      (field.value loadDefaultConfig).isEmpty = false := by
  simp only [ConfigField.defaulted, decide_eq_true_eq] at defaulted
  refine ⟨?_, defaulted.2⟩
  simp only [passes, defaulted.1]

private theorem keepsUnchanged_iff (base overrides : FullRxConfig) (field : ConfigField) :
    KeepsUnchanged base overrides field ↔
      (field.defaulted = true →
        (field.value overrides ≠ field.value loadDefaultConfig ∧
            (field.value overrides).isEmpty = false) ∨
          field.value overrides = field.value base) := by
  rw [KeepsUnchanged, mergeConfig_value]
  cases defaulted : field.defaulted with
  | false =>
      have passes := ConfigField.passes_iff defaulted overrides
      by_cases same : field.value overrides = field.value loadDefaultConfig
      · have fails : ¬ field.passes overrides = true := fun passed => passes.mp passed same
        simp [same, fails]
      · simp [same, passes.mpr same]
  | true =>
      obtain ⟨passes, nonempty⟩ := ConfigField.defaulted_passes defaulted overrides
      by_cases same : field.value overrides = field.value loadDefaultConfig
      · simp [passes, same, nonempty]
      · cases empty : (field.value overrides).isEmpty with
        | true => simp [passes, same, empty, eq_comm]
        | false => simp [passes, same, empty]

theorem FullRxConfig.ext_values {first second : FullRxConfig}
    (same : ∀ field : ConfigField, field.value first = field.value second) : first = second := by
  have values : first.values = second.values :=
    List.map_congr_left fun field _ => same field
  obtain ⟨core⟩ := first
  obtain ⟨core'⟩ := second
  cases core
  cases core'
  simp only [FullRxConfig.values, ConfigField.all, ConfigField.value, List.map_cons, List.map_nil,
    List.cons.injEq, ConfigValue.text.injEq, ConfigValue.number.injEq, ConfigValue.flag.injEq,
    ConfigValue.cores.injEq] at values
  simp only [FullRxConfig.mk.injEq, RxConfig.mk.injEq]
  simp only [values, and_self]

/-- Every field keeps the law, and the default configuration changes nothing. -/
structure MergeLaw (base overrides : FullRxConfig) : Prop where
  fields : ∀ field, KeepsUnchanged base overrides field
  unchanged : overrides = loadDefaultConfig → mergeConfig base overrides = base

/-- The law holds exactly if each member that is tested for being empty, but has another
default, is overridden by a value that is neither, or by the value of the base. -/
theorem mergeConfig_law_iff (base overrides : FullRxConfig) :
    MergeLaw base overrides ↔
      ∀ field : ConfigField, field.defaulted = true →
        (field.value overrides ≠ field.value loadDefaultConfig ∧
            (field.value overrides).isEmpty = false) ∨
          field.value overrides = field.value base := by
  constructor
  · intro law field
    exact (keepsUnchanged_iff base overrides field).mp (law.fields field)
  · intro condition
    have fields (field : ConfigField) : KeepsUnchanged base overrides field :=
      (keepsUnchanged_iff base overrides field).mpr (condition field)
    refine ⟨fields, fun default => FullRxConfig.ext_values fun field => ?_⟩
    exact (fields field).1 (congrArg (ConfigField.value · field) default)

/-- Merging the defaults resets the backend name. -/
theorem mergeConfig_resets :
    (mergeConfig { loadDefaultConfig with backendName := "socket" } loadDefaultConfig).backendName =
        "dpdk" ∧
      ¬ MergeLaw { loadDefaultConfig with backendName := "socket" } loadDefaultConfig := by
  refine ⟨rfl, fun law => ?_⟩
  have unchanged := congrArg FullRxConfig.backendName (law.unchanged rfl)
  revert unchanged
  decide

end RxTech
