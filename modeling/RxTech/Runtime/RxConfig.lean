import RxTech.Protocol.Spec

/-!
# The receiver configuration

All members of `RxConfig` that are loaded, merged or validated.
-/

set_option autoImplicit false

namespace RxTech

/-- `RxConfig` with the members outside the protocol layer. The run label, the feedback
members and two flags that nothing here reads are left out. -/
structure FullRxConfig extends RxConfig where
  backendName : String := "dpdk"
  configPath : String := ""
  cpuCores : List Int := []
  interfaceName : String := "receiver0"
  queueId : Nat := 0
  socketBindIp : String := ""
  socketBindPort : Nat := 0
  socketRcvbufBytes : Nat := 134217728
  socketNonblocking : Bool := false
  socketBatchTimeoutMs : Nat := 10
  dpdkPciAddr : String := ""
  dpdkPortId : Nat := 0
  dpdkSocketMemMb : Nat := 1024
  dpdkMempoolSize : Nat := 4096
  dpdkMbufCacheSize : Nat := 256
  dpdkRxDesc : Nat := 256
  dpdkTxDesc : Nat := 256
  maxBurst : Nat := 64
  packetSizeBytes : Nat := 0
  durationSeconds : Nat := 0
  runUntilStopped : Bool := false
  captureEnabled : Bool := true
  captureOutputDir : String := "results"
  captureIndexFilename : String := "capture_index.csv"
  captureDataFilename : String := "capture_packets.bin"
  rawRecordEnabled : Bool := false
  rawRecordOutputDir : String := "/data/rx_tech_demo/raw_frames"
  rawRecordFilePrefix : String := "radar_raw"
  rawRecordRingSlots : Nat := 4096
  rawRecordWriterBatchSize : Nat := 64
  rawRecordMaxFrameBytes : Nat := 16384
  rawRecordSegmentBytes : Nat := 5368709120 / 10
  rawRecordMaxTotalBytes : Nat := 5368709120
  logLevel : String := "info"
  logOutput : String := "stdout"
  logFilePath : String := ""
  outputDir : String := "results"
  statusIntervalSeconds : Nat := 10
  deriving DecidableEq, Repr

def loadDefaultConfig : FullRxConfig := { cpuCores := [0] }

def effectiveSocketBindIp (config : FullRxConfig) : String :=
  if config.socketBindIp = "" then config.receiverIpv4 else config.socketBindIp

def effectiveSocketBindPort (config : FullRxConfig) : Nat :=
  let port := if config.socketBindPort ≠ 0 then config.socketBindPort else config.allowedDestPort
  if port = 0 ∨ port > 65535 then 0 else port

/-! ## Members as data -/

inductive ConfigValue where
  | text (value : String)
  | number (value : Nat)
  | flag (value : Bool)
  | cores (value : List Int)
  deriving DecidableEq, Repr

/-- The members that are loaded or merged. -/
inductive ConfigField where
  | backendName | outputDir | captureOutputDir | captureEnabled | captureIndexFilename
  | captureDataFilename | rawRecordEnabled | rawRecordOutputDir | rawRecordFilePrefix
  | rawRecordRingSlots | rawRecordWriterBatchSize | rawRecordMaxFrameBytes
  | rawRecordSegmentBytes | rawRecordMaxTotalBytes | interfaceName | receiverIpv4
  | allowedSourceIpv4 | socketBindIp | socketBindPort | socketRcvbufBytes | socketNonblocking
  | socketBatchTimeoutMs | queueId | maxBurst | durationSeconds | packetSizeBytes
  | statusIntervalSeconds | allowedDestPort | cpuCores | runUntilStopped | dpdkPortId
  | dpdkPciAddr | dpdkSocketMemMb | dpdkMempoolSize | dpdkMbufCacheSize | dpdkRxDesc | dpdkTxDesc
  | logLevel | logOutput | logFilePath | protocolUdpPacketSize | protocolChannelsPerPrt
  | protocolPacketsPerChannel | protocolExpectedNPrt | protocolCpiTimeoutNs
  | protocolDynamicPrtEnabled | protocolMaxNPrt | outputDropPolicy | outputRingCapacity
  | recycleRingCapacity | configPath
  deriving DecidableEq, Repr

namespace ConfigField

def value (config : FullRxConfig) : ConfigField → ConfigValue
  | .backendName => .text config.backendName
  | .outputDir => .text config.outputDir
  | .captureOutputDir => .text config.captureOutputDir
  | .captureEnabled => .flag config.captureEnabled
  | .captureIndexFilename => .text config.captureIndexFilename
  | .captureDataFilename => .text config.captureDataFilename
  | .rawRecordEnabled => .flag config.rawRecordEnabled
  | .rawRecordOutputDir => .text config.rawRecordOutputDir
  | .rawRecordFilePrefix => .text config.rawRecordFilePrefix
  | .rawRecordRingSlots => .number config.rawRecordRingSlots
  | .rawRecordWriterBatchSize => .number config.rawRecordWriterBatchSize
  | .rawRecordMaxFrameBytes => .number config.rawRecordMaxFrameBytes
  | .rawRecordSegmentBytes => .number config.rawRecordSegmentBytes
  | .rawRecordMaxTotalBytes => .number config.rawRecordMaxTotalBytes
  | .interfaceName => .text config.interfaceName
  | .receiverIpv4 => .text config.receiverIpv4
  | .allowedSourceIpv4 => .text config.allowedSourceIpv4
  | .socketBindIp => .text config.socketBindIp
  | .socketBindPort => .number config.socketBindPort
  | .socketRcvbufBytes => .number config.socketRcvbufBytes
  | .socketNonblocking => .flag config.socketNonblocking
  | .socketBatchTimeoutMs => .number config.socketBatchTimeoutMs
  | .queueId => .number config.queueId
  | .maxBurst => .number config.maxBurst
  | .durationSeconds => .number config.durationSeconds
  | .packetSizeBytes => .number config.packetSizeBytes
  | .statusIntervalSeconds => .number config.statusIntervalSeconds
  | .allowedDestPort => .number config.allowedDestPort
  | .cpuCores => .cores config.cpuCores
  | .runUntilStopped => .flag config.runUntilStopped
  | .dpdkPortId => .number config.dpdkPortId
  | .dpdkPciAddr => .text config.dpdkPciAddr
  | .dpdkSocketMemMb => .number config.dpdkSocketMemMb
  | .dpdkMempoolSize => .number config.dpdkMempoolSize
  | .dpdkMbufCacheSize => .number config.dpdkMbufCacheSize
  | .dpdkRxDesc => .number config.dpdkRxDesc
  | .dpdkTxDesc => .number config.dpdkTxDesc
  | .logLevel => .text config.logLevel
  | .logOutput => .text config.logOutput
  | .logFilePath => .text config.logFilePath
  | .protocolUdpPacketSize => .number config.protocolUdpPacketSize
  | .protocolChannelsPerPrt => .number config.protocolChannelsPerPrt
  | .protocolPacketsPerChannel => .number config.protocolPacketsPerChannel
  | .protocolExpectedNPrt => .number config.protocolExpectedNPrt
  | .protocolCpiTimeoutNs => .number config.protocolCpiTimeoutNs
  | .protocolDynamicPrtEnabled => .flag config.protocolDynamicPrtEnabled
  | .protocolMaxNPrt => .number config.protocolMaxNPrt
  | .outputDropPolicy => .text config.outputDropPolicy
  | .outputRingCapacity => .number config.outputRingCapacity
  | .recycleRingCapacity => .number config.recycleRingCapacity
  | .configPath => .text config.configPath

/-- The fields in the order of their constructors. -/
def all : List ConfigField :=
  [.backendName, .outputDir, .captureOutputDir, .captureEnabled, .captureIndexFilename,
    .captureDataFilename, .rawRecordEnabled, .rawRecordOutputDir, .rawRecordFilePrefix,
    .rawRecordRingSlots, .rawRecordWriterBatchSize, .rawRecordMaxFrameBytes,
    .rawRecordSegmentBytes, .rawRecordMaxTotalBytes, .interfaceName, .receiverIpv4,
    .allowedSourceIpv4, .socketBindIp, .socketBindPort, .socketRcvbufBytes, .socketNonblocking,
    .socketBatchTimeoutMs, .queueId, .maxBurst, .durationSeconds, .packetSizeBytes,
    .statusIntervalSeconds, .allowedDestPort, .cpuCores, .runUntilStopped, .dpdkPortId,
    .dpdkPciAddr, .dpdkSocketMemMb, .dpdkMempoolSize, .dpdkMbufCacheSize, .dpdkRxDesc,
    .dpdkTxDesc, .logLevel, .logOutput, .logFilePath, .protocolUdpPacketSize,
    .protocolChannelsPerPrt, .protocolPacketsPerChannel, .protocolExpectedNPrt,
    .protocolCpiTimeoutNs, .protocolDynamicPrtEnabled, .protocolMaxNPrt, .outputDropPolicy,
    .outputRingCapacity, .recycleRingCapacity, .configPath]

theorem getElem?_all (field : ConfigField) : all[field.ctorIdx]? = some field := by
  cases field <;> rfl

private theorem ctorIdx_inj {first second : ConfigField} (same : first.ctorIdx = second.ctorIdx) :
    first = second := by
  have found := first.getElem?_all
  rw [same, second.getElem?_all] at found
  exact (Option.some.inj found).symm

end ConfigField

def FullRxConfig.values (config : FullRxConfig) : List ConfigValue :=
  ConfigField.all.map (ConfigField.value config)

theorem FullRxConfig.getElem?_values (config : FullRxConfig) (field : ConfigField) :
    config.values[field.ctorIdx]? = some (field.value config) := by
  rw [values, List.getElem?_map, field.getElem?_all]
  rfl

/-- Writing a value to some places of the list of values. -/
def writeFields (fields : List ConfigField) (value : ConfigValue) (values : List ConfigValue) :
    List ConfigValue :=
  fields.foldl (fun values field => values.set field.ctorIdx value) values

theorem getElem?_writeFields (fields : List ConfigField) (value : ConfigValue)
    {values : List ConfigValue} (field : ConfigField) (inside : field.ctorIdx < values.length) :
    (writeFields fields value values)[field.ctorIdx]? =
      if field ∈ fields then some value else values[field.ctorIdx]? := by
  induction fields generalizing values with
  | nil => rfl
  | cons written fields ih =>
      have rest := ih (by rw [List.length_set]; exact inside : field.ctorIdx <
        (values.set written.ctorIdx value).length)
      rw [writeFields, List.foldl_cons]
      apply rest.trans
      by_cases same : written = field
      · subst same
        simp [List.getElem?_set_self inside]
      · have apart : written.ctorIdx ≠ field.ctorIdx := fun index => same (ConfigField.ctorIdx_inj index)
        simp [List.getElem?_set_ne apart, Ne.symm same]

/-- Writing some fields leaves the others alone. -/
theorem ConfigField.value_of_write {config config' : FullRxConfig} {fields : List ConfigField}
    {value : ConfigValue} (written : config'.values = writeFields fields value config.values)
    (field : ConfigField) :
    field.value config' = if field ∈ fields then value else field.value config := by
  have found := config'.getElem?_values field
  have before := config.getElem?_values field
  rw [written, getElem?_writeFields fields value field (List.getElem?_eq_some_iff.mp before).1,
    before] at found
  split at found
  · rename_i member
    rw [if_pos member]
    exact (Option.some.inj found).symm
  · rename_i other
    rw [if_neg other]
    exact (Option.some.inj found).symm

end RxTech
