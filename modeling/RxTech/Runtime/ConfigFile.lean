import Mathlib.Data.List.DropRight
import RxTech.Library.DecimalText
import RxTech.Runtime.RxConfig

/-!
# The configuration file

`load_config_file`: lines with sections, and a table of names for the options. A `Char`
stands for a `char`; the characters the loader looks for are all of ASCII.
-/

set_option autoImplicit false

namespace RxTech

open DecimalText (isSpace scan)

/-! ## Texts -/

/-- The exceptions of the loader and of the number parsers. -/
inductive ConfigException where
  | runtimeError (what : String)
  | invalidArgument
  | outOfRange
  deriving DecidableEq, Repr

namespace ConfigText

def trim (value : List Char) : List Char := (value.dropWhile isSpace).rdropWhile isSpace

def doubleQuote : Char := Char.ofNat 34

def singleQuote : Char := Char.ofNat 39

/-- Whether a text of two characters or more is enclosed in two given ones. -/
def enclosed (first last : Char) (value : List Char) : Bool :=
  2 ≤ value.length && value.head? == some first && value.getLast? == some last

/-- `value.substr(1U, value.size() - 2U)`. -/
def inner (value : List Char) : List Char := value.tail.dropLast

def stripQuotes (value : List Char) : List Char :=
  if enclosed doubleQuote doubleQuote value || enclosed singleQuote singleQuote value then
    inner value
  else value

def toLower (value : List Char) : List Char := value.map Char.toLower

def parseBool (value : List Char) : Bool :=
  ["1", "true", "yes", "on"].any fun name => name.toList == toLower (trim value)

/-- `std::stoul` and `std::stoull`; a minus wraps around, and what follows the digits is
not read. -/
def stoul (value : List Char) : Except ConfigException Nat :=
  match scan value with
  | none => .error .invalidArgument
  | some (negative, magnitude, _) =>
      if magnitude < 2 ^ 64 then
        .ok (if negative then (2 ^ 64 - magnitude) % 2 ^ 64 else magnitude)
      else .error .outOfRange

def stoi (value : List Char) : Except ConfigException Int :=
  match scan value with
  | none => .error .invalidArgument
  | some (negative, magnitude, _) =>
      let number : Int := if negative then -magnitude else magnitude
      if -2147483648 ≤ number ∧ number ≤ 2147483647 then .ok number else .error .outOfRange

def parseIntList (value : List Char) : Except ConfigException (List Int) :=
  let normalized := trim value
  let normalized := if enclosed '[' ']' normalized then inner normalized else normalized
  let items := ((normalized.splitOn ',').map trim).filter fun item => item ≠ []
  items.mapM stoi

end ConfigText

open ConfigText

/-! ## Options -/

/-- The canonical keys. -/
inductive ConfigOption where
  | backendName | captureOutputDir | captureEnabled | captureIndexFilename | captureDataFilename
  | rawRecordEnabled | rawRecordOutputDir | rawRecordFilePrefix | rawRecordRingSlots
  | rawRecordWriterBatchSize | rawRecordMaxFrameBytes | rawRecordSegmentBytes
  | rawRecordMaxTotalBytes | interfaceName | receiverIpv4 | allowedSourceIpv4 | socketBindIp
  | socketBindPort | socketRcvbufBytes | socketNonblocking | socketBatchTimeoutMs | queueId
  | maxBurst | durationSeconds | packetSizeBytes | statusIntervalSeconds | allowedDestPort
  | cpuCores | runUntilStopped | dpdkPortId | dpdkPciAddr | dpdkSocketMemMb | dpdkMempoolSize
  | dpdkMbufCacheSize | dpdkRxDesc | dpdkTxDesc | logLevel | logOutput | logFilePath
  | protocolUdpPacketSize | protocolChannelsPerPrt | protocolPacketsPerChannel
  | protocolExpectedNPrt | protocolCpiTimeoutNs | protocolDynamicPrtEnabled | protocolMaxNPrt
  | outputDropPolicy | outputRingCapacity | recycleRingCapacity
  deriving DecidableEq, Repr

/-- How an option turns its text into a value, and where it puts that. -/
inductive ConfigSetter where
  | text (put : FullRxConfig → String → FullRxConfig)
  | lower (put : FullRxConfig → String → FullRxConfig)
  | dropPolicy (put : FullRxConfig → String → FullRxConfig)
  | flag (put : FullRxConfig → Bool → FullRxConfig)
  | uint32 (put : FullRxConfig → Nat → FullRxConfig)
  | uint64 (put : FullRxConfig → Nat → FullRxConfig)
  | intList (put : FullRxConfig → List Int → FullRxConfig)

def normalizedDropPolicy (value : List Char) : String :=
  if toLower value = "error".toList then "error" else "degrade"

def ConfigSetter.run (config : FullRxConfig) (value : List Char) :
    ConfigSetter → Except ConfigException FullRxConfig
  | .text put => .ok (put config (String.ofList value))
  | .lower put => .ok (put config (String.ofList (toLower value)))
  | .dropPolicy put => .ok (put config (normalizedDropPolicy value))
  | .flag put => .ok (put config (parseBool value))
  | .uint32 put => (stoul value).map fun number => put config (u32 number)
  | .uint64 put => (stoul value).map fun number => put config number
  | .intList put => (parseIntList value).map fun list => put config list

namespace ConfigOption

/-- The options in the order of the table. -/
def all : List ConfigOption :=
  [.backendName, .captureOutputDir, .captureEnabled, .captureIndexFilename, .captureDataFilename,
    .rawRecordEnabled, .rawRecordOutputDir, .rawRecordFilePrefix, .rawRecordRingSlots,
    .rawRecordWriterBatchSize, .rawRecordMaxFrameBytes, .rawRecordSegmentBytes,
    .rawRecordMaxTotalBytes, .interfaceName, .receiverIpv4, .allowedSourceIpv4, .socketBindIp,
    .socketBindPort, .socketRcvbufBytes, .socketNonblocking, .socketBatchTimeoutMs, .queueId,
    .maxBurst, .durationSeconds, .packetSizeBytes, .statusIntervalSeconds, .allowedDestPort,
    .cpuCores, .runUntilStopped, .dpdkPortId, .dpdkPciAddr, .dpdkSocketMemMb, .dpdkMempoolSize,
    .dpdkMbufCacheSize, .dpdkRxDesc, .dpdkTxDesc, .logLevel, .logOutput, .logFilePath,
    .protocolUdpPacketSize, .protocolChannelsPerPrt, .protocolPacketsPerChannel,
    .protocolExpectedNPrt, .protocolCpiTimeoutNs, .protocolDynamicPrtEnabled, .protocolMaxNPrt,
    .outputDropPolicy, .outputRingCapacity, .recycleRingCapacity]

def names : ConfigOption → List String
  | .backendName => ["backend", "backend_name"]
  | .captureOutputDir => ["output", "output_dir", "capture_output_dir", "capture.output_dir"]
  | .captureEnabled => ["capture.enabled", "capture_enabled"]
  | .captureIndexFilename => ["capture.index_filename", "capture_index_filename"]
  | .captureDataFilename => ["capture.data_filename", "capture_data_filename"]
  | .rawRecordEnabled => ["raw_record.enabled", "raw_record_enabled"]
  | .rawRecordOutputDir => ["raw_record.output_dir", "raw_record_output_dir"]
  | .rawRecordFilePrefix => ["raw_record.file_prefix", "raw_record_file_prefix"]
  | .rawRecordRingSlots => ["raw_record.ring_slots", "raw_record_ring_slots"]
  | .rawRecordWriterBatchSize => ["raw_record.writer_batch_size", "raw_record_writer_batch_size"]
  | .rawRecordMaxFrameBytes => ["raw_record.max_frame_bytes", "raw_record_max_frame_bytes"]
  | .rawRecordSegmentBytes => ["raw_record.segment_bytes", "raw_record_segment_bytes"]
  | .rawRecordMaxTotalBytes => ["raw_record.max_total_bytes", "raw_record_max_total_bytes"]
  | .interfaceName => ["interface", "interface_name", "network.interface_name"]
  | .receiverIpv4 => ["receiver_ipv4", "network.receiver_ipv4"]
  | .allowedSourceIpv4 => ["allowed_source_ipv4", "network.allowed_source_ipv4"]
  | .socketBindIp => ["socket_bind_ip", "network.socket_bind_ip", "socket.bind_ip"]
  | .socketBindPort => ["socket_bind_port", "network.socket_bind_port", "socket.bind_port"]
  | .socketRcvbufBytes => ["socket_rcvbuf_bytes", "socket.rcvbuf_bytes"]
  | .socketNonblocking => ["socket_nonblocking", "socket.nonblocking"]
  | .socketBatchTimeoutMs => ["socket_batch_timeout_ms", "socket.batch_timeout_ms"]
  | .queueId => ["queue_id", "network.queue_id"]
  | .maxBurst => ["max_burst", "runtime.max_burst"]
  | .durationSeconds => ["duration_seconds", "runtime.duration_seconds"]
  | .packetSizeBytes => ["packet_size_bytes"]
  | .statusIntervalSeconds => ["status_interval_seconds", "runtime.status_interval_seconds"]
  | .allowedDestPort => ["allowed_dest_port", "network.allowed_dest_port"]
  | .cpuCores => ["cpu_cores", "runtime.cpu_cores"]
  | .runUntilStopped => ["run_until_stopped", "runtime.run_until_stopped"]
  | .dpdkPortId => ["dpdk_port_id", "dpdk.port_id"]
  | .dpdkPciAddr => ["dpdk_pci_addr", "dpdk.pci_addr"]
  | .dpdkSocketMemMb => ["dpdk_socket_mem_mb", "dpdk.socket_mem_mb"]
  | .dpdkMempoolSize => ["dpdk_mempool_size", "dpdk.mempool_size"]
  | .dpdkMbufCacheSize => ["dpdk_mbuf_cache_size", "dpdk.mbuf_cache_size"]
  | .dpdkRxDesc => ["dpdk_rx_desc", "dpdk.rx_desc"]
  | .dpdkTxDesc => ["dpdk_tx_desc", "dpdk.tx_desc"]
  | .logLevel => ["log.level", "log_level"]
  | .logOutput => ["log.output", "log_output"]
  | .logFilePath => ["log.file_path", "log_file_path"]
  | .protocolUdpPacketSize => ["protocol.udp_packet_size", "protocol_udp_packet_size"]
  | .protocolChannelsPerPrt => ["protocol.channels_per_prt", "protocol_channels_per_prt"]
  | .protocolPacketsPerChannel => ["protocol.packets_per_channel", "protocol_packets_per_channel"]
  | .protocolExpectedNPrt => ["protocol.expected_n_prt", "protocol_expected_n_prt"]
  | .protocolCpiTimeoutNs => ["protocol.cpi_timeout_ns", "protocol_cpi_timeout_ns"]
  | .protocolDynamicPrtEnabled => ["protocol.dynamic_prt_enabled", "protocol_dynamic_prt_enabled"]
  | .protocolMaxNPrt => ["protocol.max_n_prt", "protocol_max_n_prt"]
  | .outputDropPolicy => ["output_drop_policy", "runtime.output_drop_policy"]
  | .outputRingCapacity => ["output_ring_capacity", "runtime.output_ring_capacity"]
  | .recycleRingCapacity => ["recycle_ring_capacity", "runtime.recycle_ring_capacity"]

def setter : ConfigOption → ConfigSetter
  | .backendName => .text fun c v => { c with backendName := v }
  | .captureOutputDir => .text fun c v => { c with outputDir := v, captureOutputDir := v }
  | .captureEnabled => .flag fun c v => { c with captureEnabled := v }
  | .captureIndexFilename => .text fun c v => { c with captureIndexFilename := v }
  | .captureDataFilename => .text fun c v => { c with captureDataFilename := v }
  | .rawRecordEnabled => .flag fun c v => { c with rawRecordEnabled := v }
  | .rawRecordOutputDir => .text fun c v => { c with rawRecordOutputDir := v }
  | .rawRecordFilePrefix => .text fun c v => { c with rawRecordFilePrefix := v }
  | .rawRecordRingSlots => .uint32 fun c v => { c with rawRecordRingSlots := v }
  | .rawRecordWriterBatchSize => .uint32 fun c v => { c with rawRecordWriterBatchSize := v }
  | .rawRecordMaxFrameBytes => .uint32 fun c v => { c with rawRecordMaxFrameBytes := v }
  | .rawRecordSegmentBytes => .uint64 fun c v => { c with rawRecordSegmentBytes := v }
  | .rawRecordMaxTotalBytes => .uint64 fun c v => { c with rawRecordMaxTotalBytes := v }
  | .interfaceName => .text fun c v => { c with interfaceName := v }
  | .receiverIpv4 => .text fun c v => { c with receiverIpv4 := v }
  | .allowedSourceIpv4 => .text fun c v => { c with allowedSourceIpv4 := v }
  | .socketBindIp => .text fun c v => { c with socketBindIp := v }
  | .socketBindPort => .uint32 fun c v => { c with socketBindPort := v }
  | .socketRcvbufBytes => .uint32 fun c v => { c with socketRcvbufBytes := v }
  | .socketNonblocking => .flag fun c v => { c with socketNonblocking := v }
  | .socketBatchTimeoutMs => .uint32 fun c v => { c with socketBatchTimeoutMs := v }
  | .queueId => .uint32 fun c v => { c with queueId := v }
  | .maxBurst => .uint32 fun c v => { c with maxBurst := v }
  | .durationSeconds => .uint32 fun c v => { c with durationSeconds := v }
  | .packetSizeBytes => .uint32 fun c v => { c with packetSizeBytes := v }
  | .statusIntervalSeconds => .uint32 fun c v => { c with statusIntervalSeconds := v }
  | .allowedDestPort => .uint32 fun c v => { c with allowedDestPort := v }
  | .cpuCores => .intList fun c v => { c with cpuCores := v }
  | .runUntilStopped => .flag fun c v => { c with runUntilStopped := v }
  | .dpdkPortId => .uint32 fun c v => { c with dpdkPortId := v }
  | .dpdkPciAddr => .text fun c v => { c with dpdkPciAddr := v }
  | .dpdkSocketMemMb => .uint32 fun c v => { c with dpdkSocketMemMb := v }
  | .dpdkMempoolSize => .uint32 fun c v => { c with dpdkMempoolSize := v }
  | .dpdkMbufCacheSize => .uint32 fun c v => { c with dpdkMbufCacheSize := v }
  | .dpdkRxDesc => .uint32 fun c v => { c with dpdkRxDesc := v }
  | .dpdkTxDesc => .uint32 fun c v => { c with dpdkTxDesc := v }
  | .logLevel => .lower fun c v => { c with logLevel := v }
  | .logOutput => .lower fun c v => { c with logOutput := v }
  | .logFilePath => .text fun c v => { c with logFilePath := v }
  | .protocolUdpPacketSize => .uint32 fun c v => { c with protocolUdpPacketSize := v }
  | .protocolChannelsPerPrt => .uint32 fun c v => { c with protocolChannelsPerPrt := v }
  | .protocolPacketsPerChannel => .uint32 fun c v => { c with protocolPacketsPerChannel := v }
  | .protocolExpectedNPrt => .uint32 fun c v => { c with protocolExpectedNPrt := v }
  | .protocolCpiTimeoutNs => .uint64 fun c v => { c with protocolCpiTimeoutNs := v }
  | .protocolDynamicPrtEnabled => .flag fun c v => { c with protocolDynamicPrtEnabled := v }
  | .protocolMaxNPrt => .uint32 fun c v => { c with protocolMaxNPrt := v }
  | .outputDropPolicy => .dropPolicy fun c v => { c with outputDropPolicy := v }
  | .outputRingCapacity => .uint32 fun c v => { c with outputRingCapacity := v }
  | .recycleRingCapacity => .uint32 fun c v => { c with recycleRingCapacity := v }

end ConfigOption

/-- `config_dispatch_map().find`; `emplace` keeps the first row of a name. -/
def configDispatch (key : List Char) : Option ConfigOption :=
  ConfigOption.all.find? fun option => option.names.any fun name => name.toList == key

/-! ## The loader -/

/-- `should_skip_assignment`, with the set afterwards. -/
def shouldSkipAssignment (canonicalKey : ConfigOption) (sectionKey : Bool)
    (sectionAssignedKeys : List ConfigOption) : Bool × List ConfigOption :=
  if sectionKey then (false, canonicalKey :: sectionAssignedKeys)
  else (sectionAssignedKeys.contains canonicalKey, sectionAssignedKeys)

structure ConfigLoader where
  config : FullRxConfig
  currentSection : List Char := []
  sectionAssignedKeys : List ConfigOption := []

/-- What a line says. -/
inductive ConfigLine where
  | ignored
  | header (name : List Char)
  | assignment (key value : List Char)
  deriving DecidableEq, Repr

/-- The part of the loop body that looks at the line only. -/
def ConfigLine.ofText (line : List Char) : ConfigLine :=
  let line := trim (line.takeWhile fun char => char ≠ '#')
  if line = [] then .ignored
  else if enclosed '[' ']' line then .header (toLower (trim (inner line)))
  else
    let key := line.takeWhile fun char => char ≠ ':' ∧ char ≠ '='
    match line.dropWhile fun char => char ≠ ':' ∧ char ≠ '=' with
    | [] => .ignored
    | _ :: value => .assignment (trim key) value

namespace ConfigLoader

def assignConfigValue (loader : ConfigLoader) (key value : List Char) (sectionKey : Bool) :
    Except ConfigException ConfigLoader :=
  let nk := toLower (trim key)
  let nv := stripQuotes (trim value)
  match configDispatch nk with
  | none => .ok loader
  | some canonical =>
      let (skip, sectionAssignedKeys) :=
        shouldSkipAssignment canonical sectionKey loader.sectionAssignedKeys
      if skip then .ok { loader with sectionAssignedKeys }
      else
        (canonical.setter.run loader.config nv).map fun config =>
          { loader with config, sectionAssignedKeys }

/-- The key with its section, if it has one. -/
def effectiveKey (currentSection key : List Char) : List Char :=
  if currentSection = [] then key else currentSection ++ '.' :: key

def readLine (loader : ConfigLoader) (line : List Char) : Except ConfigException ConfigLoader :=
  match ConfigLine.ofText line with
  | .ignored => .ok loader
  | .header name => .ok { loader with currentSection := name }
  | .assignment key value =>
      loader.assignConfigValue (effectiveKey loader.currentSection key) value
        (loader.currentSection ≠ [])

def readLines (loader : ConfigLoader) : List (List Char) → Except ConfigException ConfigLoader
  | [] => .ok loader
  | line :: lines =>
      match loader.readLine line with
      | .error exception => .error exception
      | .ok loader => loader.readLines lines

end ConfigLoader

/-- An empty directory is the other one. -/
def fillDirectories (config : FullRxConfig) : FullRxConfig :=
  let config :=
    if config.captureOutputDir = "" then { config with captureOutputDir := config.outputDir }
    else config
  if config.outputDir = "" then { config with outputDir := config.captureOutputDir } else config

/-- `load_config_file`; `none` is a file that cannot be opened. -/
def loadConfigFile (path : String) (file : Option String) : Except ConfigException FullRxConfig :=
  if path = "" then .ok loadDefaultConfig
  else
    match file with
    | none => .error (.runtimeError ("打开配置文件失败: " ++ path))
    | some text =>
        let loader : ConfigLoader := { config := loadDefaultConfig }
        match loader.readLines (text.toList.splitOn (Char.ofNat 10)) with
        | .error exception => .error exception
        | .ok loader => .ok { fillDirectories loader.config with configPath := path }

end RxTech
