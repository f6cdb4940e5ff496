import Mathlib.Algebra.Ring.Nat

/-!
# Protocol constants

The receiver configuration members that reach the protocol layer, and the
`ProtocolSpec` that `protocol_spec_from_config` derives from them.
-/

set_option autoImplicit false

namespace RxTech

/-- `static_cast<std::uint16_t>`. -/
def u16 (value : Nat) : Nat := value % 2 ^ 16

/-- `static_cast<std::uint32_t>`. -/
def u32 (value : Nat) : Nat := value % 2 ^ 32

theorem u16_of_lt {value : Nat} (small : value < 2 ^ 16) : u16 value = value :=
  Nat.mod_eq_of_lt small

/-- The members of `RxConfig` read by the protocol pipeline, the coordinator
and the ring setup. The remaining members configure other subsystems. -/
structure RxConfig where
  receiverIpv4 : String := ""
  allowedSourceIpv4 : String := ""
  allowedDestPort : Nat := 0
  protocolUdpPacketSize : Nat := 2048
  protocolChannelsPerPrt : Nat := 3
  protocolPacketsPerChannel : Nat := 9
  protocolExpectedNPrt : Nat := 0
  protocolMaxNPrt : Nat := 100
  protocolCpiTimeoutNs : Nat := 0
  protocolDynamicPrtEnabled : Bool := true
  outputDropPolicy : String := "degrade"
  outputRingCapacity : Nat := 32
  recycleRingCapacity : Nat := 32
  deriving DecidableEq, Repr

structure ProtocolSpec where
  magicControl : Nat := 0x55AAFF00
  magicData : Nat := 0x55AAFF03
  magicTail : Nat := 0x55AAFF30
  udpPacketSize : Nat := 2048
  packetHeaderSize : Nat := 16
  packetDataSize : Nat := 2032
  channelsPerPrt : Nat := 3
  packetsPerChannel : Nat := 9
  iqPerFullPacket : Nat := 508
  iqPerLastPacket : Nat := 476
  controlTableSize : Nat := 2048
  expectedNPrt : Nat := 0
  cpiTimeoutNs : Nat := 0
  dynamicPrtEnabled : Bool := true
  maxNPrt : Nat := 100
  deriving DecidableEq, Repr

/-- Out-of-range channel and packet counts fall back to 3 and 9. -/
def protocolSpecFromConfig (config : RxConfig) : ProtocolSpec :=
  let spec : ProtocolSpec := {}
  { spec with
    udpPacketSize := config.protocolUdpPacketSize
    channelsPerPrt :=
      if 0 < config.protocolChannelsPerPrt ∧ config.protocolChannelsPerPrt ≤ 4 then
        config.protocolChannelsPerPrt
      else 3
    packetsPerChannel :=
      if 0 < config.protocolPacketsPerChannel ∧ config.protocolPacketsPerChannel ≤ 9 then
        config.protocolPacketsPerChannel
      else 9
    packetDataSize :=
      if config.protocolUdpPacketSize > spec.packetHeaderSize then
        config.protocolUdpPacketSize - spec.packetHeaderSize
      else 0
    controlTableSize := config.protocolUdpPacketSize
    expectedNPrt := config.protocolExpectedNPrt
    cpiTimeoutNs := config.protocolCpiTimeoutNs
    dynamicPrtEnabled := config.protocolDynamicPrtEnabled
    maxNPrt := config.protocolMaxNPrt }

/-- What the rest of the receiver relies on in a specification: the slot
geometry fits the fixed arrays of a context, and a zero tail is no marker. -/
structure ProtocolSpec.WellFormed (spec : ProtocolSpec) : Prop where
  channels_pos : 0 < spec.channelsPerPrt
  channels_le : spec.channelsPerPrt ≤ 4
  packets_pos : 0 < spec.packetsPerChannel
  packets_le : spec.packetsPerChannel ≤ 9
  tail_ne_zero : spec.magicTail ≠ 0

theorem protocolSpecFromConfig_wellFormed (config : RxConfig) :
    (protocolSpecFromConfig config).WellFormed := by
  constructor <;> simp only [protocolSpecFromConfig]
  · split <;> omega
  · split <;> omega
  · split <;> omega
  · split <;> omega
  · decide

theorem ProtocolSpec.WellFormed.u16_channels {spec : ProtocolSpec} (formed : spec.WellFormed) :
    u16 spec.channelsPerPrt = spec.channelsPerPrt :=
  u16_of_lt (by have := formed.channels_le; omega)

theorem ProtocolSpec.WellFormed.u16_packets {spec : ProtocolSpec} (formed : spec.WellFormed) :
    u16 spec.packetsPerChannel = spec.packetsPerChannel :=
  u16_of_lt (by have := formed.packets_le; omega)

end RxTech
