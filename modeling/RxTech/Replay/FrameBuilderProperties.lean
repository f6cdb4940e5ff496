import RxTech.Replay.FrameBuilder

/-!
# Built frames and the two decoders

The length fields of `build_eth_frame` are the payload length modulo `2 ^ 16`. A
length that wraps to 65507 or less still describes a datagram that fits the frame, and
the decoders read the beginning of the payload.
-/

set_option autoImplicit false

namespace RxTech

/-! ## Both decoders on a frame -/

/-- The frames that a new assembler yields. -/
def pushedFrames (frame : List UInt8) : Option (List UdpPayloadFrame) :=
  (UdpPayloadAssembler.push {} (.ofBytes frame)).map Prod.snd

def adaptedFrame (adapter : DpdkDatagramAdapter) (stats : BackendStats) (frame : List UInt8) :
    Option UdpPayloadFrame :=
  (adapter.adaptFrame (.ofBytes frame) stats).2.map UdpDatagramDesc.udpFrame

/-- What either decoder reads from a frame that is no fragment. -/
def readFrame (frame : List UInt8) : Option UdpPayloadFrame :=
  (PacketDesc.ofBytes frame).readIpv4.bind Ipv4Packet.wholeFrame

section Unfragmented

variable {frame : List UInt8}

private theorem pushedFrames_eq (unfragmented : (PacketDesc.ofBytes frame).Unfragmented) :
    pushedFrames frame = some (readFrame frame).toList := by
  rw [pushedFrames, UdpPayloadAssembler.push_unfragmented _ unfragmented]
  rfl

private theorem adaptedFrame_eq (unfragmented : (PacketDesc.ofBytes frame).Unfragmented)
    (adapter : DpdkDatagramAdapter) (stats : BackendStats) :
    adaptedFrame adapter stats frame = readFrame frame := by
  have adapts := adapter.adaptFrame_adapts unfragmented stats
  rw [adaptedFrame]
  generalize (adapter.adaptFrame (.ofBytes frame) stats).2 = adapted at adapts
  cases adapts with
  | refused unread => exact unread.symm
  | adapted read datagram reads formed same => exact (congrArg some same).trans reads.symm

end Unfragmented

namespace UdpFrameHeader

variable {header : UdpFrameHeader} {payload : List UInt8}

/-- No datagram is read when its headers do not fit the total length, or the total length
does not fit the frame as its 32-bit length tells. -/
theorem unread (bad : header.totalLength.toNat < 28 ∨
    (42 + payload.length) % 2 ^ 32 < 14 + header.totalLength.toNat) :
    readFrame (header.frame payload) = none := by
  have ihl := @data_ihlWords header payload
  have total := @data_totalLength header payload
  rcases (PacketDesc.ofBytes (header.frame payload)).readIpv4_cases with
    unread | ⟨data, is, checks, reads⟩
  · rw [readFrame, unread]
    rfl
  · cases is
    change PacketDesc.IsIpv4 _ (header.data payload) at checks
    have long : (PacketDesc.ofBytes (header.frame payload)).len.toNat =
        (42 + payload.length) % 2 ^ 32 := by
      simp [PacketDesc.ofBytes, header.frame_length]
    have inside := checks.total
    have noUdp : ¬ (PacketDesc.ipv4Packet (header.data payload)).HasUdp := by
      intro udp
      have room := udp.header
      simp only [PacketDesc.ipv4Packet, ihl, total] at room
      omega
    rw [readFrame, reads]
    exact Ipv4Packet.wholeFrame_eq_none noUdp

end UdpFrameHeader

/-! ## The length fields of a built frame -/

namespace FrameConfig

variable {cfg : FrameConfig} {payload : List UInt8} {seq ipcsum : UInt16}

private theorem header_udpLength :
    (cfg.header payload.length seq ipcsum).udpLength.toNat = (8 + payload.length) % 65536 :=
  UInt16.toNat_ofNat'

private theorem header_totalLength :
    (cfg.header payload.length seq ipcsum).totalLength.toNat =
      (20 + (8 + payload.length) % 65536) % 65536 := by
  have udp := @header_udpLength cfg payload seq ipcsum
  have total : (cfg.header payload.length seq ipcsum).totalLength.toNat =
      (20 + (cfg.header payload.length seq ipcsum).udpLength.toNat) % 65536 :=
    UInt16.toNat_ofNat'
  rw [total, udp]

private theorem header_read_wrapped (inside : payload.length % 65536 ≤ 65507) :
    (cfg.header payload.length seq ipcsum).read payload =
      cfg.udpFrame (payload.take (payload.length % 65536)) := by
  have udp := @header_udpLength cfg payload seq ipcsum
  have length : (8 + payload.length) % 65536 - 8 = payload.length % 65536 := by omega
  rw [UdpFrameHeader.read, udp, length]
  rfl

end FrameConfig

section Built

variable {payload : List UInt8} (cfg : FrameConfig) (seq : UInt16)

/-- Of a payload with a small remainder, as much as the length fields say is read. -/
theorem readFrame_buildEthFrame_wrapped (inside : payload.length % 65536 ≤ 65507)
    (fits : 42 + payload.length < 2 ^ 32) :
    readFrame (buildEthFrame payload cfg seq) =
      some (cfg.udpFrame (payload.take (payload.length % 65536))) := by
  obtain ⟨ipcsum, built⟩ := buildEthFrame_eq payload cfg seq
  have udp := @FrameConfig.header_udpLength cfg payload seq ipcsum
  have total := @FrameConfig.header_totalLength cfg payload seq ipcsum
  have sized : (cfg.header payload.length seq ipcsum).Sized payload := by
    constructor
    · omega
    · omega
    · omega
    · exact fits
  rw [built, ← FrameConfig.header_read_wrapped inside]
  exact sized.reads

private theorem readFrame_buildEthFrame_unread (fits : payload.length < 2 ^ 32)
    (outside : 65508 ≤ payload.length % 65536 ∨ 2 ^ 32 - 42 ≤ payload.length) :
    readFrame (buildEthFrame payload cfg seq) = none := by
  obtain ⟨ipcsum, built⟩ := buildEthFrame_eq payload cfg seq
  have total := @FrameConfig.header_totalLength cfg payload seq ipcsum
  rw [built]
  apply UdpFrameHeader.unread
  omega

private theorem buildEthFrame_readShort (short : payload.length ≤ 65507) :
    readFrame (buildEthFrame payload cfg seq) = some (cfg.udpFrame payload) :=
  buildEthFrame_reads short cfg seq

end Built

/-! ## Silent truncation -/

/-- Either decoder yields the payload with the configured addresses and ports, or
nothing, and the payload if a datagram can hold it. -/
structure DecodesUntruncated (payload : List UInt8) (cfg : FrameConfig) (seq : UInt16) : Prop where
  pushed : pushedFrames (buildEthFrame payload cfg seq) = some [cfg.udpFrame payload] ∨
    pushedFrames (buildEthFrame payload cfg seq) = some []
  adapted : ∀ adapter stats,
    adaptedFrame adapter stats (buildEthFrame payload cfg seq) = some (cfg.udpFrame payload) ∨
      adaptedFrame adapter stats (buildEthFrame payload cfg seq) = none
  short : payload.length ≤ 65507 →
    pushedFrames (buildEthFrame payload cfg seq) = some [cfg.udpFrame payload] ∧
      ∀ adapter stats,
        adaptedFrame adapter stats (buildEthFrame payload cfg seq) = some (cfg.udpFrame payload)

section Truncation

variable {payload : List UInt8} {cfg : FrameConfig} {seq : UInt16}

theorem DecodesUntruncated.of_read
    (read : readFrame (buildEthFrame payload cfg seq) = some (cfg.udpFrame payload)) :
    DecodesUntruncated payload cfg seq := by
  have unfragmented := buildEthFrame_unfragmented payload cfg seq
  have pushed := pushedFrames_eq unfragmented
  rw [read] at pushed
  have adapted (adapter : DpdkDatagramAdapter) (stats : BackendStats) :=
    (adaptedFrame_eq unfragmented adapter stats).trans read
  exact ⟨.inl pushed, fun adapter stats => .inl (adapted adapter stats), fun _ => ⟨pushed, adapted⟩⟩

theorem DecodesUntruncated.of_unread (long : 65507 < payload.length)
    (unread : readFrame (buildEthFrame payload cfg seq) = none) :
    DecodesUntruncated payload cfg seq := by
  have unfragmented := buildEthFrame_unfragmented payload cfg seq
  have pushed := pushedFrames_eq unfragmented
  rw [unread] at pushed
  have adapted (adapter : DpdkDatagramAdapter) (stats : BackendStats) :=
    (adaptedFrame_eq unfragmented adapter stats).trans unread
  exact ⟨.inr pushed, fun adapter stats => .inr (adapted adapter stats),
    fun short => absurd short (Nat.not_le.mpr long)⟩

/-- A payload that wraps to a shorter one is truncated. -/
theorem not_decodesUntruncated_of_wrapped (long : 65536 ≤ payload.length)
    (inside : payload.length % 65536 ≤ 65507) (fits : 42 + payload.length < 2 ^ 32) :
    ¬ DecodesUntruncated payload cfg seq := by
  intro decodes
  have pushed := pushedFrames_eq (buildEthFrame_unfragmented payload cfg seq)
  rw [readFrame_buildEthFrame_wrapped cfg seq inside fits] at pushed
  rcases decodes.pushed with whole | nothing
  · rw [pushed, Option.some.injEq] at whole
    have same : payload.take (payload.length % 65536) = payload :=
      congrArg UdpPayloadFrame.udpPayload (List.cons.inj whole).1
    have length := congrArg List.length same
    rw [List.length_take] at length
    omega
  · rw [pushed] at nothing
    cases nothing

end Truncation

/-- The decoders read the payload as it is, or nothing, except behind length fields that
have wrapped around to those of a smaller datagram. -/
theorem buildEthFrame_decodesUntruncated_iff (payload : List UInt8) (cfg : FrameConfig)
    (seq : UInt16) (fits : payload.length < 2 ^ 32) :
    DecodesUntruncated payload cfg seq ↔
      payload.length ≤ 65507 ∨ 65508 ≤ payload.length % 65536 ∨
        2 ^ 32 - 42 ≤ payload.length := by
  constructor
  · intro decodes
    by_contra outside
    exact not_decodesUntruncated_of_wrapped (by omega) (by omega) (by omega) decodes
  · intro condition
    by_cases short : payload.length ≤ 65507
    · exact .of_read (buildEthFrame_readShort cfg seq short)
    · refine .of_unread (Nat.not_le.mp short) (readFrame_buildEthFrame_unread cfg seq fits ?_)
      exact condition.resolve_left short

theorem buildEthFrame_decodesUntruncated_two_bytes :
    [0xAB, 0xCD].length < 2 ^ 32 ∧
      (DecodesUntruncated [0xAB, 0xCD] {} 1 ↔
        [0xAB, 0xCD].length ≤ 65507 ∨ 65508 ≤ [0xAB, 0xCD].length % 65536 ∨
          2 ^ 32 - 42 ≤ [0xAB, 0xCD].length) :=
  ⟨by decide, buildEthFrame_decodesUntruncated_iff [0xAB, 0xCD] {} 1 (by decide)⟩

/-- A payload of 65536 bytes is read as an empty datagram. -/
theorem buildEthFrame_truncates :
    (List.replicate 65536 (0 : UInt8)).length < 2 ^ 32 ∧
      pushedFrames (buildEthFrame (List.replicate 65536 0) {} 0) =
        some [FrameConfig.udpFrame {} []] ∧
      ¬ DecodesUntruncated (List.replicate 65536 0) {} 0 := by
  have length : (List.replicate 65536 (0 : UInt8)).length = 65536 := List.length_replicate
  have pushed := pushedFrames_eq (buildEthFrame_unfragmented (List.replicate 65536 0) {} 0)
  have read := @readFrame_buildEthFrame_wrapped (List.replicate 65536 0) {} 0
    (by omega) (by omega)
  refine ⟨by omega, ?_, not_decodesUntruncated_of_wrapped (by omega) (by omega) (by omega)⟩
  rw [pushed, read, length]
  rfl

end RxTech
