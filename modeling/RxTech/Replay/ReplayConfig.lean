import RxTech.Library.CommandLine
import RxTech.Library.DecimalText
import RxTech.Replay.FrameBuilder

/-!
# The command line of the replay sender

`parse_replay_args` and `parse_mac_address`, and what `main` makes of them before it loads its
entries.
-/

set_option autoImplicit false

namespace RxTech

open CommandLine (Role Use Takes render)
open DecimalText (scan)

/-! ## Addresses -/

def hexValue (char : Char) : Option Nat :=
  if '0' ≤ char && char ≤ '9' then some (char.toNat - '0'.toNat)
  else
    let char := char.toLower
    if 'a' ≤ char && char ≤ 'f' then some (10 + (char.toNat - 'a'.toNat)) else none

def macOctet (hi lo : Nat) : UInt8 := UInt8.ofNat (hi <<< 4 ||| lo)

/-- The loop of `parse_mac_address`: the octets to come, and the text at `offset`. -/
def parseOctets : Nat → List Char → Option (List UInt8)
  | 0, _ => some []
  | _ + 1, [] => none
  | _ + 1, [_] => none
  | count + 1, first :: second :: text =>
      match hexValue first, hexValue second with
      | some hi, some lo =>
          if count = 0 then some [macOctet hi lo]
          else
            match text with
            | [] => none
            | char :: text =>
                if char ≠ ':' then none
                else (parseOctets count text).map (macOctet hi lo :: ·)
      | _, _ => none

def parseMacAddress (text : String) : Option (Vector UInt8 6) :=
  if text.toList.length ≠ 17 then none
  else
    (parseOctets 6 text.toList).bind fun parsed =>
      if size : parsed.length = 6 then some ⟨parsed.toArray, size⟩ else none

/-! ## The arguments -/

structure ReplaySenderConfig where
  dataDirs : List String := []
  interface : String := ""
  destIp : String := ""
  srcIp : String := ""
  srcMac : String := ""
  dstMac : String := ""
  destPort : UInt16 := 9999
  srcPort : UInt16 := 30001
  pps : UInt32 := 1000
  loopCount : UInt32 := 1
  verbose : Bool := false
  deriving DecidableEq, Repr

/-- `std::atoi` of the GNU library: a saturated 64-bit number cut to 32 bits. -/
def atoi (text : String) : Int :=
  match scan text.toList with
  | none => 0
  | some (negative, magnitude, _) =>
      let number : Int :=
        if negative then max (-(magnitude : Int)) (-(2 ^ 63)) else min magnitude (2 ^ 63 - 1)
      number.bmod (2 ^ 32)

/-- What an option that takes a value does with it. -/
def replayPut (arg : String) : Option (ReplaySenderConfig → String → ReplaySenderConfig) :=
  if arg = "--data-dir" then some fun cfg val => { cfg with dataDirs := cfg.dataDirs ++ [val] }
  else if arg = "--iface" then some fun cfg val => { cfg with interface := val }
  else if arg = "--src-mac" then some fun cfg val => { cfg with srcMac := val }
  else if arg = "--dst-mac" then some fun cfg val => { cfg with dstMac := val }
  else if arg = "--dest-ip" then some fun cfg val => { cfg with destIp := val }
  else if arg = "--src-ip" then some fun cfg val => { cfg with srcIp := val }
  else if arg = "--dest-port" then
    some fun cfg val => { cfg with destPort := UInt16.ofInt (atoi val) }
  else if arg = "--src-port" then
    some fun cfg val => { cfg with srcPort := UInt16.ofInt (atoi val) }
  else if arg = "--pps" then some fun cfg val => { cfg with pps := UInt32.ofInt (atoi val) }
  else if arg = "--loops" then
    some fun cfg val => { cfg with loopCount := UInt32.ofInt (atoi val) }
  else none

/-- The loop of `parse_replay_args`, with the message that it prints; none for help. -/
def parseReplayLoop : List String → ReplaySenderConfig → Except String ReplaySenderConfig
  | [], cfg => .ok cfg
  | arg :: rest, cfg =>
      match replayPut arg with
      | some put =>
          match rest with
          | [] => .error (arg ++ " 需要提供参数值")
          | val :: rest => parseReplayLoop rest (put cfg val)
      | none =>
          if arg = "--verbose" then parseReplayLoop rest { cfg with verbose := true }
          else if arg = "--help" ∨ arg = "-h" then .error ""
          else .error ("未知参数: " ++ arg)

def defaultReplayConfig : ReplaySenderConfig where
  destIp := "172.20.11.100"
  srcIp := "172.20.11.222"

/-- The checks behind the loop of `parse_replay_args`. -/
def checkReplayArgs (cfg : ReplaySenderConfig) : Except String ReplaySenderConfig :=
  if cfg.dataDirs = [] then .error "错误: 至少需要提供一个 --data-dir"
  else if cfg.interface = "" then .error "错误: 必须提供 --iface"
  else if cfg.srcMac ≠ "" ∧ parseMacAddress cfg.srcMac = none then
    .error ("错误: --src-mac 格式无效: " ++ cfg.srcMac)
  else if cfg.dstMac ≠ "" ∧ parseMacAddress cfg.dstMac = none then
    .error ("错误: --dst-mac 格式无效: " ++ cfg.dstMac)
  else .ok cfg

def parseReplayArgs (words : List String) : Except String ReplaySenderConfig :=
  (parseReplayLoop words defaultReplayConfig).bind checkReplayArgs

/-- An address of the frames in `main`: the default, if the text is empty. -/
def frameMac (arg text : String) (default : Vector UInt8 6) : Except String (Vector UInt8 6) :=
  if text = "" then .ok default
  else
    match parseMacAddress text with
    | none => .error (arg ++ " 格式无效: " ++ text)
    | some parsedMac => .ok parsedMac

/-- What `main` puts into its `FrameConfig`; `ipv4` is what `sscanf` reads of an address. -/
def fillFrameConfig (ipv4 : String → Option UInt32) (cfg : ReplaySenderConfig)
    (fcfg : FrameConfig) : Except String FrameConfig :=
  let fcfg := { fcfg with
    dstIpv4Be := (ipv4 cfg.destIp).getD fcfg.dstIpv4Be
    srcIpv4Be :=
      if cfg.srcIp = "" then fcfg.srcIpv4Be else (ipv4 cfg.srcIp).getD fcfg.srcIpv4Be
    dstPort := cfg.destPort
    srcPort := cfg.srcPort }
  (frameMac "--src-mac" cfg.srcMac fcfg.srcMac).bind fun srcMac =>
    (frameMac "--dst-mac" cfg.dstMac fcfg.dstMac).map fun dstMac => { fcfg with srcMac, dstMac }

/-- `main` of the replay sender up to `load_replay_entries`, from the `FrameConfig` it declares. -/
def startReplay (ipv4 : String → Option UInt32) (fcfg : FrameConfig) (words : List String) :
    Except String (ReplaySenderConfig × FrameConfig) :=
  (parseReplayArgs words).bind fun cfg =>
    (fillFrameConfig ipv4 cfg fcfg).map fun fcfg => (cfg, fcfg)

/-! ## The texts of addresses -/

/-- Octets of two hexadecimal digits each, with colons between them. -/
inductive MacText : List UInt8 → List Char → Prop where
  | last {first second : Char} {hi lo : Nat} :
      hexValue first = some hi → hexValue second = some lo →
      MacText [macOctet hi lo] [first, second]
  | more {first second : Char} {hi lo : Nat} {octets : List UInt8} {text : List Char} :
      hexValue first = some hi → hexValue second = some lo → MacText octets text →
      MacText (macOctet hi lo :: octets) (first :: second :: ':' :: text)

theorem MacText.length {octets : List UInt8} {text : List Char} (mac : MacText octets text) :
    text.length + 1 = 3 * octets.length := by
  induction mac with
  | last => rfl
  | more _ _ _ ih =>
      simp only [List.length_cons]
      omega

theorem MacText.parse {octets : List UInt8} {text : List Char} (mac : MacText octets text) :
    parseOctets octets.length text = some octets := by
  induction mac with
  | last first_hi second_lo => simp [parseOctets, first_hi, second_lo]
  | @more first second hi lo octets text first_hi second_lo rest ih =>
      have nonempty : octets.length ≠ 0 := by
        have length := rest.length
        omega
      rw [List.length_cons, parseOctets, first_hi, second_lo]
      dsimp only
      rw [if_neg nonempty, if_neg (Classical.not_not.mpr rfl), ih]
      rfl

private theorem macText_of_parseOctets {count : Nat} {text : List Char} {octets : List UInt8}
    (parsed : parseOctets (count + 1) text = some octets) (whole : text.length = 3 * count + 2) :
    MacText octets text := by
  induction count generalizing text octets with
  | zero =>
      match text, whole with
      | [first, second], _ =>
          rw [parseOctets] at parsed
          split at parsed
          · rename_i hi lo first_hi second_lo
            cases parsed
            exact .last first_hi second_lo
          · cases parsed
  | succ count ih =>
      match text, whole with
      | first :: second :: char :: text, whole =>
          rw [parseOctets] at parsed
          split at parsed
          · rename_i hi lo first_hi second_lo
            rw [if_neg (Nat.succ_ne_zero count)] at parsed
            dsimp only at parsed
            split at parsed
            · cases parsed
            · rename_i colon
              obtain ⟨rest, read, rfl⟩ := Option.map_eq_some_iff.mp parsed
              cases Classical.not_not.mp colon
              exact .more first_hi second_lo (ih read (by simp at whole; omega))
          · cases parsed

/-- `parse_mac_address` accepts the six octets and nothing else. -/
theorem parseMacAddress_eq_some_iff {text : String} {mac : Vector UInt8 6} :
    parseMacAddress text = some mac ↔ MacText mac.toList text.toList := by
  rw [parseMacAddress]
  constructor
  · intro parsed
    split at parsed
    · cases parsed
    · rename_i sized
      obtain ⟨octets, read, six⟩ := Option.bind_eq_some_iff.mp parsed
      split at six
      · cases six
        exact macText_of_parseOctets read (Classical.not_not.mp sized)
      · cases six
  · intro address
    have size : mac.toList.length = 6 := mac.length_toList
    have length := address.length
    have parsed := address.parse
    rw [size] at length parsed
    rw [if_neg (Classical.not_not.mpr (by omega)), parsed, Option.bind_some, dif_pos size]
    rfl

/-! ## The options -/

/-- The options that take a value. -/
inductive ReplayKey where
  | dataDir
  | iface
  | srcMac
  | dstMac
  | destIp
  | srcIp
  | destPort
  | srcPort
  | pps
  | loops
  deriving DecidableEq, Repr

namespace ReplayKey

def word : ReplayKey → String
  | .dataDir => "--data-dir"
  | .iface => "--iface"
  | .srcMac => "--src-mac"
  | .dstMac => "--dst-mac"
  | .destIp => "--dest-ip"
  | .srcIp => "--src-ip"
  | .destPort => "--dest-port"
  | .srcPort => "--src-port"
  | .pps => "--pps"
  | .loops => "--loops"

def put (cfg : ReplaySenderConfig) (value : String) : ReplayKey → ReplaySenderConfig
  | .dataDir => { cfg with dataDirs := cfg.dataDirs ++ [value] }
  | .iface => { cfg with interface := value }
  | .srcMac => { cfg with srcMac := value }
  | .dstMac => { cfg with dstMac := value }
  | .destIp => { cfg with destIp := value }
  | .srcIp => { cfg with srcIp := value }
  | .destPort => { cfg with destPort := UInt16.ofInt (atoi value) }
  | .srcPort => { cfg with srcPort := UInt16.ofInt (atoi value) }
  | .pps => { cfg with pps := UInt32.ofInt (atoi value) }
  | .loops => { cfg with loopCount := UInt32.ofInt (atoi value) }

private theorem replayPut_word (key : ReplayKey) :
    replayPut key.word = some fun cfg value => key.put cfg value := by
  cases key with
  | dataDir => rfl
  | iface => rfl
  | srcMac => rfl
  | dstMac => rfl
  | destIp => rfl
  | srcIp => rfl
  | destPort => rfl
  | srcPort => rfl
  | pps => rfl
  | loops => rfl

private theorem exists_word {arg : String} {take : ReplaySenderConfig → String → ReplaySenderConfig}
    (known : replayPut arg = some take) : ∃ key : ReplayKey, arg = key.word := by
  by_contra unknown
  have apart {word : String} (key : ReplayKey) (same : word = key.word) : ¬ arg = word := by
    rintro rfl
    exact unknown ⟨key, same⟩
  rw [replayPut, if_neg (@apart "--data-dir" .dataDir rfl), if_neg (@apart "--iface" .iface rfl),
    if_neg (@apart "--src-mac" .srcMac rfl), if_neg (@apart "--dst-mac" .dstMac rfl),
    if_neg (@apart "--dest-ip" .destIp rfl), if_neg (@apart "--src-ip" .srcIp rfl),
    if_neg (@apart "--dest-port" .destPort rfl), if_neg (@apart "--src-port" .srcPort rfl),
    if_neg (@apart "--pps" .pps rfl), if_neg (@apart "--loops" .loops rfl)] at known
  cases known

end ReplayKey

/-- An option with its value. -/
inductive ReplayOption where
  | verbose
  | valued (key : ReplayKey) (value : String)
  deriving DecidableEq, Repr

namespace ReplayOption

def use : ReplayOption → Use String
  | .verbose => .flag "--verbose"
  | .valued key value => .valued key.word value

def apply (cfg : ReplaySenderConfig) : ReplayOption → ReplaySenderConfig
  | .verbose => { cfg with verbose := true }
  | .valued key value => key.put cfg value

/-- The words of several options. -/
def line (options : List ReplayOption) : List String := render (options.map use)

/-- The configuration that they come to, one after the other. -/
def config (options : List ReplayOption) : ReplaySenderConfig :=
  options.foldl apply defaultReplayConfig

end ReplayOption

/-- What a word asks for. -/
def replayRole (arg : String) : Role String ReplaySenderConfig String :=
  match replayPut arg with
  | some put => .valued (arg ++ " 需要提供参数值") fun cfg value => .ok (put cfg value)
  | none =>
      if arg = "--verbose" then .flag fun cfg => { cfg with verbose := true }
      else if arg = "--help" ∨ arg = "-h" then .refused ""
      else .refused ("未知参数: " ++ arg)

/-- The configuration, or the error that ended the reading. -/
def ReplaySenderConfig.finish :
    ReplaySenderConfig × Option String → Except String ReplaySenderConfig
  | (cfg, none) => .ok cfg
  | (_, some message) => .error message

private theorem parseReplayLoop_eq (words : List String) (cfg : ReplaySenderConfig) :
    parseReplayLoop words cfg =
      ReplaySenderConfig.finish (CommandLine.read replayRole cfg words) := by
  fun_induction parseReplayLoop words cfg with
  | case1 cfg => rfl
  | case2 cfg arg put known =>
      simp only [CommandLine.read, replayRole, known]
      rfl
  | case3 cfg arg put known value rest ih => simp only [ih, CommandLine.read, replayRole, known]
  | case4 cfg rest known ih => simp only [ih, CommandLine.read, replayRole, known, if_true]
  | case5 cfg arg rest known loud help =>
      simp only [CommandLine.read, replayRole, known, if_neg loud, if_pos help]
      rfl
  | case6 cfg arg rest known loud help =>
      simp only [CommandLine.read, replayRole, known, if_neg loud, if_neg help]
      rfl

private theorem takes_replayRole_iff {cfg last : ReplaySenderConfig} {uses : List (Use String)} :
    Takes replayRole cfg uses last ↔ ∃ options : List ReplayOption,
      uses = options.map ReplayOption.use ∧ last = options.foldl ReplayOption.apply cfg := by
  constructor
  · intro takes
    induction takes with
    | done => exact ⟨[], rfl, rfl⟩
    | @flag cfg last arg apply uses known _ ih =>
        obtain ⟨options, rfl, rfl⟩ := ih
        rw [replayRole] at known
        split at known
        · cases known
        split at known
        · rename_i loud
          cases known
          exact ⟨.verbose :: options, congrArg (Use.flag · :: _) loud, rfl⟩
        split at known
        · cases known
        · cases known
    | @valued cfg next last arg value missing apply uses known valid _ ih =>
        obtain ⟨options, rfl, rfl⟩ := ih
        rw [replayRole] at known
        split at known
        · rename_i put found
          obtain ⟨key, rfl⟩ := ReplayKey.exists_word found
          cases known
          cases found.symm.trans key.replayPut_word
          cases valid
          exact ⟨.valued key value :: options, rfl, rfl⟩
        split at known
        · cases known
        split at known
        · cases known
        · cases known
  · rintro ⟨options, rfl, rfl⟩
    induction options generalizing cfg with
    | nil => exact .done
    | cons option options ih =>
        cases option with
        | verbose => exact .flag rfl ih
        | valued key value =>
            have known : replayRole key.word = .valued (key.word ++ " 需要提供参数值")
                fun cfg value => .ok (key.put cfg value) := by
              rw [replayRole, key.replayPut_word]
            exact .valued known rfl ih

/-- The loop is through exactly with lists of options. -/
theorem parseReplayLoop_eq_ok_iff {words : List String} {cfg last : ReplaySenderConfig} :
    parseReplayLoop words cfg = .ok last ↔ ∃ options : List ReplayOption,
      words = ReplayOption.line options ∧ last = options.foldl ReplayOption.apply cfg := by
  have finished : parseReplayLoop words cfg = .ok last ↔
      CommandLine.read replayRole cfg words = (last, none) := by
    rw [parseReplayLoop_eq]
    obtain ⟨next, error⟩ := CommandLine.read replayRole cfg words
    cases error with
    | none => simp [ReplaySenderConfig.finish]
    | some error => simp [ReplaySenderConfig.finish]
  rw [finished, CommandLine.read_eq_none_iff]
  constructor
  · rintro ⟨uses, rfl, takes⟩
    obtain ⟨options, rfl, rfl⟩ := takes_replayRole_iff.mp takes
    exact ⟨options, rfl, rfl⟩
  · rintro ⟨options, rfl, rfl⟩
    exact ⟨_, rfl, takes_replayRole_iff.mpr ⟨options, rfl, rfl⟩⟩

/-! ## What `main` starts with -/

private theorem checkReplayArgs_eq_ok_iff {cfg last : ReplaySenderConfig} :
    checkReplayArgs cfg = .ok last ↔ cfg.dataDirs ≠ [] ∧ cfg.interface ≠ "" ∧
      (cfg.srcMac = "" ∨ ∃ mac, parseMacAddress cfg.srcMac = some mac) ∧
      (cfg.dstMac = "" ∨ ∃ mac, parseMacAddress cfg.dstMac = some mac) ∧ last = cfg := by
  have readable (text : String) : ¬ (text ≠ "" ∧ parseMacAddress text = none) ↔
      text = "" ∨ ∃ mac, parseMacAddress text = some mac := by
    rw [not_and_or, Classical.not_not, ← Option.ne_none_iff_exists']
  have refused (message : String) : (.error message : Except String _) ≠ .ok last := by
    intro accepted
    cases accepted
  rw [checkReplayArgs, ← readable, ← readable]
  by_cases dirs : cfg.dataDirs = []
  · rw [if_pos dirs]
    exact iff_of_false (refused _) fun given => given.1 dirs
  by_cases interface : cfg.interface = ""
  · rw [if_neg dirs, if_pos interface]
    exact iff_of_false (refused _) fun given => given.2.1 interface
  by_cases srcMac : cfg.srcMac ≠ "" ∧ parseMacAddress cfg.srcMac = none
  · rw [if_neg dirs, if_neg interface, if_pos srcMac]
    exact iff_of_false (refused _) fun given => given.2.2.1 srcMac
  by_cases dstMac : cfg.dstMac ≠ "" ∧ parseMacAddress cfg.dstMac = none
  · rw [if_neg dirs, if_neg interface, if_neg srcMac, if_pos dstMac]
    exact iff_of_false (refused _) fun given => given.2.2.2.1 dstMac
  rw [if_neg dirs, if_neg interface, if_neg srcMac, if_neg dstMac]
  constructor
  · intro checked
    cases checked
    exact ⟨dirs, interface, srcMac, dstMac, rfl⟩
  · rintro ⟨-, -, -, -, rfl⟩
    rfl

/-- An address of the frames: that of the text, or the default if there is none. -/
def IsFrameMac (text : String) (default mac : Vector UInt8 6) : Prop :=
  if text = "" then mac = default else MacText mac.toList text.toList

private theorem frameMac_eq_ok_iff {arg text : String} {default mac : Vector UInt8 6} :
    frameMac arg text default = .ok mac ↔ IsFrameMac text default mac := by
  rw [frameMac, IsFrameMac]
  by_cases empty : text = ""
  · rw [if_pos empty, if_pos empty]
    constructor
    · intro taken
      cases taken
      rfl
    · rintro rfl
      rfl
  · rw [if_neg empty, if_neg empty, ← parseMacAddress_eq_some_iff]
    cases parseMacAddress text with
    | none => simp
    | some parsedMac => simp

private theorem exists_frameMac {text : String}
    (readable : text = "" ∨ ∃ mac, parseMacAddress text = some mac) (arg : String)
    (default : Vector UInt8 6) : ∃ mac, frameMac arg text default = .ok mac := by
  rcases readable with rfl | ⟨mac, parsed⟩
  · exact ⟨default, rfl⟩
  · rw [frameMac]
    split
    · exact ⟨default, rfl⟩
    · rw [parsed]
      exact ⟨mac, rfl⟩

/-- The addresses and ports of the frames, from the configuration. -/
structure Filled (ipv4 : String → Option UInt32) (cfg : ReplaySenderConfig)
    (fcfg next : FrameConfig) : Prop where
  srcMac : IsFrameMac cfg.srcMac fcfg.srcMac next.srcMac
  dstMac : IsFrameMac cfg.dstMac fcfg.dstMac next.dstMac
  others : next = { next with
    dstIpv4Be := (ipv4 cfg.destIp).getD fcfg.dstIpv4Be
    srcIpv4Be :=
      if cfg.srcIp = "" then fcfg.srcIpv4Be else (ipv4 cfg.srcIp).getD fcfg.srcIpv4Be
    dstPort := cfg.destPort
    srcPort := cfg.srcPort }

private theorem fillFrameConfig_eq_ok_iff {ipv4 : String → Option UInt32} {cfg : ReplaySenderConfig}
    {fcfg next : FrameConfig} :
    fillFrameConfig ipv4 cfg fcfg = .ok next ↔ Filled ipv4 cfg fcfg next := by
  rw [fillFrameConfig]
  dsimp only
  constructor
  · intro filled
    cases srcMac : frameMac "--src-mac" cfg.srcMac fcfg.srcMac with
    | error message =>
        rw [srcMac] at filled
        cases filled
    | ok src =>
        cases dstMac : frameMac "--dst-mac" cfg.dstMac fcfg.dstMac with
        | error message =>
            rw [srcMac, dstMac] at filled
            cases filled
        | ok dst =>
            rw [srcMac, dstMac] at filled
            cases filled
            exact ⟨frameMac_eq_ok_iff.mp srcMac, frameMac_eq_ok_iff.mp dstMac, rfl⟩
  · rintro ⟨srcMac, dstMac, others⟩
    rw [frameMac_eq_ok_iff.mpr srcMac, frameMac_eq_ok_iff.mpr dstMac, others]
    rfl

theorem IsFrameMac.readable {text : String} {default mac : Vector UInt8 6}
    (isMac : IsFrameMac text default mac) :
    text = "" ∨ ∃ mac, parseMacAddress text = some mac := by
  rw [IsFrameMac] at isMac
  split at isMac
  · exact .inl ‹_›
  · exact .inr ⟨mac, parseMacAddress_eq_some_iff.mpr isMac⟩

private theorem parseReplayArgs_eq_ok_iff {words : List String} {cfg : ReplaySenderConfig} :
    parseReplayArgs words = .ok cfg ↔
      (∃ options, words = ReplayOption.line options ∧ cfg = ReplayOption.config options) ∧
        cfg.dataDirs ≠ [] ∧ cfg.interface ≠ "" ∧
        (cfg.srcMac = "" ∨ ∃ mac, parseMacAddress cfg.srcMac = some mac) ∧
        (cfg.dstMac = "" ∨ ∃ mac, parseMacAddress cfg.dstMac = some mac) := by
  rw [parseReplayArgs]
  constructor
  · intro parsed
    cases looped : parseReplayLoop words defaultReplayConfig with
    | error message =>
        rw [looped] at parsed
        cases parsed
    | ok read =>
        rw [looped] at parsed
        obtain ⟨dirs, interface, src, dst, rfl⟩ := checkReplayArgs_eq_ok_iff.mp parsed
        exact ⟨parseReplayLoop_eq_ok_iff.mp looped, dirs, interface, src, dst⟩
  · rintro ⟨options, dirs, interface, src, dst⟩
    rw [parseReplayLoop_eq_ok_iff.mpr options]
    exact checkReplayArgs_eq_ok_iff.mpr ⟨dirs, interface, src, dst, rfl⟩

/-- The arguments that are accepted have addresses that `main` can read. -/
theorem exists_fillFrameConfig (ipv4 : String → Option UInt32) (fcfg : FrameConfig)
    {words : List String} {cfg : ReplaySenderConfig} (parsed : parseReplayArgs words = .ok cfg) :
    ∃ next, fillFrameConfig ipv4 cfg fcfg = .ok next := by
  obtain ⟨-, -, -, src, dst⟩ := parseReplayArgs_eq_ok_iff.mp parsed
  obtain ⟨srcMac, srcTaken⟩ := exists_frameMac src "--src-mac" fcfg.srcMac
  obtain ⟨dstMac, dstTaken⟩ := exists_frameMac dst "--dst-mac" fcfg.dstMac
  rw [fillFrameConfig]
  dsimp only
  rw [srcTaken, dstTaken]
  exact ⟨_, rfl⟩

/-- The replay sender starts exactly with a list of options that names a directory and an
interface, and addresses of six octets if any; `main` itself never refuses an address. -/
theorem replay_args_iff (ipv4 : String → Option UInt32) (fcfg : FrameConfig)
    (words : List String) :
    (∀ cfg next, startReplay ipv4 fcfg words = .ok (cfg, next) ↔
      (∃ options, words = ReplayOption.line options ∧ cfg = ReplayOption.config options) ∧
        cfg.dataDirs ≠ [] ∧ cfg.interface ≠ "" ∧ Filled ipv4 cfg fcfg next) ∧
    ∀ message, startReplay ipv4 fcfg words = .error message ↔
      parseReplayArgs words = .error message := by
  rw [startReplay]
  cases parsed : parseReplayArgs words with
  | error found =>
      constructor
      · intro cfg next
        constructor
        · intro started
          cases started
        · rintro ⟨options, dirs, interface, filled⟩
          have accepted := parseReplayArgs_eq_ok_iff.mpr
            ⟨options, dirs, interface, filled.srcMac.readable, filled.dstMac.readable⟩
          cases parsed.symm.trans accepted
      · intro message
        constructor
        · intro failed
          cases failed
          rfl
        · intro failed
          cases failed
          rfl
  | ok read =>
      obtain ⟨frames, taken⟩ := exists_fillFrameConfig ipv4 fcfg parsed
      have started : (Except.ok read).bind (fun cfg =>
          (fillFrameConfig ipv4 cfg fcfg).map fun fcfg => (cfg, fcfg)) =
            (.ok (read, frames) : Except String (ReplaySenderConfig × FrameConfig)) := by
        rw [Except.bind, taken]
        rfl
      rw [started]
      constructor
      · intro cfg next
        constructor
        · intro same
          cases same
          obtain ⟨options, dirs, interface, -, -⟩ := parseReplayArgs_eq_ok_iff.mp parsed
          exact ⟨options, dirs, interface, fillFrameConfig_eq_ok_iff.mp taken⟩
        · rintro ⟨options, dirs, interface, filled⟩
          have accepted := parseReplayArgs_eq_ok_iff.mpr
            ⟨options, dirs, interface, filled.srcMac.readable, filled.dstMac.readable⟩
          cases parsed.symm.trans accepted
          cases taken.symm.trans (fillFrameConfig_eq_ok_iff.mpr filled)
          rfl
      · intro message
        constructor
        · intro failed
          cases failed
        · intro failed
          cases failed

end RxTech
