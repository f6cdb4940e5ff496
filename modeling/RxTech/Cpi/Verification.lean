import RxTech.Cpi.Adjudication

/-!
# Verification of an output

`CpiVerifier::verify`, and when an output passes.
-/

set_option autoImplicit false

namespace RxTech

namespace CpiVerifyError

def kNone : Nat := 0
def kAbnormalFinalize : Nat := 1 <<< 0
def kPrematureFinalize : Nat := 1 <<< 1
def kMissingPrt : Nat := 1 <<< 2
def kChannelCoverage : Nat := 1 <<< 3
def kMissingPacket : Nat := 1 <<< 4
def kDuplicatePacket : Nat := 1 <<< 5

end CpiVerifyError

/-- The result while `verify` works on it; `reasons` is what it has added to the text. -/
structure CpiVerification where
  errorFlags : Nat := CpiVerifyError.kNone
  reasons : List String := []
  missingPrtCount : Nat := 0
  badChannelPrtCount : Nat := 0
  deriving DecidableEq, Repr

structure CpiVerificationResult where
  passed : Bool := false
  errorFlags : Nat := CpiVerifyError.kNone
  reasonText : String := ""
  missingSlotCount : Nat := 0
  duplicateCount : Nat := 0
  missingPrtCount : Nat := 0
  badChannelPrtCount : Nat := 0
  deriving DecidableEq, Repr

namespace CpiVerification

def addError (result : CpiVerification) (flag : Nat) (reason : String) : CpiVerification :=
  { result with
    errorFlags := result.errorFlags ||| flag
    reasons := result.reasons ++ [reason] }

/-- An error that may be found several times but is reported once. -/
def addErrorOnce (result : CpiVerification) (flag : Nat) (reason : String) : CpiVerification :=
  if Bits.hasAny result.errorFlags flag then result else result.addError flag reason

def checkDecision (output : CpiOutput) (result : CpiVerification) : CpiVerification :=
  match output.decision with
  | .abnormalCutoffCommit =>
      result.addError CpiVerifyError.kAbnormalFinalize "decision is ABNORMAL_CUTOFF_COMMIT"
  | .incompleteButCommittable =>
      result.addError CpiVerifyError.kPrematureFinalize
        "decision is INCOMPLETE_BUT_COMMITTABLE (premature finalize)"
  | .completeOk => result
  | .discardInvalid =>
      result.addError CpiVerifyError.kAbnormalFinalize "decision is not COMPLETE_OK"

def checkMissing (output : CpiOutput) (result : CpiVerification) : CpiVerification :=
  if output.missingSlotCount > 0 then
    result.addError CpiVerifyError.kMissingPacket "missing_slot_count > 0"
  else result

def checkDuplicates (output : CpiOutput) (result : CpiVerification) : CpiVerification :=
  if output.duplicateCount > 0 then
    result.addError CpiVerifyError.kDuplicatePacket "duplicate_count > 0"
  else result

def expectedPrtCount (output : CpiOutput) : Nat :=
  if output.control.valid = true ∧ output.control.nPrt > 0 then output.control.nPrt
  else output.view.nPrt

def checkPrtCount (output : CpiOutput) (result : CpiVerification) : CpiVerification :=
  let expected := expectedPrtCount output
  if output.readyPrtCount < expected then
    { result with missingPrtCount := expected - output.readyPrtCount }.addError
      CpiVerifyError.kMissingPrt "ready_prt_count < expected n_prt"
  else result

def expectedCh (spec : ProtocolSpec) (output : CpiOutput) : Nat :=
  if output.control.channelCount > 0 then output.control.channelCount else u16 spec.channelsPerPrt

def expectedPkt (spec : ProtocolSpec) (output : CpiOutput) : Nat :=
  if output.control.packetsPerChannel > 0 then output.control.packetsPerChannel
  else u16 spec.packetsPerChannel

def checkChannel (expectedPkt : Nat) (prt : PrtSummary) (result : CpiVerification) (ch : Nat) :
    CpiVerification :=
  if prt.chRecvCount ch < expectedPkt then
    result.addErrorOnce CpiVerifyError.kMissingPacket
      "one or more channels have fewer packets than expected"
  else result

def checkCoverage (expectedCh : Nat) (prt : PrtSummary) (result : CpiVerification) :
    CpiVerification :=
  if prt.readyChannelCount < expectedCh then
    { result with badChannelPrtCount := result.badChannelPrtCount + 1 }.addErrorOnce
      CpiVerifyError.kChannelCoverage "one or more PRTs have incomplete channel coverage"
  else result

def checkPrt (expectedCh expectedPkt : Nat) (result : CpiVerification) (prt : PrtSummary) :
    CpiVerification :=
  let result := checkCoverage expectedCh prt result
  if expectedPkt > 0 then
    (List.range (min expectedCh kCpiMaxChannelCount)).foldl (checkChannel expectedPkt prt) result
  else result

/-- The checks of the summaries; a null pointer is `none`. -/
def checkPrts (spec : ProtocolSpec) (output : CpiOutput)
    (prtSummary : Option (Nat → PrtSummary)) (result : CpiVerification) : CpiVerification :=
  match prtSummary with
  | none => result
  | some summary =>
      ((List.range (expectedPrtCount output)).map summary).foldl
        (checkPrt (expectedCh spec output) (expectedPkt spec output)) result

end CpiVerification

open CpiVerification in
/-- `CpiVerifier::verify`; `prtSummary` is what `output.view.prt_summary` points to. -/
def CpiVerifier.verify (output : CpiOutput) (prtSummary : Option (Nat → PrtSummary))
    (spec : ProtocolSpec) : CpiVerificationResult :=
  let result : CpiVerification := {}
  let result := checkDecision output result
  let result := checkMissing output result
  let result := checkDuplicates output result
  let result := checkPrtCount output result
  let result := checkPrts spec output prtSummary result
  let passed := result.errorFlags == CpiVerifyError.kNone
  { passed
    errorFlags := result.errorFlags
    reasonText := if passed then "" else "; ".intercalate result.reasons
    missingSlotCount := output.missingSlotCount
    duplicateCount := output.duplicateCount
    missingPrtCount := result.missingPrtCount
    badChannelPrtCount := result.badChannelPrtCount }

/-! ## When an output passes -/

namespace CpiVerification

/-- No error has been found yet. -/
def Clean (result : CpiVerification) : Prop := result.errorFlags = CpiVerifyError.kNone

/-- A check leaves the result clean if it was and `holds`. -/
def Checks (check : CpiVerification → CpiVerification) (holds : Prop) : Prop :=
  ∀ result, (check result).Clean ↔ result.Clean ∧ holds

variable {output : CpiOutput} {spec : ProtocolSpec}

private theorem not_clean_addError {result : CpiVerification} {flag : Nat} (nonzero : flag ≠ 0)
    (reason : String) : ¬ (result.addError flag reason).Clean := by
  intro clean
  exact nonzero (Nat.or_eq_zero_iff.mp clean).2

private theorem not_clean_addErrorOnce {result : CpiVerification} {flag : Nat} (nonzero : flag ≠ 0)
    (reason : String) : ¬ (result.addErrorOnce flag reason).Clean := by
  simp only [addErrorOnce]
  split
  · rename_i found
    intro clean
    rw [show result.errorFlags = 0 from clean] at found
    simp [Bits.hasAny] at found
  · exact not_clean_addError nonzero reason

private theorem checks_if {condition : Prop} [Decidable condition]
    {report : CpiVerification → CpiVerification} (reports : ∀ result, ¬ (report result).Clean) :
    Checks (fun result => if condition then report result else result) (¬ condition) := by
  intro result
  by_cases bad : condition
  · simp [bad, reports]
  · simp [bad]

private theorem checkDecision_checks :
    Checks (checkDecision output) (output.decision = .completeOk) := by
  intro result
  cases decision : output.decision with
  | completeOk => simp [checkDecision, decision]
  | incompleteButCommittable | abnormalCutoffCommit | discardInvalid =>
      simp [checkDecision, decision, not_clean_addError, CpiVerifyError.kAbnormalFinalize,
        CpiVerifyError.kPrematureFinalize]

theorem Checks.comp {first second : CpiVerification → CpiVerification} {holds also : Prop}
    (checks : Checks first holds) (next : Checks second also) :
    Checks (fun result => second (first result)) (holds ∧ also) := by
  intro result
  rw [next, checks, and_assoc]

theorem Checks.congr {check : CpiVerification → CpiVerification} {holds same : Prop}
    (checks : Checks check holds) (iff : holds ↔ same) : Checks check same := fun result => by
  rw [checks, iff]

private theorem checks_foldl {α : Type} {check : CpiVerification → α → CpiVerification}
    {ok : α → Prop}
    (checks : ∀ value, Checks (check · value) (ok value)) (values : List α) :
    Checks (values.foldl check) (∀ value ∈ values, ok value) := by
  intro result
  induction values generalizing result with
  | nil => simp
  | cons value rest ih =>
      have first : (check result value).Clean ↔ result.Clean ∧ ok value := checks value result
      simp only [List.foldl_cons, ih, first, List.forall_mem_cons, and_assoc]

private theorem checkMissing_checks : Checks (checkMissing output) (output.missingSlotCount = 0) :=
  (checks_if fun _ => not_clean_addError (by decide) _).congr (by omega)

private theorem checkDuplicates_checks :
    Checks (checkDuplicates output) (output.duplicateCount = 0) :=
  (checks_if fun _ => not_clean_addError (by decide) _).congr (by omega)

private theorem checkPrtCount_checks :
    Checks (checkPrtCount output) (expectedPrtCount output ≤ output.readyPrtCount) :=
  (checks_if fun _ => not_clean_addError (by decide) _).congr (by omega)

private theorem checkCoverage_checks (expectedCh : Nat) (prt : PrtSummary) :
    Checks (checkCoverage expectedCh prt) (expectedCh ≤ prt.readyChannelCount) :=
  (checks_if fun _ => not_clean_addErrorOnce (by decide) _).congr (by omega)

private theorem checkChannel_checks (expectedPkt : Nat) (prt : PrtSummary) (ch : Nat) :
    Checks (checkChannel expectedPkt prt · ch) (expectedPkt ≤ prt.chRecvCount ch) :=
  (checks_if fun _ => not_clean_addErrorOnce (by decide) _).congr (by omega)

/-- Every channel of a PRT is ready and has its packets. -/
def CoversPrt (expectedCh expectedPkt : Nat) (prt : PrtSummary) : Prop :=
  expectedCh ≤ prt.readyChannelCount ∧
    ∀ ch < min expectedCh kCpiMaxChannelCount, expectedPkt ≤ prt.chRecvCount ch

private theorem checkPrt_checks (expectedCh expectedPkt : Nat) (prt : PrtSummary) :
    Checks (checkPrt expectedCh expectedPkt · prt) (CoversPrt expectedCh expectedPkt prt) := by
  have coverage := checkCoverage_checks expectedCh prt
  by_cases counts : expectedPkt > 0
  · have channels := checks_foldl (checkChannel_checks expectedPkt prt)
      (List.range (min expectedCh kCpiMaxChannelCount))
    simp only [List.mem_range] at channels
    intro result
    simp only [checkPrt, if_pos counts]
    exact coverage.comp channels result
  · intro result
    simp only [checkPrt, if_neg counts, CoversPrt]
    rw [coverage result]
    have none : expectedPkt = 0 := by omega
    simp [none]

private theorem checkPrts_checks (prtSummary : Option (Nat → PrtSummary)) :
    Checks (checkPrts spec output prtSummary)
      (∀ summary ∈ prtSummary, ∀ index < expectedPrtCount output,
        CoversPrt (expectedCh spec output) (expectedPkt spec output) (summary index)) := by
  cases prtSummary with
  | none => exact fun result => by simp [checkPrts]
  | some summary =>
      apply (checks_foldl (checkPrt_checks _ _) _).congr
      simp

end CpiVerification

open CpiVerification in
/-- An output passes exactly if every check finds nothing. -/
theorem CpiVerifier.verify_passed_iff (output : CpiOutput) (prtSummary : Option (Nat → PrtSummary))
    (spec : ProtocolSpec) :
    (CpiVerifier.verify output prtSummary spec).passed = true ↔
      output.decision = .completeOk ∧ output.missingSlotCount = 0 ∧ output.duplicateCount = 0 ∧
        expectedPrtCount output ≤ output.readyPrtCount ∧
        ∀ summary ∈ prtSummary, ∀ index < expectedPrtCount output,
          CoversPrt (expectedCh spec output) (expectedPkt spec output) (summary index) := by
  have decision := @checkDecision_checks output
  have counted := (decision.comp (@checkMissing_checks output)).comp (@checkDuplicates_checks output)
  have checks := (counted.comp (@checkPrtCount_checks output)).comp
    (@checkPrts_checks output spec prtSummary)
  have clean : CpiVerification.Clean {} := rfl
  rw [CpiVerifier.verify, beq_iff_eq]
  apply (checks {}).trans
  simp only [clean, true_and, and_assoc]

end RxTech
