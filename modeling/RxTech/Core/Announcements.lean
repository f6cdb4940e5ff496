import RxTech.Core.Staging
import RxTech.Core.WindowHistory
import Mathlib.Logic.Function.Basic

/-!
# Who heard which announcements

A ledger of the legal control packets of one CPI. It watches a run: what a control
packet announces is heard by the windows that hold the CPI, or by the next window
that is opened for it.
-/

set_option autoImplicit false

namespace RxTech

/-- The PRT count of a legal control packet, and the largest PRT that the context had
received when it came. -/
structure Announcement where
  nPrt : Nat
  observed : Nat
  deriving DecidableEq, Repr

/-- The announcements that no context has heard yet, and those that the context of an
opening has heard. -/
structure Ledger where
  awaiting : List Announcement := []
  heard : Nat → List Announcement := fun _ => []

namespace Ledger

def hear (ledger : Ledger) (nPrt : Nat) (ctx : CpiContext) : Ledger :=
  { ledger with
    heard := Function.update ledger.heard ctx.birth
      (ledger.heard ctx.birth ++ [⟨nPrt, ctx.header.observedNPrt⟩]) }

theorem hear_own (ledger : Ledger) (nPrt : Nat) (ctx : CpiContext) :
    (ledger.hear nPrt ctx).heard ctx.birth =
      ledger.heard ctx.birth ++ [⟨nPrt, ctx.header.observedNPrt⟩] :=
  Function.update_self ..

theorem hear_other (ledger : Ledger) (nPrt : Nat) {ctx : CpiContext} {birth : Nat}
    (apart : birth ≠ ctx.birth) : (ledger.hear nPrt ctx).heard birth = ledger.heard birth :=
  Function.update_of_ne apart ..

def keep (ledger : Ledger) (nPrt : Nat) : Ledger :=
  { ledger with awaiting := ledger.awaiting ++ [⟨nPrt, 0⟩] }

/-- A control packet comes. -/
def announce (spec : ProtocolSpec) (cpiId : UInt16) (w : Windows) (parsed : ParsedPacketView)
    (ledger : Ledger) : Ledger :=
  if ValidControl parsed ∧ LegalControl spec parsed ∧ parsed.cpi = cpiId then
    match Windows.holding w.active cpiId, Windows.holding w.previous cpiId with
    | none, none => ledger.keep parsed.prt
    | some ctx, none | none, some ctx => ledger.hear parsed.prt ctx
    | some active, some previous => (ledger.hear parsed.prt active).hear parsed.prt previous
  else ledger

/-- A context of the CPI hears what has been announced since the last one. -/
def opened (cpiId : UInt16) (ledger : Ledger) (ctx : CpiContext) : Ledger :=
  if ctx.header.cpiId = cpiId then
    { awaiting := [], heard := Function.update ledger.heard ctx.birth ledger.awaiting }
  else ledger

theorem opened_own (ledger : Ledger) {cpiId : UInt16} {ctx : CpiContext}
    (own : ctx.header.cpiId = cpiId) :
    (ledger.opened cpiId ctx).awaiting = [] ∧
      (ledger.opened cpiId ctx).heard ctx.birth = ledger.awaiting ∧
      ∀ birth, birth ≠ ctx.birth → (ledger.opened cpiId ctx).heard birth = ledger.heard birth := by
  rw [opened, if_pos own]
  exact ⟨rfl, Function.update_self .., fun birth apart => Function.update_of_ne apart ..⟩

theorem opened_other (ledger : Ledger) {cpiId : UInt16} {ctx : CpiContext}
    (other : ctx.header.cpiId ≠ cpiId) : ledger.opened cpiId ctx = ledger := if_neg other

/-- What the ledger records of one operation. -/
def note (spec : ProtocolSpec) (cpiId : UInt16) (s : System) (op : Op) (next : System)
    (ledger : Ledger) : Ledger :=
  match op with
  | .control parsed => ledger.announce spec cpiId s.windows parsed
  | .data _ _ | .timeout _ | .drainRecycle | .consumer | .shutdown =>
      ((openedContexts next.windowLog).drop (openedContexts s.windowLog).length).foldl
        (opened cpiId) ledger

end Ledger

/-- The first announcement wins, and a disagreement is recorded. -/
def FirstWins (control : ControlSnapshot) (heard : List Announcement) : Prop :=
  ∀ first ∈ heard.head?, ∀ one ∈ heard, ∀ other ∈ heard, one.nPrt ≠ other.nPrt →
    control.conflict = true ∧ (first.observed ≤ first.nPrt → control.nPrt = first.nPrt)

/-- What a context is bound to after what it has heard. -/
inductive Heeds (control : ControlSnapshot) : List Announcement → Prop where
  | fixed (source : control.bindSource = .fixed) : Heeds control []
  | provisional {heard : List Announcement} (source : control.bindSource = .provisional)
      (below : ∀ one ∈ heard, one.nPrt < one.observed)
      (marked : heard ≠ [] → control.conflict = true) : Heeds control heard
  | bound (source : control.bindSource = .control) (valid : control.valid = true)
      (first : Announcement) (rest : List Announcement)
      (differ : ∀ one ∈ first :: rest, one.nPrt ≠ control.nPrt → control.conflict = true)
      (wins : first.observed ≤ first.nPrt → control.nPrt = first.nPrt) :
      Heeds control (first :: rest)

theorem Heeds.of_uncontrolled {control : ControlSnapshot} (other : control.bindSource ≠ .control) :
    Heeds control [] := by
  cases source : control.bindSource with
  | fixed => exact .fixed source
  | provisional => exact .provisional source (by simp) (by simp)
  | control => exact absurd source other

theorem Heeds.firstWins {control : ControlSnapshot} {heard : List Announcement}
    (heeds : Heeds control heard) : FirstWins control heard := by
  intro first isFirst one isOne other isOther differ
  cases heeds with
  | fixed source => cases isOne
  | provisional source below marked =>
      have earliest := below first (List.mem_of_mem_head? isFirst)
      exact ⟨marked (List.ne_nil_of_mem isOne), fun enough => by omega⟩
  | bound source valid head rest conflicts wins =>
      obtain rfl : head = first := by simpa using isFirst
      refine ⟨?_, wins⟩
      by_cases same : one.nPrt = control.nPrt
      · exact conflicts other isOther fun also => differ (same.trans also.symm)
      · exact conflicts one isOne same

/-- The context hears another announcement, unless it would converge to it after an
earlier one. -/
theorem Heeds.merge {spec : ProtocolSpec} {ctx : CpiContext} {heard : List Announcement}
    {parsed : ParsedPacketView} (heeds : Heeds ctx.control heard)
    (legal : LegalControl spec parsed)
    (converges : ctx.control.bindSource = .provisional →
      ctx.header.observedNPrt ≤ parsed.prt → heard = []) :
    Heeds (mergeControlSnapshot ctx (makeControlSnapshot parsed spec)).control
      (heard ++ [⟨parsed.prt, ctx.header.observedNPrt⟩]) := by
  have candidate := makeControlSnapshot_legal legal
  have converged : Heeds (makeControlSnapshot parsed spec)
      ([] ++ [⟨parsed.prt, ctx.header.observedNPrt⟩]) := by
    rw [candidate]
    exact .bound rfl rfl _ [] (by simp) (fun _ => rfl)
  generalize makeControlSnapshot parsed spec = snapshot at candidate converged ⊢
  have source : snapshot.bindSource = .control := by rw [candidate]; rfl
  have usable : snapshot.valid = true := by rw [candidate]
  have count : snapshot.nPrt = parsed.prt := by rw [candidate]
  cases heeds with
  | fixed fixed =>
      simp only [mergeControlSnapshot, fixed, source, usable, reduceCtorEq, if_false, and_self,
        if_true, bindControlSnapshot_control]
      exact converged
  | provisional provisional below marked =>
      simp only [mergeControlSnapshot, provisional, canConvergeToControl, source, usable, count,
        reduceCtorEq, if_false, if_true, true_and, and_self, decide_eq_true_eq]
      split
      · rename_i enough
        rw [converges provisional enough, bindControlSnapshot_control]
        exact converged
      · rename_i few
        refine .provisional rfl ?_ (fun _ => rfl)
        intro one member
        rcases List.mem_append.mp member with old | new
        · exact below one old
        · rw [List.mem_singleton.mp new]
          exact Nat.lt_of_not_le few
  | bound bound valid first rest differ wins =>
      simp only [mergeControlSnapshot, bound, valid, source, usable, count, if_true, true_and]
      split
      · exact .bound rfl rfl first _ (fun _ _ _ => rfl) wins
      · rename_i same
        have same : ctx.control.nPrt = parsed.prt := by simpa using same
        refine .bound bound valid first _ (fun one member other => ?_) wins
        rcases List.mem_append.mp (List.cons_append ▸ member) with old | new
        · exact differ one old other
        · rw [List.mem_singleton.mp new] at other
          exact absurd same.symm other

theorem Heeds.merge_illegal {spec : ProtocolSpec} {ctx : CpiContext} {heard : List Announcement}
    {parsed : ParsedPacketView} (heeds : Heeds ctx.control heard)
    (illegal : ¬ LegalControl spec parsed) :
    Heeds (mergeControlSnapshot ctx (makeControlSnapshot parsed spec)).control heard := by
  have candidate := makeControlSnapshot_illegal illegal
  have source : (makeControlSnapshot parsed spec).bindSource = .fixed := by rw [candidate]; rfl
  cases heeds with
  | fixed fixed =>
      simp only [mergeControlSnapshot, fixed, source, reduceCtorEq, if_false, false_and]
      split
      · rw [bindControlSnapshot_control]
        exact .fixed source
      · exact .fixed fixed
  | provisional provisional below marked =>
      simp only [mergeControlSnapshot, provisional, canConvergeToControl, source, reduceCtorEq,
        if_false, if_true, false_and, decide_false, Bool.false_eq_true]
      exact .provisional provisional below marked
  | bound bound valid first rest differ wins =>
      simp only [mergeControlSnapshot, bound, source, reduceCtorEq, if_false, if_true, false_and]
      exact .bound bound valid first rest differ wins

end RxTech
