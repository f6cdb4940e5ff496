import RxTech.Core.Announcements
import RxTech.Core.StorageProperties

/-!
# First legal control binding wins

Every output of a CPI is bound to the first legal announcement and marks any other
one as a conflict, as long as the staging slot hands the announcements over and a
provisional context converges to none but the first.
-/

set_option autoImplicit false

namespace RxTech

private theorem selectOpenSnapshot_cpiId (cpiId : UInt16) (spec : ProtocolSpec)
    (staged : ControlSnapshot) : (selectOpenSnapshot cpiId spec staged).cpiId = cpiId := by
  unfold selectOpenSnapshot
  split
  · rfl
  split
  · rename_i use
    exact use.1
  · rfl

/-- The staging slot holds the snapshot of `cpiId` that was announced, and nothing of
an earlier announcement. -/
structure Ledger.Settled (cpiId : UInt16) (staged : ControlSnapshot) (ledger : Ledger) : Prop where
  agree : ∀ one ∈ ledger.awaiting, ∀ other ∈ ledger.awaiting, one.nPrt = other.nPrt
  staged : ledger.awaiting ≠ [] ↔ staged.cpiId = cpiId ∧ staged.bindSource = .control

/-- A provisional context that could converge to `nPrt` has not heard anything before. -/
def Ledger.Converges (nPrt : Nat) (ctx : CpiContext) (ledger : Ledger) : Prop :=
  ctx.control.bindSource = .provisional → ctx.header.observedNPrt ≤ nPrt →
    ledger.heard ctx.birth = []

namespace Windows

variable {spec : ProtocolSpec} {cpiId : UInt16}

/-- What goes wrong with announcements does not happen: a legal control packet of the
CPI does not find it in both windows, and no provisional context converges to it after
it has heard another; a packet that opens a window for the CPI finds what was announced
in the staging slot. -/
def KeepsAnnouncements (spec : ProtocolSpec) (cpiId : UInt16) (w : Windows) (ledger : Ledger) :
    Op → Prop
  | .control parsed => ValidControl parsed → LegalControl spec parsed → parsed.cpi = cpiId →
      (holding w.active cpiId = none ∨ holding w.previous cpiId = none) ∧
        (∀ ctx ∈ holding w.active cpiId, ledger.Converges parsed.prt ctx) ∧
        ∀ ctx ∈ holding w.previous cpiId, ledger.Converges parsed.prt ctx
  | .data parsed _ => parsed.cpi = cpiId → w.OpensFor parsed →
      ledger.Settled cpiId w.currentControl
  | .timeout _ | .drainRecycle | .consumer | .shutdown => True

instance (cpiId : UInt16) (staged : ControlSnapshot) (ledger : Ledger) :
    Decidable (ledger.Settled cpiId staged) :=
  decidable_of_iff
    ((∀ one ∈ ledger.awaiting, ∀ other ∈ ledger.awaiting, one.nPrt = other.nPrt) ∧
      (ledger.awaiting ≠ [] ↔ staged.cpiId = cpiId ∧ staged.bindSource = .control))
    ⟨fun both => ⟨both.1, both.2⟩, fun settled => ⟨settled.agree, settled.staged⟩⟩

instance (nPrt : Nat) (ctx : CpiContext) (ledger : Ledger) :
    Decidable (ledger.Converges nPrt ctx) :=
  inferInstanceAs (Decidable (_ → _ → _))

instance (spec : ProtocolSpec) (cpiId : UInt16) (w : Windows) (ledger : Ledger) (op : Op) :
    Decidable (w.KeepsAnnouncements spec cpiId ledger op) :=
  match op with
  | .control parsed => inferInstanceAs (Decidable (ValidControl parsed → LegalControl spec parsed →
      parsed.cpi = cpiId → (holding w.active cpiId = none ∨ holding w.previous cpiId = none) ∧
        (∀ ctx ∈ holding w.active cpiId, ledger.Converges parsed.prt ctx) ∧
        ∀ ctx ∈ holding w.previous cpiId, ledger.Converges parsed.prt ctx))
  | .data parsed _ => inferInstanceAs (Decidable (parsed.cpi = cpiId → w.OpensFor parsed →
      ledger.Settled cpiId w.currentControl))
  | .timeout _ | .drainRecycle | .consumer | .shutdown => isTrue trivial

/-- The windows of the CPI heed what the ledger says they have heard, and so did
every output. -/
structure Heeded (cpiId : UInt16) (w : Windows) (ledger : Ledger) : Prop where
  named : ∀ ctx, w.Holds ctx → ctx.control.cpiId = ctx.header.cpiId
  absent : ledger.awaiting ≠ [] → ∀ ctx, w.Holds ctx → ctx.header.cpiId ≠ cpiId
  staged : ∀ last ∈ ledger.awaiting.getLast?, w.currentControl.cpiId = cpiId →
    w.currentControl.bindSource = .control →
    w.currentControl.nPrt = last.nPrt ∧ w.currentControl.valid = true
  heard : ∀ ctx, w.Holds ctx → ctx.header.cpiId = cpiId →
    Heeds ctx.control (ledger.heard ctx.birth)
  outputs : ∀ output ctx delivery, .produced output ctx delivery ∈ w.log →
    output.cpiId = cpiId → FirstWins output.control (ledger.heard ctx.birth)

theorem Heeded.carry {before after : Windows} {ledger : Ledger}
    (heeded : before.Heeded cpiId ledger) (carries : Carries before after) :
    after.Heeded cpiId ledger := by
  have parts {ctx old : CpiContext} (label : ctx.label = old.label) :
      ctx.header.cpiId = old.header.cpiId ∧ ctx.birth = old.birth ∧ ctx.control = old.control := by
    simpa only [CpiContext.label, Prod.mk.injEq] using label
  refine ⟨fun ctx holds => ?_, fun waiting ctx holds => ?_, ?_, fun ctx holds own => ?_, ?_⟩
  · obtain ⟨old, held, label⟩ := carries.holds holds
    obtain ⟨cpi, -, control⟩ := parts label
    rw [cpi, control]
    exact heeded.named old held
  · obtain ⟨old, held, label⟩ := carries.holds holds
    rw [(parts label).1]
    exact heeded.absent waiting old held
  · rw [carries.control]
    exact heeded.staged
  · obtain ⟨old, held, label⟩ := carries.holds holds
    obtain ⟨cpi, birth, control⟩ := parts label
    rw [birth, control]
    exact heeded.heard old held (cpi.symm.trans own)
  · intro output ctx delivery member own
    obtain ⟨events, log, about⟩ := carries.events
    rw [log] at member
    rcases List.mem_append.mp member with old | new
    · exact heeded.outputs output ctx delivery old own
    · have reports := about _ new
      obtain ⟨old, held, label⟩ := reports.window
      obtain ⟨cpi, birth, control⟩ : ctx.header.cpiId = old.header.cpiId ∧
        ctx.birth = old.birth ∧ ctx.control = old.control := parts label
      obtain ⟨sameCpi, sameControl⟩ := reports.output output ctx delivery rfl
      have wins := (heeded.heard old held (cpi.symm.trans (sameCpi.symm.trans own))).firstWins
      rw [sameControl, control, birth]
      exact wins

/-- The outputs made so far heed what they heard, whatever the windows hear next. -/
theorem Heeded.outputs_kept {w : Windows} {ledger next : Ledger} (heeded : w.Heeded cpiId ledger)
    (archives : w.Archives spec) {event : WindowEvent} (undelivered : event.delivery = none)
    (same : ∀ birth, w.Gone birth → next.heard birth = ledger.heard birth) :
    ∀ output ctx delivery, .produced output ctx delivery ∈ w.log ++ [event] →
      output.cpiId = cpiId → FirstWins output.control (next.heard ctx.birth) := by
  intro output ctx delivery member own
  rcases List.mem_append.mp member with old | new
  · rw [same ctx.birth (archives output ctx delivery old).2]
    exact heeded.outputs output ctx delivery old own
  · rw [← List.mem_singleton.mp new] at undelivered
    cases undelivered

/-! ## Control packets -/

/-- The context of one window changes its binding, and only its ledger entry does. -/
theorem Heeded.rebind {w after : Windows} {ledger next : Ledger} (heeded : w.Heeded cpiId ledger)
    (archives : w.Archives spec) {ctx bound : CpiContext} (holds : w.Holds ctx)
    (identity : bound.identity = ctx.identity) (named : bound.control.cpiId = ctx.header.cpiId)
    (windows : ∀ other, after.Holds other →
      other = bound ∨ (w.Holds other ∧ other.birth ≠ ctx.birth))
    (control : after.currentControl = w.currentControl ∨ after.currentControl = bound.control)
    (log : after.log = w.log ++ [.rebound bound]) (awaiting : next.awaiting = ledger.awaiting)
    (others : ∀ birth, birth ≠ ctx.birth → next.heard birth = ledger.heard birth)
    (heeds : ctx.header.cpiId = cpiId → Heeds bound.control (next.heard ctx.birth)) :
    after.Heeded cpiId next := by
  have boundCpi : bound.header.cpiId = ctx.header.cpiId := CpiContext.cpiId_of_identity identity
  have boundBirth : bound.birth = ctx.birth := CpiContext.birth_of_identity identity
  refine ⟨fun other held => ?_, fun waiting other held => ?_, fun last isLast own source => ?_,
    fun other held own => ?_, ?_⟩
  · rcases windows other held with rfl | ⟨old, -⟩
    · exact named.trans boundCpi.symm
    · exact heeded.named other old
  · rw [awaiting] at waiting
    rcases windows other held with rfl | ⟨old, -⟩
    · rw [boundCpi]
      exact heeded.absent waiting ctx holds
    · exact heeded.absent waiting other old
  · rw [awaiting] at isLast
    have waiting : ledger.awaiting ≠ [] := by
      rintro none
      simp [none] at isLast
    rcases control with kept | mirrored
    · rw [kept] at own source ⊢
      exact heeded.staged last isLast own source
    · rw [mirrored, named] at own
      exact absurd own (heeded.absent waiting ctx holds)
  · rcases windows other held with rfl | ⟨old, apart⟩
    · rw [boundBirth]
      exact heeds (boundCpi.symm.trans own)
    · rw [others _ apart]
      exact heeded.heard other old own
  · rw [log]
    exact heeded.outputs_kept archives rfl fun birth gone =>
      others birth (gone.left ctx holds).symm

private theorem mergeControlSnapshot_cpiId {ctx : CpiContext} {candidate : ControlSnapshot}
    (named : ctx.control.cpiId = ctx.header.cpiId) (same : candidate.cpiId = ctx.header.cpiId) :
    (mergeControlSnapshot ctx candidate).control.cpiId = ctx.header.cpiId := by
  have merged := mergeControlSnapshot_merged ctx candidate
  generalize mergeControlSnapshot ctx candidate = next at merged ⊢
  cases merged with
  | kept | conflicted => exact named
  | converged | replaced | rebound =>
      rw [bindControlSnapshot_control]
      exact same

/-- A control packet that one window hears, if it is legal and of the CPI. -/
theorem Heeded.hear {w : Windows} {ledger next : Ledger} {parsed : ParsedPacketView}
    (heeded : w.Heeded cpiId ledger) {ctx : CpiContext} (holds : w.Holds ctx)
    (same : ctx.header.cpiId = parsed.cpi)
    (converges : LegalControl spec parsed → parsed.cpi = cpiId → ledger.Converges parsed.prt ctx)
    (hears : LegalControl spec parsed → parsed.cpi = cpiId → next = ledger.hear parsed.prt ctx)
    (ignores : ¬ (LegalControl spec parsed ∧ parsed.cpi = cpiId) → next = ledger) :
    next.awaiting = ledger.awaiting ∧
      (∀ birth, birth ≠ ctx.birth → next.heard birth = ledger.heard birth) ∧
      (ctx.header.cpiId = cpiId →
        Heeds (mergeControlSnapshot ctx (makeControlSnapshot parsed spec)).control
          (next.heard ctx.birth)) := by
  by_cases heard : LegalControl spec parsed ∧ parsed.cpi = cpiId
  · obtain rfl := hears heard.1 heard.2
    refine ⟨rfl, fun birth apart => ledger.hear_other parsed.prt apart, fun own => ?_⟩
    rw [Ledger.hear_own]
    exact (heeded.heard ctx holds own).merge heard.1 (converges heard.1 heard.2)
  · obtain rfl := ignores heard
    refine ⟨rfl, fun _ _ => rfl, fun own => ?_⟩
    have illegal : ¬ LegalControl spec parsed := fun legal => heard ⟨legal, same.symm.trans own⟩
    exact (heeded.heard ctx holds own).merge_illegal illegal

private theorem announce_ignored {w : Windows} {ledger : Ledger} {parsed : ParsedPacketView}
    (ignored : ¬ (ValidControl parsed ∧ LegalControl spec parsed ∧ parsed.cpi = cpiId)) :
    ledger.announce spec cpiId w parsed = ledger := if_neg ignored

theorem Heeded.stage {w : Windows} {ledger : Ledger} {parsed : ParsedPacketView}
    (heeded : w.Heeded cpiId ledger) (valid : ValidControl parsed)
    (notActive : holding w.active parsed.cpi = none)
    (notPrevious : holding w.previous parsed.cpi = none) :
    Heeded cpiId { w with currentControl := makeControlSnapshot parsed spec }
      (ledger.announce spec cpiId w parsed) := by
  by_cases heard : LegalControl spec parsed ∧ parsed.cpi = cpiId
  · obtain ⟨legal, rfl⟩ := heard
    have kept : ledger.announce spec parsed.cpi w parsed = ledger.keep parsed.prt := by
      simp only [Ledger.announce, valid, legal, true_and, if_true, notActive, notPrevious]
    rw [kept]
    refine ⟨heeded.named, fun _ ctx holds own => ?_, fun last isLast _ _ => ?_, heeded.heard,
      heeded.outputs⟩
    · rcases holds with active | previous
      · rw [active] at notActive
        simp [holding, own] at notActive
      · rw [previous] at notPrevious
        simp [holding, own] at notPrevious
    · simp only [Ledger.keep, List.getLast?_concat, Option.mem_some_iff] at isLast
      subst isLast
      rw [makeControlSnapshot_legal legal]
      exact ⟨rfl, rfl⟩
  · rw [announce_ignored fun all => heard all.2]
    refine ⟨heeded.named, heeded.absent, fun last isLast own source => ?_, heeded.heard,
      heeded.outputs⟩
    rw [makeControlSnapshot_cpiId] at own
    exact absurd ⟨makeControlSnapshot_control source, own⟩ heard

theorem Heeded.processControl {w : Windows} {ledger : Ledger} {parsed : ParsedPacketView}
    (heeded : w.Heeded cpiId ledger) (sound : w.Sound spec) (archives : w.Archives spec)
    (keeps : w.KeepsAnnouncements spec cpiId ledger (.control parsed)) :
    (w.processControl spec parsed).Heeded cpiId (ledger.announce spec cpiId w parsed) := by
  have controls := @processControl_controls spec w parsed
  generalize w.processControl spec parsed = after at controls ⊢
  cases controls with
  | ignored invalid =>
      rw [announce_ignored fun all => invalid all.1]
      exact heeded
  | active ctx valid found =>
      obtain ⟨isActive, same⟩ := holding_eq_some found
      have hears (legal : LegalControl spec parsed) (own : parsed.cpi = cpiId) :
          ledger.announce spec cpiId w parsed = ledger.hear parsed.prt ctx := by
        subst own
        have alone : holding w.previous parsed.cpi = none := by
          rcases (keeps valid legal rfl).1 with missed | alone
          · cases found.symm.trans missed
          · exact alone
        simp only [Ledger.announce, valid, legal, true_and, if_true, found, alone]
      obtain ⟨awaiting, others, heeds⟩ := heeded.hear (.inl isActive) same
        (fun legal own => (keeps valid legal own).2.1 ctx (own ▸ found)) hears
        (fun unheard => announce_ignored fun all => unheard all.2)
      refine heeded.rebind archives (.inl isActive) (mergeControlSnapshot_identity ..)
        (mergeControlSnapshot_cpiId (heeded.named ctx (.inl isActive)) ?_) ?_ (.inr rfl) rfl
        awaiting others heeds
      · rw [makeControlSnapshot_cpiId, same]
      · intro other holds
        rcases holds with here | there
        · exact .inl (Option.some.inj here).symm
        · exact .inr ⟨.inr there, (sound.apart ctx other isActive there).symm⟩
  | previous ctx valid notActive found =>
      obtain ⟨isPrevious, same⟩ := holding_eq_some found
      have hears (legal : LegalControl spec parsed) (own : parsed.cpi = cpiId) :
          ledger.announce spec cpiId w parsed = ledger.hear parsed.prt ctx := by
        subst own
        simp only [Ledger.announce, valid, legal, true_and, if_true, found, notActive]
      obtain ⟨awaiting, others, heeds⟩ := heeded.hear (.inr isPrevious) same
        (fun legal own => (keeps valid legal own).2.2 ctx (own ▸ found)) hears
        (fun unheard => announce_ignored fun all => unheard all.2)
      refine heeded.rebind archives (.inr isPrevious) (mergeControlSnapshot_identity ..)
        (mergeControlSnapshot_cpiId (heeded.named ctx (.inr isPrevious)) ?_) ?_ (.inl rfl) rfl
        awaiting others heeds
      · rw [makeControlSnapshot_cpiId, same]
      · intro other holds
        rcases holds with here | there
        · exact .inr ⟨.inl here, sound.apart other ctx here isPrevious⟩
        · exact .inl (Option.some.inj there).symm
  | staged valid notActive notPrevious => exact heeded.stage valid notActive notPrevious

/-! ## Openings -/

theorem Heeded.openedCtx_heeds {w : Windows} {ledger : Ledger} (heeded : w.Heeded cpiId ledger)
    (sound : w.Sound spec) (settled : ledger.Settled cpiId w.currentControl) :
    Heeds (selectOpenSnapshot cpiId spec w.currentControl) ledger.awaiting := by
  cases waiting : ledger.awaiting with
  | nil =>
      refine .of_uncontrolled fun source => ?_
      unfold selectOpenSnapshot at source
      split at source
      · cases source
      split at source
      · rename_i use
        exact settled.staged.mpr ⟨use.1, source⟩ waiting
      · cases source
  | cons first rest =>
      have some : ledger.awaiting ≠ [] := by simp [waiting]
      obtain ⟨own, source⟩ := settled.staged.mp some
      have isLast : ledger.awaiting.getLast some ∈ ledger.awaiting.getLast? :=
        List.getLast?_eq_some_getLast some
      obtain ⟨count, valid⟩ := heeded.staged _ isLast own source
      have dynamic : spec.dynamicPrtEnabled = true := by
        by_contra static
        have fixed := (sound.staged valid).static (by simpa using static)
        cases source.symm.trans fixed
      have selected : selectOpenSnapshot cpiId spec w.currentControl = w.currentControl := by
        simp [selectOpenSnapshot, dynamic, own, valid]
      have agree (one : Announcement) (member : one ∈ ledger.awaiting) :
          one.nPrt = w.currentControl.nPrt := by
        rw [count]
        exact settled.agree one member _ (List.getLast_mem some)
      rw [waiting] at agree
      rw [selected]
      exact .bound source valid first rest
        (fun one member differ => absurd (agree one member) differ)
        (fun _ => (agree first (by simp)).symm)

theorem Heeded.openWindow {w : Windows} {ledger : Ledger} (heeded : w.Heeded cpiId ledger)
    (sound : w.Sound spec) (archives : w.Archives spec)
    (opened : UInt16) (index : PoolIndex)
    (settled : opened = cpiId → ledger.Settled cpiId w.currentControl) :
    (w.openWindow spec opened index).Heeded cpiId
      (ledger.opened cpiId (w.openedCtx spec opened index)) := by
  have control := w.openedCtx_control spec opened index
  have born := w.openedCtx_birth spec opened index
  have named := w.openedCtx_cpiId spec opened index
  have windows {ctx : CpiContext} (holds : (w.openWindow spec opened index).Holds ctx) :
      ctx = w.openedCtx spec opened index ∨ (w.Holds ctx ∧ ctx.birth ≠ w.openings) := by
    rcases holds with active | previous
    · exact .inl (Option.some.inj active).symm
    · exact .inr ⟨.inr previous, Nat.ne_of_lt (sound.previous ctx previous).born⟩
  have ownName : ∀ ctx, (w.openWindow spec opened index).Holds ctx →
      ctx.control.cpiId = ctx.header.cpiId := by
    intro ctx holds
    rcases windows holds with rfl | ⟨old, -⟩
    · rw [control, named, selectOpenSnapshot_cpiId]
    · exact heeded.named ctx old
  by_cases own : opened = cpiId
  · subst own
    obtain ⟨awaiting, heard, others⟩ := ledger.opened_own named
    rw [born] at heard others
    refine ⟨ownName, fun waiting => absurd awaiting waiting, fun last isLast => ?_,
      fun ctx holds same => ?_, heeded.outputs_kept archives rfl fun birth gone =>
        others birth (Nat.ne_of_lt gone.born)⟩
    · rw [awaiting] at isLast
      cases isLast
    rcases windows holds with rfl | ⟨old, apart⟩
    · rw [control, born, heard]
      exact heeded.openedCtx_heeds sound (settled rfl)
    · rw [others _ apart]
      exact heeded.heard ctx old same
  · rw [ledger.opened_other (named.trans_ne own)]
    refine ⟨ownName, fun waiting ctx holds => ?_, fun _ _ same => ?_, fun ctx holds same => ?_,
      heeded.outputs_kept archives rfl fun _ _ => rfl⟩
    · rcases windows holds with rfl | ⟨old, -⟩
      · rw [named]
        exact own
      · exact heeded.absent waiting ctx old
    · exact absurd ((selectOpenSnapshot_cpiId opened spec w.currentControl).symm.trans same) own
    · rcases windows holds with rfl | ⟨old, -⟩
      · exact absurd (named.symm.trans same) own
      · exact heeded.heard ctx old same

/-! ## Steps and runs -/

/-- The ledger follows the openings of an operation that began in `start`. -/
def Follows (cpiId : UInt16) (ledger : Ledger) (start w : Windows) : Prop :=
  ∃ new, openedContexts w.log = openedContexts start.log ++ new ∧
    w.Heeded cpiId (new.foldl (Ledger.opened cpiId) ledger)

theorem Follows.move (formed : spec.WellFormed) {op : Op} {ledger : Ledger}
    {start before after : Windows} (uncontrolled : ∀ parsed, op ≠ .control parsed)
    (keeps : start.KeepsAnnouncements spec cpiId ledger op) (begun : start.Sound spec)
    (sound : before.Sound spec) (archives : before.Archives spec)
    (move : Move spec op start before after) (follows : Follows cpiId ledger start before) :
    Follows cpiId ledger start after := by
  obtain ⟨new, opened, heeded⟩ := follows
  cases move.binds formed sound with
  | carried carries =>
      exact ⟨new, carries.openedContexts_eq.trans opened, heeded.carry carries⟩
  | staged parsed control => exact absurd control (uncontrolled parsed)
  | reboundActive _ parsed control => exact absurd control (uncontrolled parsed)
  | reboundPrevious _ parsed control => exact absurd control (uncontrolled parsed)
  | opened index parsed packet data opens =>
      obtain ⟨staged, nothing⟩ := opens.staged begun
      obtain rfl : new = [] := by
        rw [nothing] at opened
        exact List.self_eq_append_right.mp opened
      subst data
      refine ⟨[before.openedCtx spec parsed.cpi index], ?_, ?_⟩
      · rw [openedContexts_openWindow, nothing]
      · refine heeded.openWindow sound archives parsed.cpi index fun own => ?_
        rw [staged]
        exact keeps own opens.opensFor

end Windows

namespace System

/-- What holds of a run and the ledger that watches it. -/
structure Watched (spec : ProtocolSpec) (cpiId : UInt16) (s : System) (ledger : Ledger) : Prop where
  owned : s.Owned
  sound : s.windows.Sound spec
  archives : s.windows.Archives spec
  heeded : s.windows.Heeded cpiId ledger

/-- An operation without a control packet: the ledger records what is opened. -/
theorem Watched.follows {spec : ProtocolSpec} (formed : spec.WellFormed) {cpiId : UInt16}
    {s : System} {ledger : Ledger} (watched : Watched spec cpiId s ledger) {op : Op}
    (valid : op.Valid) (uncontrolled : ∀ parsed, op ≠ .control parsed)
    (keeps : s.windows.KeepsAnnouncements spec cpiId ledger op) :
    (s.step spec op).windows.Heeded cpiId
      (((openedContexts (s.step spec op).windowLog).drop
        (openedContexts s.windowLog).length).foldl (Ledger.opened cpiId) ledger) := by
  obtain ⟨owned, sound, archives, heeded⟩ := watched
  obtain ⟨choices, step⟩ := (windows_simulates spec).commutes s op owned
  have start : Windows.Follows cpiId ledger s.windows s.windows :=
    ⟨[], (List.append_nil _).symm, heeded⟩
  obtain ⟨-, -, new, opened, followed⟩ := Windows.step_preserves valid
    (fun before after move (holds : before.Sound spec ∧ before.Archives spec ∧
        Windows.Follows cpiId ledger s.windows before) => by
      obtain ⟨soundBefore, archived, follows⟩ := holds
      exact ⟨.move formed move soundBefore, .move formed soundBefore move archived,
        .move formed uncontrolled keeps sound soundBefore archived move follows⟩)
    choices ⟨sound, archives, start⟩
  rw [← step] at opened followed
  have new_eq : (openedContexts (s.step spec op).windowLog).drop
      (openedContexts s.windowLog).length = new := by
    have log : openedContexts (s.step spec op).windowLog = openedContexts s.windowLog ++ new :=
      opened
    rw [log, List.drop_left]
  rw [new_eq]
  exact followed

theorem Watched.step {spec : ProtocolSpec} (formed : spec.WellFormed) {cpiId : UInt16} {s : System}
    {ledger : Ledger} (watched : Watched spec cpiId s ledger) {op : Op} (valid : op.Valid)
    (keeps : s.windows.KeepsAnnouncements spec cpiId ledger op) :
    Watched spec cpiId (s.step spec op) (ledger.note spec cpiId s op (s.step spec op)) := by
  have single : ∀ other ∈ [op], other.Valid := List.forall_mem_singleton.mpr valid
  obtain ⟨nextSound, nextArchives⟩ :=
    Windows.run_archives formed watched.owned watched.sound watched.archives single
  refine ⟨run_owned spec [op] watched.owned, nextSound, nextArchives, ?_⟩
  cases op with
  | control parsed =>
      obtain ⟨choices, step⟩ := (windows_simulates spec).commutes s (.control parsed) watched.owned
      rw [step]
      exact watched.heeded.processControl watched.sound watched.archives keeps
  | data | timeout | drainRecycle | consumer | shutdown =>
      exact watched.follows formed valid (by rintro _ ⟨⟩) keeps

end System

theorem Windows.fresh_heeded (pipeline : Option OutputPipeline) (consumerSchedule clock : List Nat)
    (cpiId : UInt16) : (System.fresh pipeline consumerSchedule clock).windows.Heeded cpiId {} where
  named _ holds := by rcases holds with impossible | impossible <;> cases impossible
  absent waiting := absurd rfl waiting
  staged _ impossible := nomatch impossible
  heard _ holds := by rcases holds with impossible | impossible <;> cases impossible
  outputs _ _ _ impossible := nomatch impossible

/-- The ledger of a CPI after a run. -/
def ledgerOf (spec : ProtocolSpec) (cpiId : UInt16) (ops : List Op) (s : System) : Ledger :=
  (Machine.run (Machine.watch (System.step spec) (Ledger.note spec cpiId)) ops (s, {})).2

/-- Every output of a CPI is bound to the first legal announcement that its context
heard, if that covers what had been observed, and is marked if two of them differ. -/
theorem first_announcement_wins (config : RxConfig) (rings : Option (Nat × Nat))
    (consumerSchedule clock : List Nat) (ops : List Op) (valid : ∀ op ∈ ops, op.Valid)
    (cpiId : UInt16)
    (keeps : Machine.Along
      (Machine.watch (System.step (protocolSpecFromConfig config))
        (Ledger.note (protocolSpecFromConfig config) cpiId))
      (fun watched =>
        watched.1.windows.KeepsAnnouncements (protocolSpecFromConfig config) cpiId watched.2)
      ops (System.withRings rings consumerSchedule clock, {})) :
    let spec := protocolSpecFromConfig config
    let start := System.withRings rings consumerSchedule clock
    ∀ output ctx delivery,
      .produced output ctx delivery ∈ (Machine.run (System.step spec) ops start).windowLog →
      output.cpiId = cpiId →
      FirstWins output.control ((ledgerOf spec cpiId ops start).heard ctx.birth) := by
  intro spec start
  have formed := protocolSpecFromConfig_wellFormed config
  have begun : System.Watched spec cpiId start {} :=
    ⟨System.withRings_owned .., Windows.fresh_sound ..,
      fun _ _ _ impossible => (nomatch impossible), Windows.fresh_heeded ..⟩
  have watched := @Machine.run_invariant _ _
    (Machine.watch (System.step spec) (Ledger.note spec cpiId)) _
    (fun watched => System.Watched spec cpiId watched.1 watched.2)
    (fun watched op holds (met : op.Valid ∧ watched.1.windows.KeepsAnnouncements spec cpiId
      watched.2 op) => holds.step formed met.1 met.2)
    ops (start, {}) begun ((Machine.along_of_labels valid).and keeps)
  intro output ctx delivery member own
  refine watched.heeded.outputs output ctx delivery ?_ own
  simpa [System.windows] using member

/-- Two control packets before the first data packet: the second replaces the first. -/
def replacingOps : List Op :=
  let spec := protocolSpecFromConfig announcedConfig
  [.announce 1 2, .announce 1 1, .zeroData spec 1 1 0 1 0, .zeroData spec 1 1 0 2 0]

theorem staged_announcement_replaced :
    let spec := protocolSpecFromConfig announcedConfig
    let start := System.withRings (some (32, 32)) [] []
    (∀ op ∈ replacingOps, op.Valid) ∧ ∃ output ctx,
      .produced output ctx .pushed ∈
        (Machine.run (System.step spec) replacingOps start).windowLog ∧
      output.cpiId = 1 ∧
      (ledgerOf spec 1 replacingOps start).heard ctx.birth = [⟨2, 0⟩, ⟨1, 0⟩] ∧
      output.control.conflict = false ∧ output.control.nPrt = 1 ∧
      ¬ FirstWins output.control ((ledgerOf spec 1 replacingOps start).heard ctx.birth) := by
  intro spec start
  refine ⟨by simp [replacingOps], ?_⟩
  have found : (Machine.run (System.step spec) replacingOps start).windowLog.any
      (fun event => match event with
        | .produced output ctx .pushed => output.cpiId == 1 && ctx.birth == 0 &&
            output.control.conflict == false && output.control.nPrt == 1
        | _ => false) = true := by decide +kernel
  have heard : (ledgerOf spec 1 replacingOps start).heard 0 = [⟨2, 0⟩, ⟨1, 0⟩] := by
    decide +kernel
  obtain ⟨event, member, holds⟩ := List.any_eq_true.mp found
  cases event with
  | produced output ctx delivery =>
      cases delivery with
      | pushed =>
          simp only [Bool.and_eq_true, beq_iff_eq] at holds
          obtain ⟨⟨⟨own, born⟩, unmarked⟩, count⟩ := holds
          have heard : (ledgerOf spec 1 replacingOps start).heard ctx.birth = [⟨2, 0⟩, ⟨1, 0⟩] := by
            rw [born]
            exact heard
          refine ⟨output, ctx, member, own, heard, unmarked, count, fun wins => ?_⟩
          rw [heard] at wins
          have marked := (wins ⟨2, 0⟩ rfl ⟨2, 0⟩ (by simp) ⟨1, 0⟩ (by simp) (by decide)).1
          exact Bool.noConfusion (unmarked.symm.trans marked)
      | detached | dropped => cases holds
  | opened | stored | rebound | discarded => cases holds

/-- One control packet before the first data packet and a different one after it. -/
def disagreeingOps : List Op :=
  let spec := protocolSpecFromConfig announcedConfig
  [.announce 1 1, .zeroData spec 1 1 0 1 0, .announce 1 2, .zeroData spec 1 1 0 2 0]

theorem first_announcement_wins_disagreeing :
    let spec := protocolSpecFromConfig announcedConfig
    let start := System.withRings (some (32, 32)) [] []
    (ledgerOf spec 1 disagreeingOps start).heard 0 = [⟨1, 0⟩, ⟨2, 1⟩] ∧
      ∀ output ctx delivery,
        .produced output ctx delivery ∈
          (Machine.run (System.step spec) disagreeingOps start).windowLog →
        output.cpiId = 1 →
        FirstWins output.control ((ledgerOf spec 1 disagreeingOps start).heard ctx.birth) := by
  intro spec start
  have valid : ∀ op ∈ disagreeingOps, op.Valid := by simp [disagreeingOps]
  have heard : (ledgerOf spec 1 disagreeingOps start).heard 0 = [⟨1, 0⟩, ⟨2, 1⟩] := by
    decide +kernel
  exact ⟨heard, first_announcement_wins announcedConfig (some (32, 32)) [] [] disagreeingOps valid 1
    (by decide +kernel)⟩

end RxTech
