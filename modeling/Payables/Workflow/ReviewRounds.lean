import Payables.Workflow.Effects

namespace Payables
open Lib

def ChainState.approvals (chain : ChainState) : List LevelApproval := chain.levels.flatMap (·.approvals)

/-- Given while the invoice was in `ready_for_review`, since it last entered it. -/
def InvoiceHistory.inRound (history : InvoiceHistory) (recordedAt : Time) : Bool :=
  history.reviewFrom.any (· < recordedAt) && history.reviewUntil.all (recordedAt ≤ ·)

/-- The level with the approvals of the current round only. -/
def LevelState.inRound (level : LevelState) (history : InvoiceHistory) : LevelState :=
  { level with approvals := level.approvals.filter fun approval => history.inRound approval.recordedAt }

/-- Every level of the chain that `after` holds is satisfied by approvals of the round of `history`. -/
def RoundSigned (history : InvoiceHistory) (after : Invoice) : Prop :=
  ∀ chain, after.chain = some chain → ∀ level ∈ chain.levels, levelSatisfied (level.inRound history) = true

instance (history : InvoiceHistory) (after : Invoice) : Decidable (RoundSigned history after) :=
  decidable_of_iff ((after.chain.all fun chain => chain.levels.all fun level => levelSatisfied (level.inRound history)) = true)
    (by simp only [RoundSigned, Option.all_eq_true, List.all_eq_true])

/-- A step that signs no level outside `ready_for_review`, and takes no invoice with a chain back to
`pending`. -/
def keepsRounds (tenant : Tenant) (history : InvoiceHistory) (label : InvoiceLabel) : Bool :=
  (label.approveRequest?.all fun request =>
    history.invoice.status == .readyForReview || !history.invoice.hasLevelToSign tenant request) &&
  (!label.reopens || history.invoice.chain.isNone)

/-- What a run of such steps keeps. -/
structure RoundSound (history : InvoiceHistory) : Prop where
  opened : history.invoice.status = .readyForReview →
    history.reviewUntil = none ∧ ∃ opened, history.reviewFrom = some opened ∧ opened < history.clock
  counted : ∀ chain, history.invoice.chain = some chain → ∀ approval ∈ chain.approvals,
    history.inRound approval.recordedAt = true ∧ approval.recordedAt < history.clock
  outside : ∀ chain, history.invoice.chain = some chain →
    history.invoice.status ∉ [InvoiceStatus.new, .pending, .rejected]

section
variable {history : InvoiceHistory}

theorem InvoiceHistory.inRound_iff {recordedAt : Time} : history.inRound recordedAt = true ↔
    (∃ opened, history.reviewFrom = some opened ∧ opened < recordedAt) ∧
      ∀ closed, history.reviewUntil = some closed → recordedAt ≤ closed := by
  simp only [inRound, Bool.and_eq_true, Option.any_eq_true, Option.all_eq_true, decide_eq_true_eq]

/-- An approval given in `ready_for_review` belongs to the round. -/
theorem RoundSound.inRound_clock (sound : RoundSound history) (reviewing : history.invoice.status = .readyForReview) :
    history.inRound history.clock = true := by
  obtain ⟨running, opened, entered, before⟩ := sound.opened reviewing
  rw [InvoiceHistory.inRound_iff, running]
  exact ⟨⟨opened, entered, before⟩, nofun⟩

/-- The round goes on until the invoice is submitted for review again. -/
theorem InvoiceHistory.inRound_record {recordedAt : Time} (counted : history.inRound recordedAt = true)
    (past : recordedAt ≤ history.clock) {approval : Bool} {after : Invoice}
    (stays : ¬history.invoice.Enters after .readyForReview) : (history.record approval after).inRound recordedAt = true := by
  obtain ⟨started, until'⟩ := inRound_iff.mp counted
  rw [inRound_iff]
  simp only [record, if_neg stays]
  refine ⟨started, fun closed here => ?_⟩
  by_cases left : history.invoice.status = .readyForReview ∧ after.status ≠ .readyForReview
  · rw [if_pos left] at here
    cases here
    exact past
  · rw [if_neg left] at here
    exact until' closed here

/-- What the invariant asks of one step. -/
theorem RoundSound.record (sound : RoundSound history) {approval : Bool} {after : Invoice}
    (cleared : history.invoice.Enters after .readyForReview → after.chain = none)
    (counted : ∀ chain, after.chain = some chain → ∀ approval ∈ chain.approvals,
      history.inRound approval.recordedAt = true ∧ approval.recordedAt ≤ history.clock)
    (outside : ∀ chain, after.chain = some chain → after.status ∉ [InvoiceStatus.new, .pending, .rejected]) :
    RoundSound (history.record approval after) where
  opened := by
    intro reviewing
    have here : after.status = .readyForReview := reviewing
    by_cases before : history.invoice.status = .readyForReview
    · obtain ⟨running, opened, entered, earlier⟩ := sound.opened before
      have stays : ¬history.invoice.Enters after .readyForReview := fun enters => enters.1 before
      have remains : ¬(history.invoice.status = .readyForReview ∧ after.status ≠ .readyForReview) := fun leaves =>
        leaves.2 here
      simp only [InvoiceHistory.record, if_neg stays, if_neg remains]
      exact ⟨running, opened, entered, Int.lt_add_one_of_le (Int.le_of_lt earlier)⟩
    · have enters : history.invoice.Enters after .readyForReview := ⟨before, here⟩
      simp only [InvoiceHistory.record, if_pos enters]
      exact ⟨trivial, history.clock, rfl, Int.lt_succ history.clock⟩
  counted := by
    intro chain here entry member
    have stays : ¬history.invoice.Enters after .readyForReview := by
      intro enters
      have none' := cleared enters
      rw [show after.chain = some chain from here] at none'
      cases none'
    obtain ⟨inRound, past⟩ := counted chain here entry member
    exact ⟨InvoiceHistory.inRound_record inRound past stays, Int.lt_add_one_of_le past⟩
  outside := outside

end

theorem ChainState.mem_approvals {chain : ChainState} {approval : LevelApproval} :
    approval ∈ chain.approvals ↔ ∃ level ∈ chain.levels, approval ∈ level.approvals := List.mem_flatMap

/-- An advance adds one approval, of now. -/
theorem Advanced.approvals {now : Time} {actor : UserId} {chain after : ChainState} {answer : Bool}
    (advanced : Advanced now actor chain answer after) {approval : LevelApproval} (member : approval ∈ after.approvals) :
    approval ∈ chain.approvals ∨ approval.recordedAt = now := by
  have recorded {level : LevelState} (atCurrent : chain.levels[chain.currentLevel]? = some level) {state : LevelState}
      (inside : state ∈ chain.levels.set chain.currentLevel (level.record actor now)) (given : approval ∈ state.approvals) :
      approval ∈ chain.approvals ∨ approval.recordedAt = now := by
    rcases List.mem_or_eq_of_mem_set inside with old | rfl
    · exact .inl (ChainState.mem_approvals.mpr ⟨state, old, given⟩)
    · rcases List.mem_append.mp given with old | fresh
      · exact .inl (ChainState.mem_approvals.mpr ⟨level, List.mem_of_getElem? atCurrent, old⟩)
      · rw [List.mem_singleton.mp fresh]
        exact .inr rfl
  obtain ⟨state, inside, given⟩ := ChainState.mem_approvals.mp member
  cases advanced with
  | recorded atCurrent _ _ => exact recorded atCurrent inside given
  | completed atCurrent _ _ _ => exact recorded atCurrent inside given
  | moved atCurrent _ _ atNext =>
    rcases List.mem_or_eq_of_mem_set inside with old | rfl
    · exact recorded atCurrent old given
    · exact recorded atCurrent (List.mem_of_getElem? atNext) given

theorem ChainState.approvals_laidOut (now : Time) (levels : List ChainLevel) :
    (⟨levels.mapIdx (initLevelState now), 0⟩ : ChainState).approvals = [] := by
  simp only [approvals, List.flatMap_eq_nil_iff, List.mem_mapIdx]
  rintro state ⟨i, bound, rfl⟩
  rfl

section
variable {tenant : Tenant} {actor : UserId} {now : Time} {invoice : Invoice}
  {answer : Except Raised Bool} {after : Option ChainState}

theorem StartsFrom.approvals {base : Option ChainState} (starts : StartsFrom tenant now invoice base) {chain : ChainState}
    (here : base = some chain) {approval : LevelApproval} (member : approval ∈ chain.approvals) :
    ∃ stored, invoice.chain = some stored ∧ approval ∈ stored.approvals := by
  cases starts with
  | stored found =>
    cases here
    exact ⟨_, found, member⟩
  | laidOut =>
    cases here
    rw [ChainState.approvals_laidOut] at member
    cases member
  | unrouted => cases here

/-- The approvals of a signed chain: those it had, and one of now. -/
theorem Signed.approvals (signed : Signed tenant actor now invoice answer after) {chain : ChainState}
    (here : after = some chain) {approval : LevelApproval} (member : approval ∈ chain.approvals) :
    (∃ stored, invoice.chain = some stored ∧ approval ∈ stored.approvals) ∨ approval.recordedAt = now := by
  cases signed with
  | exempt => exact .inl ⟨chain, here, member⟩
  | unresolved => exact .inl ⟨chain, here, member⟩
  | refused starts => exact .inl (starts.approvals here member)
  | exhausted starts => exact .inl (starts.approvals here member)
  | advanced _ starts advanced =>
    cases here
    exact (advanced.approvals member).imp_left fun old => starts.approvals rfl old

end

/-- The statuses from which an invoice is submitted for review. -/
theorem InvoiceStatus.readyForReview_mem_validTransitions {status : InvoiceStatus}
    (valid : InvoiceStatus.readyForReview ∈ status.validTransitions) :
    status ∈ [InvoiceStatus.new, .pending, .rejected] := by
  revert valid
  cases status <;> decide

theorem InvoiceStatus.new_mem_validTransitions {status : InvoiceStatus}
    (valid : InvoiceStatus.new ∈ status.validTransitions) : status = .rejected := by
  revert valid
  cases status <;> decide

section
variable {tenant : Tenant} {history : InvoiceHistory} {label : InvoiceLabel} {after : Invoice}

/-- The approvals an approval call leaves, when it signs nothing outside `ready_for_review`. -/
theorem RoundSound.signed (sound : RoundSound history) {request : ApproveRequest} {answer : Except Raised Bool}
    {final : Option ChainState}
    (signed : Signed tenant request.actorId history.clock (history.invoice.correct tenant request) answer final)
    (keeps : history.invoice.status = .readyForReview ∨ history.invoice.hasLevelToSign tenant request = false)
    {chain : ChainState} (here : final = some chain) :
    (∀ approval ∈ chain.approvals, history.inRound approval.recordedAt = true ∧ approval.recordedAt ≤ history.clock) ∧
      history.invoice.status ∉ [InvoiceStatus.new, .pending, .rejected] := by
  rcases keeps with reviewing | nothing
  · refine ⟨fun approval member => ?_, by rw [reviewing]; decide⟩
    rcases signed.approvals here member with ⟨stored, found, old⟩ | now
    · rw [Invoice.correct_chain] at found
      obtain ⟨inRound, past⟩ := sound.counted stored found approval old
      exact ⟨inRound, Int.le_of_lt past⟩
    · rw [now]
      exact ⟨sound.inRound_clock reviewing, Int.le_refl _⟩
  · have same := (signed.of_not_hasLevelToSign nothing).1.symm.trans here
    refine ⟨fun approval member => ?_, sound.outside chain same⟩
    obtain ⟨inRound, past⟩ := sound.counted chain same approval member
    exact ⟨inRound, Int.le_of_lt past⟩

theorem keepsRounds_signs (keeps : keepsRounds tenant history label = true) {request : ApproveRequest}
    (call : label.approveRequest? = some request) :
    history.invoice.status = .readyForReview ∨ history.invoice.hasLevelToSign tenant request = false := by
  simpa [call] using (Bool.and_eq_true_iff.mp keeps).1

theorem keepsRounds_reopens (keeps : keepsRounds tenant history label = true) (reopens : label.reopens = true) :
    history.invoice.chain = none := by
  simpa [reopens] using (Bool.and_eq_true_iff.mp keeps).2

theorem Effect.roundSound (effect : Effect tenant history.clock history.invoice label after) (sound : RoundSound history)
    (keeps : keepsRounds tenant history label = true) (approval : Bool) : RoundSound (history.record approval after) := by
  have kept (same : after.chain = history.invoice.chain) : ∀ chain, after.chain = some chain →
      ∀ entry ∈ chain.approvals, history.inRound entry.recordedAt = true ∧ entry.recordedAt ≤ history.clock := by
    intro chain here entry member
    obtain ⟨inRound, past⟩ := sound.counted chain (same.symm.trans here) entry member
    exact ⟨inRound, Int.le_of_lt past⟩
  cases effect with
  | stayed status same =>
    refine sound.record (fun enters => absurd (status.symm.trans enters.2) enters.1) (kept same) fun chain here => ?_
    rw [status]
    exact sound.outside chain (same.symm.trans here)
  | moved valid _ same unrejected reopened =>
    refine sound.record (fun enters => ?_) (kept same) fun chain here listed => ?_
    · rw [enters.2] at valid
      have source := InvoiceStatus.readyForReview_mem_validTransitions valid
      cases here : after.chain with
      | none => rfl
      | some chain => exact absurd source (sound.outside chain (same.symm.trans here))
    · have before := same.symm.trans here
      simp only [List.mem_cons, List.not_mem_nil, or_false] at listed
      rcases listed with new | pending | rejected
      · rw [new] at valid
        have source := InvoiceStatus.new_mem_validTransitions valid
        exact sound.outside chain before (by rw [source]; decide)
      · rw [keepsRounds_reopens keeps (reopened pending)] at before
        cases before
      · exact unrejected rejected
  | rejected _ status _ none' =>
    have absent : ∀ chain, after.chain ≠ some chain := fun chain here => nomatch none'.symm.trans here
    exact sound.record (fun _ => none') (fun chain here => absurd here (absent chain))
      fun chain here => absurd here (absent chain)
  | pushed sending status _ same =>
    refine sound.record (fun enters => ?_) (kept same) fun chain here listed => ?_
    · rw [enters.2] at status
      exact absurd status (by decide)
    · simp only [List.mem_cons, List.not_mem_nil, or_false] at status
      rcases status with status | status | status <;> rw [status] at listed <;> exact absurd listed (by decide)
  | extracted _ _ pending status same =>
    have absent : ∀ chain, after.chain ≠ some chain := fun chain here =>
      absurd (by rw [pending]; decide) (sound.outside chain (same.symm.trans here))
    exact sound.record (fun _ => Option.eq_none_iff_forall_ne_some.mpr absent) (kept same)
      fun chain here => absurd here (absent chain)
  | @signed request call approval =>
    have signs := keepsRounds_signs keeps call
    cases approval with
    | idle status _ outcome =>
      have stays : history.invoice.Enters after .readyForReview → after.chain = none :=
        fun enters => absurd (status.symm.trans enters.2) enters.1
      rcases outcome with same | ⟨answer, signed⟩
      · refine sound.record stays (kept same) fun chain here => ?_
        rw [status]
        exact sound.outside chain (same.symm.trans here)
      · refine sound.record stays (fun chain here => (sound.signed signed signs here).1) fun chain here => ?_
        rw [status]
        exact (sound.signed signed signs here).2
    | partly status _ signed =>
      refine sound.record (fun enters => absurd (status.symm.trans enters.2) enters.1)
        (fun chain here => (sound.signed signed signs here).1) fun chain here => ?_
      rw [status]
      exact (sound.signed signed signs here).2
    | approved _ status _ _ signed =>
      refine sound.record (fun enters => ?_) (fun chain here => (sound.signed signed signs here).1) fun chain here => ?_
      · cases status.symm.trans enters.2
      · rw [status]
        decide

theorem invoiceMachine_roundSound {first : InvoiceHistory} (begins : (invoiceMachine tenant).init first) : RoundSound first := by
  obtain ⟨_, none', entered, running, _⟩ := begins
  have absent : ∀ chain, first.invoice.chain ≠ some chain := fun chain here => nomatch none'.symm.trans here
  refine ⟨fun reviewing => ⟨running, first.clock - 1, ?_, Int.sub_lt_self first.clock (by decide)⟩, fun chain here => absurd here (absent chain),
    fun chain here => absurd here (absent chain)⟩
  rw [entered, if_pos reviewing]

theorem reach_roundSound
    (reach : (invoiceMachine tenant).Reach (fun history label => keepsRounds tenant history label = true) history) :
    RoundSound history := by
  have start : ∀ first, (invoiceMachine tenant).init first → RoundSound first := fun _ => invoiceMachine_roundSound
  have step : ∀ before label, RoundSound before → keepsRounds tenant before label = true →
      RoundSound ((invoiceMachine tenant).step before label) := by
    intro before label sound keeps
    exact (runInvoiceLabel_effect tenant before.clock before.invoice label).roundSound sound keeps _
  exact reach.invariant start step

/-- In a run that signs no level outside `ready_for_review` and takes no invoice with a chain back to
`pending`, an invoice that an approval moves to `approved` has every level of its chain satisfied by
approvals of its current review. -/
theorem reach_roundSigned
    (reach : (invoiceMachine tenant).Reach (fun history label => keepsRounds tenant history label = true) history)
    (keeps : keepsRounds tenant history label = true) {request : ApproveRequest}
    (call : label.approveRequest? = some request)
    (chained : (history.invoice.approvalConfig tenant).approverStrategy = some .chain)
    (entered : history.invoice.Enters (runInvoiceLabel tenant history.clock history.invoice label) .approved) :
    RoundSigned history (runInvoiceLabel tenant history.clock history.invoice label) := by
  have sound := reach_roundSound reach
  have chainSound : (history.invoice.correct tenant request).ChainSound := by
    unfold Invoice.ChainSound
    rw [Invoice.correct_chain]
    exact reach_chainSound reach
  have approval : Approval tenant request history.clock history.invoice
      (runInvoiceLabel tenant history.clock history.invoice label) := runInvoiceLabel_approval call
  generalize runInvoiceLabel tenant history.clock history.invoice label = after at approval entered
  cases approval with
  | idle status => exact absurd (status.symm.trans entered.2) entered.1
  | partly status => exact absurd (status.symm.trans entered.2) entered.1
  | approved _ _ _ _ signed =>
    intro chain here level member
    have counted := (sound.signed signed (keepsRounds_signs keeps call) here).1
    have whole : level.inRound history = level := by
      have all : ∀ approval ∈ level.approvals, history.inRound approval.recordedAt = true := fun approval given =>
        (counted approval (ChainState.mem_approvals.mpr ⟨level, member, given⟩)).1
      rw [LevelState.inRound, List.filter_eq_self.mpr all]
    rw [whole]
    rw [← Invoice.correct_approvalConfig history.invoice tenant request] at chained
    exact signed.satisfied chainSound chained here member

end

/-- The second of two reviewers signs in the round of the first. -/
theorem roundSigned_twoReviewers : RoundSigned
    ((invoiceMachine chainTenant).exec (underReview (some twoLevelInstance)) [.approve (approvalBy "first" [])])
    (runInvoiceLabel chainTenant 1 ((invoiceMachine chainTenant).exec (underReview (some twoLevelInstance))
      [.approve (approvalBy "first" [])]).invoice (.approve (approvalBy "second" []))) := by
  have first : (invoiceMachine chainTenant).init (underReview (some twoLevelInstance)) := ⟨by decide, by decide, rfl, rfl, rfl⟩
  have keeps : (invoiceMachine chainTenant).Permits (fun history label => keepsRounds chainTenant history label = true)
      (underReview (some twoLevelInstance)) [.approve (approvalBy "first" []), .approve (approvalBy "second" [])] := by
    decide +kernel
  have chained : (((invoiceMachine chainTenant).exec (underReview (some twoLevelInstance))
      [.approve (approvalBy "first" [])]).invoice.approvalConfig chainTenant).approverStrategy = some .chain := by
    decide +kernel
  have entered : ((invoiceMachine chainTenant).exec (underReview (some twoLevelInstance))
      [.approve (approvalBy "first" [])]).invoice.Enters (runInvoiceLabel chainTenant 1
        ((invoiceMachine chainTenant).exec (underReview (some twoLevelInstance))
          [.approve (approvalBy "first" [])]).invoice (.approve (approvalBy "second" []))) .approved := by decide +kernel
  have before : (invoiceMachine chainTenant).Permits (fun history label => keepsRounds chainTenant history label = true)
      (underReview (some twoLevelInstance)) ([InvoiceLabel.approve (approvalBy "first" [])] ++
        [.approve (approvalBy "second" [])]) := keeps
  exact reach_roundSigned ((Machine.Reach.start first).exec before.append.1) before.append.2.1 rfl chained entered

def erpDown : Nat → ErpAnswer := fun _ => .transportError "503"

def asRead : ExtractionResult := ⟨some "Acme", some 100, some "USD", none, none, none, []⟩

/-- An approval given while the invoice is rejected counts after the resubmission; and a chain completed
before a failed push is complete after the invoice is extracted again. -/
theorem approvals_of_earlier_rounds_count :
    (∃ labels, let history := (invoiceMachine chainTenant).exec (underReview (some twoLevelInstance)) labels
      let after := runInvoiceLabel chainTenant history.clock history.invoice (.approve (approvalBy "second" []))
      history.invoice.Enters after .approved ∧ ¬RoundSigned history after) ∧
    ∃ labels, let history := (invoiceMachine chainTenant).exec (underReview (some twoLevelInstance)) labels
      let after := runInvoiceLabel chainTenant history.clock history.invoice (.approve (approvalBy "third" []))
      history.invoice.Enters after .approved ∧ ¬RoundSigned history after := by
  constructor
  · exact ⟨[.reject "reviewer", .approve (approvalBy "first" []), .resubmit], by decide +kernel, by decide +kernel⟩
  · exact ⟨[.approve (approvalBy "first" []), .approve (approvalBy "second" []), .sendToErp, .push erpDown, .extract,
      .extractionSucceeds asRead ⟨false, false⟩ 7 false noRates], by decide +kernel, by decide +kernel⟩

end Payables
