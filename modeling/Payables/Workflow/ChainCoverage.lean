import Payables.Workflow.Effects

namespace Payables
open Lib

/-- What a level asks for, as `init_chain_state` copies it out of the configuration. -/
structure LevelTerms where
  level : Nat
  name : String
  required : Int
  approverIds : List UserId
  parallelMode : ParallelMode
  deriving DecidableEq

def LevelState.terms (state : LevelState) : LevelTerms :=
  ⟨state.level, state.name, state.required, state.approverIds, state.parallelMode⟩

/-- The terms of a configured level at the index `i` of a chain. -/
def ChainLevel.terms (level : ChainLevel) (i : Nat) : LevelTerms :=
  ⟨i, level.name.getD s!"Level {i + 1}", level.requiredApprovals.getD 1, level.approverIds,
    level.parallelMode.getD .any⟩

/-- A level of a started chain that stands for a configured one. -/
def LevelState.Enforces (state : LevelState) (level : ChainLevel) : Prop := state.terms = level.terms state.terms.level

instance (state : LevelState) (level : ChainLevel) : Decidable (state.Enforces level) :=
  inferInstanceAs (Decidable (state.terms = level.terms state.terms.level))

/-- Every level that applies to the invoice as it stands is satisfied in its chain. -/
def ChainCovers (tenant : Tenant) (invoice : Invoice) : Prop :=
  ∀ levels, invoice.applicable tenant = .ok levels → ∀ level ∈ levels, ∃ chain, invoice.chain = some chain ∧
    ∃ state ∈ chain.levels, state.Enforces level ∧ levelSatisfied state = true

instance (tenant : Tenant) (invoice : Invoice) : Decidable (ChainCovers tenant invoice) :=
  decidable_of_iff (((invoice.applicable tenant).toOption.all fun levels => levels.all fun level =>
      invoice.chain.any fun chain => chain.levels.any fun state => decide (state.Enforces level) && levelSatisfied state) = true)
    (by
      unfold ChainCovers
      cases invoice.applicable tenant with
      | error => simp [Except.toOption]
      | ok => simp [Except.toOption, Option.any_eq_true])

/-- Before an approval: if a level applies to the invoice as the approver corrects it, there is a workflow
instance, and a chain that is there already has that level. -/
def ChainCoversCorrected (tenant : Tenant) (request : ApproveRequest) (invoice : Invoice) : Prop :=
  ∀ levels, (invoice.correct tenant request).applicable tenant = .ok levels → ∀ level ∈ levels,
    invoice.workflow ≠ none ∧ ∀ chain, invoice.chain = some chain → ∃ state ∈ chain.levels, state.Enforces level

theorem map_set_of_getElem? {α β : Type*} {list : List α} {f : α → β} {k : Nat} {old new : α} (atK : list[k]? = some old)
    (same : f new = f old) : (list.set k new).map f = list.map f := by
  obtain ⟨bound, here⟩ := List.getElem?_eq_some_iff.mp atK
  have within : k < (list.map f).length := by rwa [List.length_map]
  have inPlace : (list.map f)[k] = f new := by rw [List.getElem_map, here, same]
  rw [List.map_set, ← inPlace, List.set_getElem_self]

theorem Advanced.terms {now : Time} {actor : UserId} {chain after : ChainState} {answer : Bool}
    (advanced : Advanced now actor chain answer after) :
    after.levels.map LevelState.terms = chain.levels.map LevelState.terms := by
  cases advanced with
  | @recorded level atCurrent _ _ =>
    have same : (level.record actor now).terms = level.terms := rfl
    exact map_set_of_getElem? atCurrent same
  | @completed level atCurrent _ _ _ =>
    have same : (level.record actor now).terms = level.terms := rfl
    exact map_set_of_getElem? atCurrent same
  | @moved level nextLevel atCurrent _ _ atNext =>
    have recorded : (level.record actor now).terms = level.terms := rfl
    have stamped : ({ nextLevel with enteredAt := some now } : LevelState).terms = nextLevel.terms := rfl
    exact (map_set_of_getElem? atNext stamped).trans (map_set_of_getElem? atCurrent recorded)

theorem exists_enforces_of_terms {chain after : ChainState}
    (same : after.levels.map LevelState.terms = chain.levels.map LevelState.terms) {level : ChainLevel}
    (enforced : ∃ state ∈ chain.levels, state.Enforces level) : ∃ state ∈ after.levels, state.Enforces level := by
  obtain ⟨state, member, enforces⟩ := enforced
  have listed : state.terms ∈ after.levels.map LevelState.terms := by
    rw [same]
    exact List.mem_map_of_mem member
  obtain ⟨other, inAfter, terms⟩ := List.mem_map.mp listed
  refine ⟨other, inAfter, ?_⟩
  rw [LevelState.Enforces, terms]
  exact enforces

/-- A chain just laid out has a level for each of those it was laid out from. -/
theorem exists_enforces_laidOut {now : Time} {levels : List ChainLevel} {level : ChainLevel} (member : level ∈ levels) :
    ∃ state ∈ (⟨levels.mapIdx (initLevelState now), 0⟩ : ChainState).levels, state.Enforces level := by
  obtain ⟨i, bound, here⟩ := List.mem_iff_getElem.mp member
  refine ⟨initLevelState now i level, List.mem_iff_getElem.mpr ⟨i, by simpa using bound, ?_⟩, rfl⟩
  rw [List.getElem_mapIdx, here]

section
variable {tenant : Tenant} {request : ApproveRequest} {now : Time} {before after : Invoice}

theorem StartsFrom.covers {base : ChainState} (starts : StartsFrom tenant now (before.correct tenant request) (some base))
    (corrected : ChainCoversCorrected tenant request before) {levels : List ChainLevel}
    (applies : (before.correct tenant request).applicable tenant = .ok levels) {level : ChainLevel}
    (member : level ∈ levels) : ∃ state ∈ base.levels, state.Enforces level := by
  cases starts with
  | stored here =>
    rw [Invoice.correct_chain] at here
    exact (corrected levels applies level member).2 base here
  | @laidOut laid _ _ _ same _ =>
    cases Except.ok.inj (same.symm.trans applies)
    exact exists_enforces_laidOut member

theorem StartsFrom.workflow_ne_none {base : ChainState}
    (starts : StartsFrom tenant now (before.correct tenant request) (some base)) : before.workflow ≠ none := by
  cases starts with
  | stored here => exact Invoice.workflow_ne_none ((Invoice.correct_chain _ _ _).symm.trans here)
  | laidOut _ some' =>
    rw [Invoice.correct_workflow] at some'
    exact some'

theorem StartsFrom.eq_of_chain {base chain : ChainState}
    (starts : StartsFrom tenant now (before.correct tenant request) (some base)) (found : before.chain = some chain) :
    base = chain := by
  cases starts with
  | stored here =>
    rw [Invoice.correct_chain, found] at here
    exact (Option.some.inj here).symm
  | laidOut _ _ fresh =>
    rw [Invoice.correct_chain, found] at fresh
    cases fresh

/-- An approval with nothing left to sign found no chain and needed none, or leaves the levels it started
from. -/
theorem Signed.completes {actor : UserId} {invoice : Invoice} {final : Option ChainState}
    (signed : Signed tenant actor now invoice (.ok true) final)
    (chained : (invoice.approvalConfig tenant).approverStrategy = some .chain) :
    (final = none ∧ (invoice.workflow = none ∨ invoice.applicable tenant = .ok [])) ∨
    ∃ base chain, StartsFrom tenant now invoice (some base) ∧ final = some chain ∧
      chain.levels.map LevelState.terms = base.levels.map LevelState.terms := by
  cases signed with
  | exempt free =>
    have none' := free.resolve_left (not_not_intro chained)
    exact .inl ⟨by rw [Invoice.chain, none']; rfl, .inl none'⟩
  | exhausted starts =>
    cases starts with
    | unrouted some' fresh free => exact .inl ⟨rfl, .inr free⟩
    | stored here => exact .inr ⟨_, _, .stored here, rfl, rfl⟩
    | laidOut _ some' fresh levels routed => exact .inr ⟨_, _, .laidOut chained some' fresh levels routed, rfl, rfl⟩
  | advanced _ starts advanced => exact .inr ⟨_, _, starts, rfl, advanced.terms⟩

/-- The chain an approval completes covers the invoice if and only if the chain it found covers the
invoice as corrected. -/
theorem Signed.covers_iff (sound : before.ChainSound)
    (chained : (before.approvalConfig tenant).approverStrategy = some .chain)
    (applicable : after.applicable tenant = (before.correct tenant request).applicable tenant)
    (signed : Signed tenant request.actorId now (before.correct tenant request) (.ok true) after.chain) :
    ChainCovers tenant after ↔ ChainCoversCorrected tenant request before := by
  have correctedSound : (before.correct tenant request).ChainSound := by
    unfold Invoice.ChainSound
    rw [Invoice.correct_chain]
    exact sound
  have correctedChained : ((before.correct tenant request).approvalConfig tenant).approverStrategy = some .chain := by
    rw [Invoice.correct_approvalConfig]
    exact chained
  rcases signed.completes correctedChained with ⟨none', free⟩ | ⟨base, chain, starts, left, terms⟩
  · constructor
    · intro covers levels applies level member
      obtain ⟨chain, here, _⟩ := covers levels (applicable.trans applies) level member
      cases none'.symm.trans here
    · intro corrected levels applies level member
      rw [applicable] at applies
      rcases free with none' | empty
      · rw [Invoice.correct_workflow] at none'
        exact absurd none' (corrected levels applies level member).1
      · cases Except.ok.inj (empty.symm.trans applies)
        cases member
  · constructor
    · intro covers levels applies level member
      obtain ⟨final, here, state, inFinal, enforces, _⟩ := covers levels (applicable.trans applies) level member
      cases left.symm.trans here
      refine ⟨starts.workflow_ne_none, fun stored found => ?_⟩
      have same := starts.eq_of_chain found
      cases same
      exact exists_enforces_of_terms terms.symm ⟨state, inFinal, enforces⟩
    · intro corrected levels applies level member
      rw [applicable] at applies
      obtain ⟨state, inChain, enforces⟩ := exists_enforces_of_terms terms (starts.covers corrected applies member)
      exact ⟨chain, left, state, inChain, enforces, signed.satisfied correctedSound correctedChained left inChain⟩

/-- In any run, when an approval moves the invoice to `approved`, every level that applies to it then is
satisfied in its chain if and only if the approval found a workflow instance, with every such level in
the chain it found there, if it found one. -/
theorem reach_chainCovers_iff {history : InvoiceHistory} (reach : (invoiceMachine tenant).Reach Machine.Anything history)
    {label : InvoiceLabel} (call : label.approveRequest? = some request)
    (chained : (history.invoice.approvalConfig tenant).approverStrategy = some .chain)
    (entered : history.invoice.Enters (runInvoiceLabel tenant history.clock history.invoice label) .approved) :
    ChainCovers tenant (runInvoiceLabel tenant history.clock history.invoice label) ↔
      ChainCoversCorrected tenant request history.invoice := by
  have sound := reach_chainSound reach
  have approval : Approval tenant request history.clock history.invoice
      (runInvoiceLabel tenant history.clock history.invoice label) := runInvoiceLabel_approval call
  generalize runInvoiceLabel tenant history.clock history.invoice label = after at approval entered
  cases approval with
  | idle status => exact absurd (status.symm.trans entered.2) entered.1
  | partly status => exact absurd (status.symm.trans entered.2) entered.1
  | approved _ _ _ applicable signed => exact signed.covers_iff sound chained applicable

end

theorem chainCovers_twoReviewers : ChainCovers chainTenant
    (runInvoiceLabel chainTenant 1 ((invoiceMachine chainTenant).exec (underReview (some twoLevelInstance))
      [.approve (approvalBy "first" [])]).invoice (.approve (approvalBy "second" []))) := by
  have first : (invoiceMachine chainTenant).init (underReview (some twoLevelInstance)) := ⟨by decide, by decide, rfl, rfl, rfl⟩
  have reach := Machine.reach_exec first [.approve (approvalBy "first" [])]
  have chained : (((invoiceMachine chainTenant).exec (underReview (some twoLevelInstance))
      [.approve (approvalBy "first" [])]).invoice.approvalConfig chainTenant).approverStrategy = some .chain := by
    decide +kernel
  have entered : ((invoiceMachine chainTenant).exec (underReview (some twoLevelInstance))
      [.approve (approvalBy "first" [])]).invoice.Enters (runInvoiceLabel chainTenant 1
        ((invoiceMachine chainTenant).exec (underReview (some twoLevelInstance)) [.approve (approvalBy "first" [])]).invoice
          (.approve (approvalBy "second" []))) .approved := by decide +kernel
  refine (reach_chainCovers_iff reach rfl chained entered).mpr fun levels applies level member => ?_
  have one : (((invoiceMachine chainTenant).exec (underReview (some twoLevelInstance)) [.approve (approvalBy "first" [])]).invoice.correct
      chainTenant (approvalBy "second" [])).applicable chainTenant = .ok [reviewers] := by decide +kernel
  cases Except.ok.inj (one.symm.trans applies)
  cases List.mem_singleton.mp member
  refine ⟨by decide +kernel, fun chain here => ?_⟩
  have found : ((((invoiceMachine chainTenant).exec (underReview (some twoLevelInstance))
      [.approve (approvalBy "first" [])]).invoice.chain).all fun chain =>
        chain.levels.any fun state => decide (state.Enforces reviewers)) = true := by decide +kernel
  rw [here, Option.all_some, List.any_eq_true] at found
  obtain ⟨state, inChain, enforces⟩ := found
  exact ⟨state, inChain, of_decide_eq_true enforces⟩

/-- Between two approvals of the same level the amount is raised past the director's threshold; and an
invoice without a workflow instance is approved on one signature. -/
theorem raised_and_unrouted_approvals_not_covered :
    (∃ labels, let history := (invoiceMachine chainTenant).exec (underReview (some twoLevelInstance)) labels
      let after := runInvoiceLabel chainTenant history.clock history.invoice (.approve (approvalBy "second" []))
      history.invoice.Enters after .approved ∧ ¬ChainCovers chainTenant after) ∧
    ∃ labels, let history := (invoiceMachine chainTenant).exec (underReview none) labels
      let after := runInvoiceLabel chainTenant history.clock history.invoice (.approve (approvalBy "first" []))
      history.invoice.Enters after .approved ∧ ¬ChainCovers chainTenant after := by
  constructor
  · exact ⟨[.approve (approvalBy "first" []), .updateInvoice [.amount 5000] noRates], by decide +kernel, by decide +kernel⟩
  · exact ⟨[], by decide +kernel, by decide +kernel⟩

end Payables
