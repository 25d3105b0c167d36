import Payables.Lib.Raising
import Payables.Workflow.Approvals
import Payables.Workflow.BulkStatus

namespace Payables
open Lib

/-- What is reported of each invoice is what is committed of it: a skipped one is as it was, and an updated one
moved to the status asked for. -/
structure AtomicPerInvoice (body : BulkStatusRequest) (table : InvoiceTable) (response : BulkStatusResponse)
    (committed : List InvoiceRecord) : Prop where
  skipped : ∀ skip ∈ response.skipped, ∀ row ∈ table.rows, row.id = skip.id → ∀ after ∈ committed, after.id = row.id → after = row
  updated : ∀ row ∈ table.rows, row.id ∈ body.ids → row.id ∉ response.skipped.map (·.id) →
    ∀ after ∈ committed, after.id = row.id → row.invoice.status ≠ body.status ∧ after.invoice.status = body.status

/-- The chain an approval is to sign, with its current level. -/
def Invoice.signing (invoice : Invoice) (tenant : Tenant) (now : Time) : Except Raised (Option (ChainState × LevelState)) :=
  match (invoice.approvalConfig tenant).approverStrategy, invoice.workflow with
  | some .chain, some workflow => do
    let started ← invoice.startChain tenant now workflow.stateData
    return (chainStateOf started).bind fun chain => chain.levels[chain.currentLevel]?.map (chain, ·)
  | _, _ => .ok none

/-- Either there is no level to sign, or the signature completes the last one, or it is refused by a chain that had
been started before; and where an approval gets to its own columns, the status lets it through or they say the same. -/
def SigningAllOrNothing (caller : BulkCaller) (row : InvoiceRecord) : Except Raised (Option (ChainState × LevelState)) → Prop
  | .error _ => True
  | .ok none => InvoiceStatus.approved ∈ row.invoice.status.validTransitions ∨
      row.invoice.approvedBy = some caller.fullName ∧ row.approvalDate = some caller.today
  | .ok (some (chain, level)) =>
    if checkLevelApprover (caller.request row.id).delegateOf level.approverIds caller.actorId = .ok () ∧
        approvedElsewhere chain.levels chain.currentLevel caller.actorId = false then
      levelSatisfied (level.record caller.actorId caller.now) = true ∧ chain.levels.length = chain.currentLevel + 1 ∧
        InvoiceStatus.approved ∈ row.invoice.status.validTransitions
    else row.invoice.chain = some chain

instance (caller : BulkCaller) (row : InvoiceRecord) :
    (signing : Except Raised (Option (ChainState × LevelState))) → Decidable (SigningAllOrNothing caller row signing)
  | .error _ => inferInstanceAs (Decidable True)
  | .ok none => inferInstanceAs (Decidable (InvoiceStatus.approved ∈ row.invoice.status.validTransitions ∨
      row.invoice.approvedBy = some caller.fullName ∧ row.approvalDate = some caller.today))
  | .ok (some (chain, level)) => inferInstanceAs (Decidable (
      if checkLevelApprover (caller.request row.id).delegateOf level.approverIds caller.actorId = .ok () ∧
          approvedElsewhere chain.levels chain.currentLevel caller.actorId = false then
        levelSatisfied (level.record caller.actorId caller.now) = true ∧ chain.levels.length = chain.currentLevel + 1 ∧
          InvoiceStatus.approved ∈ row.invoice.status.validTransitions
      else row.invoice.chain = some chain))

/-- What an approval needs once its gates let it through. -/
def ApprovalAllOrNothing (caller : BulkCaller) (row : InvoiceRecord) : Prop :=
  row.invoice.approvalGates caller.tenant (caller.request row.id) = .ok () →
    SigningAllOrNothing caller row (row.invoice.signing caller.tenant caller.now)
  deriving Decidable

/-- A rejection meets an invoice that can be rejected, or that names the same person already. -/
def RejectionAllOrNothing (caller : BulkCaller) (row : InvoiceRecord) : Prop :=
  InvoiceStatus.rejected ∈ row.invoice.status.validTransitions ∨ row.invoice.rejectedBy = some caller.fullName
  deriving Decidable

def AllOrNothing (caller : BulkCaller) (target : InvoiceStatus) (row : InvoiceRecord) : Prop :=
  row.invoice.status ∉ InvoiceStatus.immutableStatuses →
    (target = .approved → ApprovalAllOrNothing caller row) ∧ (target = .rejected → RejectionAllOrNothing caller row)
  deriving Decidable

section
variable {invoice : Invoice} {tenant : Tenant} {request : ApproveRequest} {now : Time}

theorem startChain_stored {stateData started : Option StateData} {chain : ChainState} (stored : chainStateOf stateData = some chain)
    (ok : invoice.startChain tenant now stateData = .ok started) : started = stateData := by
  unfold Invoice.startChain at ok
  rw [stored] at ok
  exact (Except.ok.inj ok).symm

/-- A chain that is laid out has a first level. -/
theorem startChain_fresh {stateData started : Option StateData} (none' : chainStateOf stateData = none)
    (ok : invoice.startChain tenant now stateData = .ok started) :
    started = stateData ∨ ∃ chain level, chainStateOf started = some chain ∧ chain.levels[chain.currentLevel]? = some level := by
  unfold Invoice.startChain at ok
  rw [none'] at ok
  obtain ⟨levels, _, ok⟩ := bind_eq_ok.mp ok
  cases ok
  cases levels with
  | nil => exact .inl (if_pos rfl)
  | cons first rest =>
    refine .inr ⟨⟨(first :: rest).mapIdx (initLevelState now), 0⟩, initLevelState now 0 first, ?_, ?_⟩
    · rw [if_neg (List.cons_ne_nil _ _)]
      rfl
    · rw [List.mapIdx_cons]
      rfl

/-- Without a level to sign an approval changes nothing of the chain. -/
theorem signChain_of_none (nothing : invoice.signing tenant now = .ok none) :
    invoice.signChain tenant request now = (.ok true, invoice) := by
  unfold Invoice.signing at nothing
  unfold Invoice.signChain
  split
  · next workflow chained here =>
    rw [chained, here] at nothing
    obtain ⟨started, ok, nothing⟩ := bind_eq_ok.mp nothing
    have noLevel : ((chainStateOf started).bind fun chain => chain.levels[chain.currentLevel]?) = none := by
      have mapped := Except.ok.inj nothing
      cases stored : chainStateOf started with
      | none => rfl
      | some chain =>
        rw [stored, Option.bind_some] at mapped
        exact Option.map_eq_none_iff.mp mapped
    have same : started = workflow.stateData := by
      cases stored : chainStateOf workflow.stateData with
      | some chain => exact startChain_stored stored ok
      | none =>
        rcases startChain_fresh stored ok with same | ⟨chain, level, laid, atCurrent⟩
        · exact same
        · rw [laid, Option.bind_some, atCurrent] at noLevel
          cases noLevel
    have answer : advanceApprovalChain now started request.actorId = (.ok true, started) := by
      unfold advanceApprovalChain
      cases stored : chainStateOf started with
      | none => rfl
      | some chain =>
        rw [stored, Option.bind_some] at noLevel
        simp only [noLevel]
    simp only [ok, Invoice.checkCurrentLevel, noLevel, answer]
    have back := invoice.withStateData_self
    rw [here, Option.bind_some] at back
    rw [same, back]
  · rfl

theorem Advanced.ne {actor : UserId} {chain after : ChainState} {answer : Bool} (advanced : Advanced now actor chain answer after) :
    after ≠ chain := by
  intro same
  cases advanced with
  | @recorded level atCurrent _ _ =>
    have levels : chain.levels.set chain.currentLevel (level.record actor now) = chain.levels := congrArg ChainState.levels same
    have again := congrArg (·[chain.currentLevel]?) levels
    simp only [List.getElem?_set_self', atCurrent, Option.map_eq_map, Option.map_some, Option.some.injEq] at again
    have longer : (level.approvals ++ [(⟨actor, now⟩ : LevelApproval)]).length = level.approvals.length :=
      congrArg (fun level => level.approvals.length) again
    rw [List.length_append, List.length_singleton] at longer
    omega
  | completed =>
    have current : chain.currentLevel + 1 = chain.currentLevel := congrArg ChainState.currentLevel same
    omega
  | moved =>
    have current : chain.currentLevel + 1 = chain.currentLevel := congrArg ChainState.currentLevel same
    omega

/-- An approval completes a chain when it satisfies the last level. -/
theorem Advanced.answer_eq {actor : UserId} {chain after : ChainState} {level : LevelState} {answer : Bool}
    (advanced : Advanced now actor chain answer after) (atCurrent : chain.levels[chain.currentLevel]? = some level) :
    answer = (levelSatisfied (level.record actor now) && chain.levels.length == chain.currentLevel + 1) := by
  have inside := (List.getElem?_eq_some_iff.mp atCurrent).1
  cases advanced with
  | recorded same _ short =>
    cases Option.some.inj (atCurrent.symm.trans same)
    rw [short, Bool.false_and]
  | completed same _ met last =>
    cases Option.some.inj (atCurrent.symm.trans same)
    have length := List.getElem?_eq_none_iff.mp last
    rw [List.length_set] at length
    have exact' : chain.levels.length = chain.currentLevel + 1 := by omega
    rw [met, exact', beq_self_eq_true, Bool.and_self]
  | moved same _ met next =>
    cases Option.some.inj (atCurrent.symm.trans same)
    have length := (List.getElem?_eq_some_iff.mp next).1
    rw [List.length_set] at length
    have more : (chain.levels.length == chain.currentLevel + 1) = false := beq_eq_false_iff_ne.mpr (by omega)
    rw [met, more, Bool.and_false]

/-- A fresh signature on an open level is recorded. -/
theorem advanceApprovalChain_fresh {stateData : Option StateData} {actor : UserId} {chain : ChainState} {level : LevelState}
    (stored : chainStateOf stateData = some chain) (atCurrent : chain.levels[chain.currentLevel]? = some level)
    (fresh : approvedElsewhere chain.levels chain.currentLevel actor = false) :
    ∃ after answer, Advanced now actor chain answer after ∧
      advanceApprovalChain now stateData actor = (.ok answer, some (withChainState stateData after)) := by
  rcases advanceApprovalChain_cases now stateData actor with ⟨_, past⟩ | refused | ⟨other, after, answer, same, advanced, result⟩
  · have inside := (List.getElem?_eq_some_iff.mp atCurrent).1
    exact absurd (past chain stored) (not_le.mpr inside)
  · unfold advanceApprovalChain at refused
    simp only [stored, atCurrent, fresh, Bool.false_eq_true, if_false] at refused
    split at refused
    · split at refused
      · cases refused
      · cases refused
    · cases refused
  · cases Option.some.inj (stored.symm.trans same)
    exact ⟨after, answer, advanced, result⟩

theorem advanceApprovalChain_elsewhere {stateData : Option StateData} {actor : UserId} {chain : ChainState} {level : LevelState}
    (stored : chainStateOf stateData = some chain) (atCurrent : chain.levels[chain.currentLevel]? = some level)
    (elsewhere : approvedElsewhere chain.levels chain.currentLevel actor = true) :
    advanceApprovalChain now stateData actor = (.error alreadyApprovedElsewhere, stateData) := by
  unfold advanceApprovalChain
  simp only [stored, atCurrent, elsewhere, if_true]

/-- What an approval does to a level it is to sign. -/
structure SignsLevel (invoice : Invoice) (request : ApproveRequest) (now : Time) (chain : ChainState) (level : LevelState)
    (result : Except Raised Bool × Invoice) : Prop where
  status : result.2.status = invoice.status
  signed : checkLevelApprover request.delegateOf level.approverIds request.actorId = .ok () →
    approvedElsewhere chain.levels chain.currentLevel request.actorId = false →
      result.2.chain ≠ invoice.chain ∧
        result.1 = .ok (levelSatisfied (level.record request.actorId now) && chain.levels.length == chain.currentLevel + 1)
  refused : ¬(checkLevelApprover request.delegateOf level.approverIds request.actorId = .ok () ∧
      approvedElsewhere chain.levels chain.currentLevel request.actorId = false) →
    result.2.chain = some chain ∧ (invoice.chain = some chain → result.2 = invoice) ∧ ∃ raised, result.1 = .error raised

theorem signChain_of_some {chain : ChainState} {level : LevelState} (found : invoice.signing tenant now = .ok (some (chain, level))) :
    SignsLevel invoice request now chain level (invoice.signChain tenant request now) := by
  unfold Invoice.signing at found
  split at found
  · next workflow chained here =>
    obtain ⟨started, ok, found⟩ := bind_eq_ok.mp found
    obtain ⟨stored, atCurrent⟩ : chainStateOf started = some chain ∧ chain.levels[chain.currentLevel]? = some level := by
      obtain ⟨other, stored, mapped⟩ := Option.bind_eq_some_iff.mp (Except.ok.inj found)
      obtain ⟨same, atCurrent, pair⟩ := Option.map_eq_some_iff.mp mapped
      cases pair
      exact ⟨stored, atCurrent⟩
    have kept : (invoice.withStateData started).chain = some chain := (invoice.withStateData_chain started here).trans stored
    have before : invoice.chain = chainStateOf workflow.stateData := by rw [Invoice.chain, here, Option.bind_some]
    have unchanged : invoice.chain = some chain → invoice.withStateData started = invoice := by
      intro same
      have again := startChain_stored (before.symm.trans same) ok
      have back := invoice.withStateData_self
      rw [here, Option.bind_some] at back
      rw [again, back]
    have gate : Invoice.checkCurrentLevel request started = checkLevelApprover request.delegateOf level.approverIds request.actorId := by
      simp only [Invoice.checkCurrentLevel, stored, Option.bind_some, atCurrent]
    unfold Invoice.signChain
    simp only [chained, here, ok, gate]
    cases named : checkLevelApprover request.delegateOf level.approverIds request.actorId with
    | error raised =>
      refine ⟨rfl, fun passed => ?_, fun _ => ⟨kept, unchanged, raised, rfl⟩⟩
      rw [named] at passed
      cases passed
    | ok =>
      cases elsewhere : approvedElsewhere chain.levels chain.currentLevel request.actorId with
      | true =>
        rw [advanceApprovalChain_elsewhere stored atCurrent elsewhere]
        refine ⟨rfl, fun _ fresh => ?_, fun _ => ⟨kept, unchanged, _, rfl⟩⟩
        rw [elsewhere] at fresh
        cases fresh
      | false =>
        obtain ⟨after, answer, (advanced : Advanced now _ _ _ _), result⟩ := advanceApprovalChain_fresh stored atCurrent elsewhere
        rw [result]
        refine ⟨rfl, fun _ _ => ⟨fun same => ?_, ?_⟩, fun refused => absurd ⟨named, elsewhere⟩ refused⟩
        · have new : (invoice.withStateData (some (withChainState started after))).chain = some after :=
            invoice.withStateData_chain _ here
          have stored' : chainStateOf workflow.stateData = some after := before.symm.trans (same.symm.trans new)
          have again := startChain_stored stored' ok
          rw [again, stored'] at stored
          exact advanced.ne (Option.some.inj stored)
        · rw [advanced.answer_eq atCurrent]
  · cases found

/-- A gate that refuses ends an approval, before or after the corrections. -/
theorem approve_error_of_gates {raised : Raised} (refused : invoice.approvalGates tenant request = .error raised) :
    invoice.approve tenant request now = (.error raised, invoice) ∨
      invoice.approve tenant request now = (.error raised, invoice.correct tenant request) := by
  unfold Invoice.approvalGates at refused
  unfold Invoice.approve
  simp only at refused ⊢
  cases segregated : checkSegregation invoice.uploadedById invoice.segregationActorIds request.actorId (invoice.approvalConfig tenant) with
  | error other =>
    rw [segregated] at refused
    cases refused
    exact .inl rfl
  | ok =>
    rw [segregated] at refused
    cases named : checkNamedApprover request (invoice.approvalConfig tenant) with
    | error other =>
      rw [named] at refused
      cases refused
      exact .inl rfl
    | ok =>
      rw [named] at refused
      have threshold : enforceApprovalThresholds tenant.settings request (invoice.correct tenant request).fields
          (invoice.correct tenant request).lock (invoice.approvalConfig tenant) = .error raised := refused
      simp only [threshold]
      exact .inr trivial

theorem approve_of_refused {raised : Raised} (plain : request.corrections = [])
    (refused : invoice.approvalGates tenant request = .error raised) :
    invoice.approve tenant request now = (.error raised, invoice) := by
  rcases approve_error_of_gates refused with result | result
  · exact result
  · rwa [invoice.correct_of_nil tenant request plain] at result

/-- The end of `approve_invoice`, after the chain. -/
def afterSigning (request : ApproveRequest) : Except Raised Bool × Invoice → ServiceOutcome
  | (.error raised, signed) => (.error raised, signed)
  | (.ok false, signed) => (.ok (), signed)
  | (.ok true, signed) => { signed with approvedBy := some request.actorName }.transition .approved

theorem approve_of_gates (passed : invoice.approvalGates tenant request = .ok ()) :
    invoice.approve tenant request now = afterSigning request ((invoice.correct tenant request).signChain tenant request now) := by
  obtain ⟨_, segregated, passed⟩ := bind_eq_ok.mp passed
  obtain ⟨_, named, threshold⟩ := bind_eq_ok.mp passed
  simp only at threshold
  unfold Invoice.approve
  simp only [segregated, named, threshold]
  obtain ⟨answer, signed⟩ := (invoice.correct tenant request).signChain tenant request now
  cases answer with
  | error => rfl
  | ok complete => cases complete <;> rfl

theorem approve_of_passed (plain : request.corrections = []) (passed : invoice.approvalGates tenant request = .ok ()) :
    invoice.approve tenant request now = afterSigning request (invoice.signChain tenant request now) := by
  rw [approve_of_gates passed, invoice.correct_of_nil tenant request plain]

theorem signChain_of_error {raised : Raised} (failed : invoice.signing tenant now = .error raised) :
    invoice.signChain tenant request now = (.error raised, invoice) := by
  unfold Invoice.signing at failed
  unfold Invoice.signChain
  split
  · next workflow chained here =>
    rw [chained, here] at failed
    cases ok : invoice.startChain tenant now workflow.stateData with
    | error other =>
      simp only [ok] at failed
      cases failed
      rfl
    | ok started =>
      simp only [ok] at failed
      cases failed
  · next other =>
    split at failed
    · next workflow chained here => exact (other workflow chained here).elim
    · cases failed

theorem finalizes_iff (plain : request.corrections = []) : invoice.finalizes tenant request now = true ↔
    invoice.approvalGates tenant request = .ok () ∧ (invoice.signChain tenant request now).1 = .ok true := by
  unfold Invoice.finalizes
  rw [invoice.correct_of_nil tenant request plain]
  split
  · next passed signed => exact ⟨fun _ => ⟨passed, signed⟩, fun _ => rfl⟩
  · next other => exact ⟨Bool.noConfusion, fun ⟨passed, signed⟩ => (other passed signed).elim⟩

end

/-- One member of the batch: skipped it is as before, updated it has moved. -/
def RowAtomic (target : InvoiceStatus) (row after : InvoiceRecord) : BulkOutcome → Prop
  | .skipped _ => after = row
  | .updated => row.invoice.status ≠ target ∧ after.invoice.status = target

section
variable {caller : BulkCaller} {target : InvoiceStatus} {row after : InvoiceRecord} {outcome : BulkOutcome}

theorem ne_of_validTransition {current : InvoiceStatus} (valid : target ∈ current.validTransitions) : current ≠ target := by
  rintro rfl
  revert valid
  cases current <;> decide

theorem settle_error {raised : Raised} {left : InvoiceRecord} (found : InvoiceRecord.settle (.error raised, left) = .ok (after, outcome)) :
    after = left ∧ ∃ reason, outcome = .skipped reason := by
  cases raised with
  | http code detail =>
    cases found
    exact ⟨rfl, detail, rfl⟩
  | uncaught => cases found

/-- A transition without any write before it is all or nothing. -/
theorem rowAtomic_of_transition (found : InvoiceRecord.settle (row.refreshed caller (row.called (row.invoice.transition target))) =
    .ok (after, outcome)) : RowAtomic target row after outcome := by
  unfold Invoice.transition at found
  cases valid : InvoiceStatus.validateTransition row.invoice.status target with
  | error raised =>
    rw [valid] at found
    obtain ⟨rfl, reason, rfl⟩ := settle_error found
    rfl
  | ok =>
    rw [valid] at found
    cases found
    exact ⟨ne_of_validTransition (InvoiceStatus.validateTransition_eq_ok.mp valid), rfl⟩

theorem rowAtomic_of_reject (found : InvoiceRecord.settle (row.called (row.invoice.reject caller.fullName)) = .ok (after, outcome)) :
    RowAtomic .rejected row after outcome ↔ RejectionAllOrNothing caller row := by
  unfold RejectionAllOrNothing
  unfold Invoice.reject Invoice.transition at found
  cases valid : InvoiceStatus.validateTransition row.invoice.status .rejected with
  | error raised =>
    have invalid : InvoiceStatus.rejected ∉ row.invoice.status.validTransitions := by
      intro edge
      rw [InvoiceStatus.validateTransition_eq_ok.mpr edge] at valid
      cases valid
    simp only [valid] at found
    obtain ⟨rfl, reason, rfl⟩ := settle_error found
    constructor
    · intro same
      exact .inr (congrArg (fun row => row.invoice.rejectedBy) (show _ = row from same)).symm
    · intro named
      have named' := named.resolve_left invalid
      show { row with invoice := { row.invoice with rejectedBy := some caller.fullName } } = row
      rw [← named']
  | ok =>
    simp only [valid] at found
    have edge := InvoiceStatus.validateTransition_eq_ok.mp valid
    cases found
    exact ⟨fun _ => .inl edge, fun _ => ⟨ne_of_validTransition edge, rfl⟩⟩

/-- What `approve_invoice` leaves of a row once its gates let it through. -/
theorem approve_row (passed : row.invoice.approvalGates caller.tenant (caller.request row.id) = .ok ()) {answer : Except Raised Bool}
    {signed : Invoice} (sign : row.invoice.signChain caller.tenant (caller.request row.id) caller.now = (answer, signed)) :
    row.approve caller = { row with approvalDate := if answer = Except.ok true then some caller.today else row.approvalDate }.called
      (afterSigning (caller.request row.id) (answer, signed)) := by
  unfold InvoiceRecord.approve
  simp only
  rw [approve_of_passed rfl passed, sign]
  by_cases complete : answer = Except.ok true
  · have finalizes : row.invoice.finalizes caller.tenant (caller.request row.id) caller.now = true :=
      (finalizes_iff rfl).mpr ⟨passed, by rw [sign]; exact complete⟩
    rw [if_pos finalizes, if_pos complete]
  · have stays : ¬row.invoice.finalizes caller.tenant (caller.request row.id) caller.now = true := by
      intro finalizes
      have signed' := ((finalizes_iff rfl).mp finalizes).2
      rw [sign] at signed'
      exact complete signed'
    rw [if_neg stays, if_neg complete]

/-- The last part of an approval: its own columns, and the transition. -/
theorem rowAtomic_of_finalize {signed : Invoice} (status : signed.status = row.invoice.status)
    (found : InvoiceRecord.settle ({ row with approvalDate := some caller.today }.called
      (afterSigning (caller.request row.id) (.ok true, signed))) = .ok (after, outcome)) :
    RowAtomic .approved row after outcome ↔ InvoiceStatus.approved ∈ row.invoice.status.validTransitions ∨
      row = ⟨row.id, { signed with approvedBy := some caller.fullName }, some caller.today⟩ := by
  unfold afterSigning Invoice.transition at found
  simp only at found
  cases valid : InvoiceStatus.validateTransition signed.status .approved with
  | error raised =>
    have invalid : InvoiceStatus.approved ∉ row.invoice.status.validTransitions := by
      rw [← status]
      intro edge
      rw [InvoiceStatus.validateTransition_eq_ok.mpr edge] at valid
      cases valid
    rw [valid] at found
    obtain ⟨rfl, reason, rfl⟩ := settle_error found
    exact ⟨fun same => .inr (Eq.symm same), fun either => (either.resolve_left invalid).symm⟩
  | ok =>
    have edge : InvoiceStatus.approved ∈ row.invoice.status.validTransitions := by
      rw [← status]
      exact InvoiceStatus.validateTransition_eq_ok.mp valid
    rw [valid] at found
    cases found
    exact ⟨fun _ => .inl edge, fun _ => ⟨ne_of_validTransition edge, rfl⟩⟩

theorem rowAtomic_of_approve (found : InvoiceRecord.settle (row.approve caller) = .ok (after, outcome)) :
    RowAtomic .approved row after outcome ↔ ApprovalAllOrNothing caller row := by
  unfold ApprovalAllOrNothing
  cases gates : row.invoice.approvalGates caller.tenant (caller.request row.id) with
  | error raised =>
    have stays : ¬row.invoice.finalizes caller.tenant (caller.request row.id) caller.now = true := by
      intro finalizes
      have passed := ((finalizes_iff rfl).mp finalizes).1
      rw [gates] at passed
      cases passed
    unfold InvoiceRecord.approve at found
    simp only at found
    rw [if_neg stays, approve_of_refused rfl gates] at found
    obtain ⟨rfl, reason, rfl⟩ := settle_error found
    refine ⟨fun _ passed => ?_, fun _ => rfl⟩
    cases passed
  | ok =>
    simp only [true_implies]
    cases signing : row.invoice.signing caller.tenant caller.now with
    | error raised =>
      rw [approve_row gates (signChain_of_error signing), if_neg (by rintro ⟨⟩)] at found
      obtain ⟨rfl, reason, rfl⟩ := settle_error found
      exact ⟨fun _ => trivial, fun _ => rfl⟩
    | ok level =>
      cases level with
      | none =>
        rw [approve_row gates (signChain_of_none signing), if_pos rfl] at found
        rw [rowAtomic_of_finalize rfl found]
        refine or_congr_right ⟨fun same => ?_, fun ⟨named, dated⟩ => ?_⟩
        · exact ⟨congrArg (fun row => row.invoice.approvedBy) same, congrArg InvoiceRecord.approvalDate same⟩
        · rw [← named, ← dated]
      | some found' =>
        obtain ⟨chain, level⟩ := found'
        have signs : SignsLevel row.invoice (caller.request row.id) caller.now chain level
          (row.invoice.signChain caller.tenant (caller.request row.id) caller.now) := signChain_of_some signing
        obtain ⟨answer, signed, sign⟩ : ∃ answer signed,
          row.invoice.signChain caller.tenant (caller.request row.id) caller.now = (answer, signed) := ⟨_, _, rfl⟩
        rw [sign] at signs
        rw [approve_row gates sign] at found
        simp only [SigningAllOrNothing]
        split
        · next open' =>
          obtain ⟨changed, answered⟩ := signs.signed open'.1 open'.2
          simp only at answered changed
          cases last : levelSatisfied (level.record caller.actorId caller.now) && chain.levels.length == chain.currentLevel + 1 with
          | false =>
            have partly : answer = .ok false := answered.trans (congrArg Except.ok last)
            rw [partly, if_neg (by rintro ⟨⟩)] at found
            cases found
            constructor
            · rintro ⟨elsewhere, moved⟩
              exact absurd (signs.status.symm.trans moved) elsewhere
            · rintro ⟨met, length, _⟩
              rw [met, length, beq_self_eq_true] at last
              cases last
          | true =>
            have complete : answer = .ok true := answered.trans (congrArg Except.ok last)
            obtain ⟨met, length⟩ := Bool.and_eq_true_iff.mp last
            rw [complete, if_pos rfl] at found
            rw [rowAtomic_of_finalize signs.status found]
            constructor
            · rintro (edge | same)
              · exact ⟨met, beq_iff_eq.mp length, edge⟩
              · exact absurd (congrArg (fun row => row.invoice.chain) same).symm changed
            · rintro ⟨_, _, edge⟩
              exact .inl edge
        · next closed =>
          obtain ⟨kept, same, raised, refused⟩ := signs.refused closed
          simp only at kept same refused
          rw [refused, if_neg (by rintro ⟨⟩)] at found
          obtain ⟨rfl, reason, rfl⟩ := settle_error found
          constructor
          · intro unchanged
            have invoice : signed = row.invoice := congrArg InvoiceRecord.invoice (show _ = row from unchanged)
            rw [← invoice]
            exact kept
          · intro stored
            show ({ row with invoice := signed } : InvoiceRecord) = row
            rw [same stored]

/-- One member of a batch is all or nothing exactly under its condition. -/
theorem rowAtomic_iff (found : row.changeStatus caller target = .ok (after, outcome)) :
    RowAtomic target row after outcome ↔ AllOrNothing caller target row := by
  unfold InvoiceRecord.changeStatus at found
  unfold AllOrNothing
  split at found
  · next immutable =>
    cases found
    exact ⟨fun _ mutable' => absurd immutable mutable', fun _ => rfl⟩
  next mutable' =>
  simp only [mutable', not_false_eq_true, true_implies]
  split at found
  · next approved =>
    rw [approved]
    rw [rowAtomic_of_approve found]
    exact ⟨fun held => ⟨fun _ => held, InvoiceStatus.noConfusion⟩, fun held => held.1 rfl⟩
  next notApproved =>
  split at found
  · next rejected =>
    rw [rejected]
    rw [rowAtomic_of_reject found]
    exact ⟨fun held => ⟨InvoiceStatus.noConfusion, fun _ => held⟩, fun held => held.2 rfl⟩
  next notRejected =>
  have free : (target = .approved → ApprovalAllOrNothing caller row) ∧ (target = .rejected → RejectionAllOrNothing caller row) :=
    ⟨fun approved => absurd approved notApproved, fun rejected => absurd rejected notRejected⟩
  split at found
  · next resubmits =>
    obtain ⟨rfl, _⟩ := resubmits
    exact ⟨fun _ => free, fun _ => rowAtomic_of_transition found⟩
  · exact ⟨fun _ => free, fun _ => rowAtomic_of_transition found⟩

theorem changeStatus_id (found : row.changeStatus caller target = .ok (after, outcome)) : after.id = row.id := by
  have settled (left : Except Raised InvoiceRecord × InvoiceRecord) (same : left.2.id = row.id) (all : ∀ row', left.1 = .ok row' → row'.id = row.id)
      (done : InvoiceRecord.settle left = .ok (after, outcome)) : after.id = row.id := by
    obtain ⟨answer, memory⟩ := left
    cases answer with
    | ok row' =>
      cases done
      exact all _ rfl
    | error raised =>
      obtain ⟨rfl, _⟩ := settle_error done
      exact same
  have called (outcome' : ServiceOutcome) (row' row'' : InvoiceRecord) (same : row'.id = row.id)
      (ok : (row'.called outcome').1 = .ok row'') : row''.id = row.id := by
    obtain ⟨answer, memory⟩ := outcome'
    cases answer with
    | ok =>
      cases ok
      exact same
    | error => cases ok
  have refreshed (outcome' : ServiceOutcome) (row'' : InvoiceRecord)
      (ok : (row.refreshed caller (row.called outcome')).1 = .ok row'') : row''.id = row.id := by
    obtain ⟨answer, memory⟩ := outcome'
    cases answer with
    | ok =>
      cases ok
      rfl
    | error => cases ok
  unfold InvoiceRecord.changeStatus at found
  split at found
  · cases found
    rfl
  split at found
  · refine settled (row.approve caller) rfl (fun row'' ok => ?_) found
    refine called _ _ row'' ?_ ok
    rfl
  split at found
  · exact settled _ rfl (fun row'' ok => called _ _ row'' rfl ok) found
  split at found
  · exact settled _ rfl (refreshed _) found
  · exact settled _ rfl (refreshed _) found

theorem changeSelected_eq_ok {body : BulkStatusRequest} {result : InvoiceRecord × Option BulkOutcome}
    (found : changeSelected caller body row = .ok result) :
    row.id ∈ body.ids ∧ (∃ outcome, row.changeStatus caller body.status = .ok (result.1, outcome) ∧ result.2 = some outcome) ∨
      row.id ∉ body.ids ∧ result = (row, none) := by
  unfold changeSelected at found
  split at found
  · next selected =>
    cases changed : row.changeStatus caller body.status with
    | error raised =>
      rw [changed] at found
      cases found
    | ok outcome =>
      rw [changed] at found
      cases found
      exact .inl ⟨selected, outcome.2, rfl, rfl⟩
  · next others =>
    cases found
    exact .inr ⟨others, rfl⟩

theorem changeSelected_id {body : BulkStatusRequest} {result : InvoiceRecord × Option BulkOutcome}
    (found : changeSelected caller body row = .ok result) : result.1.id = row.id := by
  rcases changeSelected_eq_ok found with ⟨_, outcome, changed, _⟩ | ⟨_, rfl⟩
  · exact changeStatus_id changed
  · rfl

theorem mem_skipped {results : List (InvoiceRecord × Option BulkOutcome)} {skip : BulkStatusSkip} :
    skip ∈ (bulkStatusResponse results).skipped ↔
      ∃ result ∈ results, result.2 = some (.skipped skip.reason) ∧ result.1.id = skip.id := by
  rw [bulkStatusResponse, List.mem_filterMap]
  constructor
  · rintro ⟨result, member, chosen⟩
    refine ⟨result, member, ?_⟩
    split at chosen
    · next reason outcome =>
      cases chosen
      exact ⟨outcome, rfl⟩
    · cases chosen
  · rintro ⟨result, member, outcome, same⟩
    refine ⟨result, member, ?_⟩
    simp only [outcome, same]

end

/-- A bulk status change is atomic per invoice exactly if each invoice it works on is all or nothing. -/
theorem bulk_status_atomic {caller : BulkCaller} {body : BulkStatusRequest} {table : InvoiceTable} {response : BulkStatusResponse}
    {committed : List InvoiceRecord} (done : bulkStatusChange caller body table = .ok (response, committed)) :
    AtomicPerInvoice body table response committed ↔
      ∀ row ∈ table.rows, row.id ∈ body.ids → AllOrNothing caller body.status row := by
  obtain ⟨results, worked, done⟩ := bind_eq_ok.mp done
  cases done
  have loop : table.rows.mapM (changeSelected caller body) = .ok results := by
    unfold bulkStatusRows at worked
    split at worked
    · cases worked
    split at worked
    · cases worked
    · exact worked
  have ids : (results.map fun result => result.1.id) = table.rows.map InvoiceRecord.id :=
    map_of_mapM_eq_ok (fun _ _ found => changeSelected_id found) loop
  have keys : (results.map fun result => result.1.id).Nodup := ids ▸ table.keys
  -- the committed row under an id is the one its result holds
  have committed {result : InvoiceRecord × Option BulkOutcome} (member : result ∈ results) {after : InvoiceRecord}
      (inTable : after ∈ results.map (·.1)) (same : after.id = result.1.id) : after = result.1 := by
    obtain ⟨other, otherMember, rfl⟩ := List.mem_map.mp inTable
    rw [List.inj_on_of_nodup_map keys otherMember member same]
  constructor
  · intro atomic row member selected
    obtain ⟨result, listed, found⟩ := result_of_mapM_eq_ok loop member
    obtain ⟨_, outcome, changed, reported⟩ := (changeSelected_eq_ok found).resolve_right fun other => other.1 selected
    have own := changeSelected_id found
    have inTable : result.1 ∈ results.map (·.1) := List.mem_map_of_mem listed
    refine (rowAtomic_iff changed).mp ?_
    cases outcome with
    | skipped reason =>
      have skip : (⟨row.id, reason⟩ : BulkStatusSkip) ∈ (bulkStatusResponse results).skipped :=
        mem_skipped.mpr ⟨result, listed, reported, own⟩
      exact atomic.skipped _ skip row member rfl result.1 inTable own
    | updated =>
      refine atomic.updated row member selected (fun skipped => ?_) result.1 inTable own
      obtain ⟨skip, inSkipped, same⟩ := List.mem_map.mp skipped
      obtain ⟨other, otherListed, otherReported, otherId⟩ := mem_skipped.mp inSkipped
      have one : other = result := List.inj_on_of_nodup_map keys otherListed listed (otherId.trans (same.trans own.symm))
      rw [one, reported] at otherReported
      cases otherReported
  · intro each
    refine ⟨fun skip inSkipped row member own after inTable same => ?_, fun row member selected kept after inTable same => ?_⟩
    · obtain ⟨result, listed, reported, id⟩ := mem_skipped.mp inSkipped
      obtain ⟨source, sourceMember, found⟩ := source_of_mapM_eq_ok loop listed
      have sourceId := changeSelected_id found
      have one : source = row := List.inj_on_of_nodup_map table.keys sourceMember member (sourceId.symm.trans (id.trans own.symm))
      rw [one] at found sourceId
      rcases changeSelected_eq_ok found with ⟨selected, outcome, changed, outcomeIs⟩ | ⟨_, rfl⟩
      · rw [outcomeIs] at reported
        cases reported
        have atomic : result.1 = row := (rowAtomic_iff changed).mpr (each row member selected)
        rw [committed listed inTable (same.trans sourceId.symm), atomic]
      · cases reported
    · obtain ⟨result, listed, found⟩ := result_of_mapM_eq_ok loop member
      obtain ⟨_, outcome, changed, reported⟩ := (changeSelected_eq_ok found).resolve_right fun other => other.1 selected
      have own := changeSelected_id found
      rw [committed listed inTable (same.trans own.symm)]
      have atomic := (rowAtomic_iff changed).mpr (each row member selected)
      cases outcome with
      | updated => exact atomic
      | skipped reason =>
        refine absurd (List.mem_map.mpr ⟨(⟨row.id, reason⟩ : BulkStatusSkip), ?_, rfl⟩) kept
        exact mem_skipped.mpr ⟨result, listed, reported, own⟩

/-- An approver without a chain in front of them. -/
def bulkApprover : BulkCaller where
  actorId := "u2"
  fullName := "Dana Reyes"
  roles := ["ap_manager"]
  tenant := ⟨⟨[some "USD"], false, 30⟩, none⟩
  now := 0
  today := ⟨2025, 11, 3, by decide, by decide, by decide⟩
  reads _ := approvalBy "u2" []

/-- A table of one invoice over 100, uploaded by another employee. -/
def oneInvoice (status : InvoiceStatus) (approvedBy : Option String) (workflow : Option WorkflowInstance) : InvoiceTable where
  rows := [⟨1, ⟨status, ⟨"Acme", some 7, 100, "USD", none, none, none, none, []⟩, .none, some "u1", [], approvedBy, none, true, workflow⟩,
    none⟩]
  keys := List.nodup_singleton _

theorem bulk_status_atomic_approval : AtomicPerInvoice ⟨[1], .approved, none⟩ (oneInvoice .readyForReview none none) ⟨1, []⟩
    [⟨1, ⟨.approved, ⟨"Acme", some 7, 100, "USD", none, none, none, none, []⟩, .none, some "u1", [], some "Dana Reyes", none, true,
      none⟩, some bulkApprover.today⟩] := by
  have done : bulkStatusChange bulkApprover ⟨[1], .approved, none⟩ (oneInvoice .readyForReview none none) = .ok (⟨1, []⟩,
      [⟨1, ⟨.approved, ⟨"Acme", some 7, 100, "USD", none, none, none, none, []⟩, .none, some "u1", [], some "Dana Reyes", none, true,
        none⟩, some bulkApprover.today⟩]) := by
    decide
  refine (bulk_status_atomic done).mpr ?_
  decide

def approvedAgain : InvoiceRecord :=
  ⟨1, ⟨.approved, ⟨"Acme", some 7, 100, "USD", none, none, none, none, []⟩, .none, some "u1", [], some "Dana Reyes", none, true, none⟩,
    some bulkApprover.today⟩

/-- An approved invoice that is approved once more in bulk is reported as skipped, and from then on names another
approver and another date. One whose chain asks for two reviewers is counted as updated after the first of them. -/
theorem skipped_but_written :
    (bulkStatusChange bulkApprover ⟨[1], .approved, none⟩ (oneInvoice .approved (some "Kim Osei") none) =
        .ok (⟨0, [⟨1, "Cannot transition from \x27approved\x27 to \x27approved\x27"⟩]⟩, [approvedAgain]) ∧
      ¬AtomicPerInvoice ⟨[1], .approved, none⟩ (oneInvoice .approved (some "Kim Osei") none)
        ⟨0, [⟨1, "Cannot transition from \x27approved\x27 to \x27approved\x27"⟩]⟩ [approvedAgain]) ∧
      (bulkStatusChange bulkApprover ⟨[1], .approved, none⟩ (oneInvoice .readyForReview none (some twoLevelInstance))).toOption.map
        (fun result => (result.1, result.2.map (·.invoice.status))) = some (⟨1, []⟩, [.readyForReview]) := by
  refine ⟨⟨?_, fun atomic => ?_⟩, ?_⟩
  · decide
  · have skipped := atomic.skipped
    revert skipped
    decide
  · decide +kernel

end Payables
