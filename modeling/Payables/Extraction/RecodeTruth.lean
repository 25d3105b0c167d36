import Payables.Extraction.Recode

namespace Payables.Recode

open Lib

section Chart

variable {chart : ActiveChart} {account : GlAccount} {code : String}

theorem mem_codesOf_add {entity : Nat} : code ∈ (chart.add account).codesOf entity ↔
    code ∈ chart.codesOf entity ∨ account.entityId = some entity ∧ account.code = code := by
  have keeps : ∀ codes : Nat × List String, (codes.1, account.code :: codes.2).1 = codes.1 := fun _ => rfl
  unfold ActiveChart.add
  cases owner : account.entityId with
  | none => simp [ActiveChart.codesOf]
  | some other =>
    by_cases known : other ∈ chart.byEntity.map Prod.fst
    · simp only [if_pos known]
      by_cases same : entity = other
      · subst same
        obtain ⟨codes, member, here⟩ := List.mem_map.mp known
        cases found : getRow Prod.fst entity chart.byEntity with
        | none => exact absurd (decide_eq_true here) (List.find?_eq_none.mp found codes member)
        | some codes =>
          simp only [ActiveChart.codesOf, getRow_changeRow_self keeps, found, Option.map_some, Option.getD_some, List.mem_cons,
            true_and]
          rw [or_comm, eq_comm]
      · simp only [ActiveChart.codesOf, getRow_changeRow_of_ne keeps same]
        simp [Ne.symm same]
    · simp only [if_neg known]
      have absent : getRow Prod.fst other chart.byEntity = none :=
        List.find?_eq_none.mpr fun codes member here => known (List.mem_map.mpr ⟨codes, member, by simpa using here⟩)
      by_cases same : entity = other
      · subst same
        have appended : getRow Prod.fst entity (chart.byEntity ++ [(entity, [account.code])]) = some (entity, [account.code]) := by
          rw [getRow] at absent ⊢
          rw [List.find?_append, absent]
          simp
        simp only [ActiveChart.codesOf, appended, absent, Option.map_some, Option.map_none, Option.getD_some, Option.getD_none,
          List.mem_singleton, List.not_mem_nil, false_or, true_and]
        exact eq_comm
      · simp [ActiveChart.codesOf, getRow, List.find?_append, Ne.symm same]

theorem mem_shared_add : code ∈ (chart.add account).shared ↔
    code ∈ chart.shared ∨ account.entityId = none ∧ account.code = code := by
  unfold ActiveChart.add
  cases account.entityId with
  | none => simp [or_comm, eq_comm]
  | some other =>
    simp only [reduceCtorEq, false_and, or_false]
    split <;> rfl

/-- A code is valid for an entity where an account that is shared, or the entity's own, has it. -/
theorem isValidFor_foldl (accounts : List GlAccount) (chart : ActiveChart) (code : String) (entityId : Option Nat) :
    (accounts.foldl ActiveChart.add chart).isValidFor code entityId = true ↔ chart.isValidFor code entityId = true ∨
      ∃ account ∈ accounts, account.code = code ∧ (account.entityId = none ∨ account.entityId = entityId) := by
  induction accounts generalizing chart with
  | nil => simp
  | cons account rest ih =>
    have added : (chart.add account).isValidFor code entityId = true ↔ chart.isValidFor code entityId = true ∨
        account.code = code ∧ (account.entityId = none ∨ account.entityId = entityId) := by
      cases entityId with
      | none =>
        simp only [ActiveChart.isValidFor, Option.any_none, Bool.or_false, List.contains_iff_mem, mem_shared_add, or_self]
        rw [and_comm]
      | some entity =>
        simp only [ActiveChart.isValidFor, Option.any_some, Bool.or_eq_true, List.contains_iff_mem, mem_shared_add, mem_codesOf_add]
        constructor
        · rintro ((shared | ⟨none', same⟩) | (own | ⟨some', same⟩))
          · exact .inl (.inl shared)
          · exact .inr ⟨same, .inl none'⟩
          · exact .inl (.inr own)
          · exact .inr ⟨same, .inr some'⟩
        · rintro ((shared | own) | ⟨same, none' | some'⟩)
          · exact .inl (.inl shared)
          · exact .inr (.inl own)
          · exact .inl (.inr ⟨none', same⟩)
          · exact .inr (.inr ⟨some', same⟩)
    rw [List.foldl_cons, ih, added]
    simp only [List.mem_cons, exists_eq_or_imp, or_assoc]

theorem isValidFor_loadActiveChart (accounts : List GlAccount) (organizationId : Nat) (code : String) (entityId : Option Nat) :
    (loadActiveChart accounts organizationId).isValidFor code entityId = true ↔
      ∃ account ∈ accounts, account.organizationId = organizationId ∧ account.isActive = true ∧ account.code = code ∧
        (account.entityId = none ∨ account.entityId = entityId) := by
  have empty : ActiveChart.isValidFor ⟨[], []⟩ code entityId = false := by
    cases entityId <;> rfl
  rw [loadActiveChart, isValidFor_foldl, empty]
  simp only [Bool.false_eq_true, false_or, List.mem_filter, decide_eq_true_eq]
  constructor
  · rintro ⟨account, ⟨listed, organization, active⟩, same, entity⟩
    exact ⟨account, listed, organization, active, same, entity⟩
  · rintro ⟨account, listed, organization, active, same, entity⟩
    exact ⟨account, ⟨listed, organization, active⟩, same, entity⟩

end Chart

/-- The change the first pass makes. -/
def changeOf (chart : ActiveChart) (priors : List VendorPrior) (invoice : RecodeInvoice) : Option RecodeChange :=
  match priorOutcome chart priors invoice with
  | .change code => some (recodeChange invoice code .vendorPrior)
  | _ => none

section Passes

variable (chart : ActiveChart) (priors : List VendorPrior) (dryRun : Bool)

/-- What the first loop leaves. -/
def afterFirst (eligible : List RecodeInvoice) (pass : FirstPass) : FirstPass where
  report := { pass.report with
    skippedNoChange := pass.report.skippedNoChange + eligible.countP fun invoice => priorOutcome chart priors invoice = .noChange
    changes := pass.report.changes ++ eligible.filterMap (changeOf chart priors)
    byVendorPrior := pass.report.byVendorPrior + (eligible.filterMap (changeOf chart priors)).length }
  session := if dryRun then pass.session else { pass.session with
    codes := ((eligible.filterMap (changeOf chart priors)).map fun change => (change.invoiceId, some change.newGl)).reverse ++
      pass.session.codes }
  noPrior := pass.noPrior ++ eligible.filter fun invoice => priorOutcome chart priors invoice = .noPrior
  invalidPrior := pass.invalidPrior ++ eligible.filter fun invoice => priorOutcome chart priors invoice = .invalidPrior

theorem foldl_firstStep (eligible : List RecodeInvoice) (pass : FirstPass) :
    eligible.foldl (firstStep chart priors dryRun) pass = afterFirst chart priors dryRun eligible pass := by
  induction eligible generalizing pass with
  | nil => cases dryRun <;> simp [afterFirst]
  | cons invoice rest ih =>
    rw [List.foldl_cons, ih]
    cases outcome : priorOutcome chart priors invoice with
    | change code =>
      have made : changeOf chart priors invoice = some (recodeChange invoice code .vendorPrior) := by simp only [changeOf, outcome]
      cases dryRun <;>
        simp [afterFirst, firstStep, outcome, made, RecodeSession.assign, recodeChange, Nat.add_assoc, Nat.add_comm]
    | noPrior =>
      have made : changeOf chart priors invoice = none := by simp only [changeOf, outcome]
      simp [afterFirst, firstStep, outcome, made]
    | invalidPrior =>
      have made : changeOf chart priors invoice = none := by simp only [changeOf, outcome]
      simp [afterFirst, firstStep, outcome, made]
    | noChange =>
      have made : changeOf chart priors invoice = none := by simp only [changeOf, outcome]
      simp [afterFirst, firstStep, outcome, made, Nat.add_assoc, Nat.add_comm]

/-- The runner of `bulk_recode_gl` does not take the keywords it is called with. -/
theorem runExtraction_raises (outcome : ExtractionOutcome) (session : RecodeSession) (invoiceId : Nat) :
    runExtraction runnerKeywords outcome session invoiceId = .error (.uncaught "TypeError") := by
  have unknown : runnerKeywords.all runExtractionKeywords.contains = false := by decide
  rw [runExtraction, unknown]
  rfl

theorem foldl_aiStep (outcomes : Nat → ExtractionOutcome) (needsAi : List RecodeInvoice) (state : RecodeReport × RecodeSession) :
    needsAi.foldl (aiStep outcomes) state =
      ({ state.1 with skippedAiFailed := state.1.skippedAiFailed + needsAi.length }, state.2) := by
  induction needsAi generalizing state with
  | nil => rfl
  | cons invoice rest ih =>
    have step : aiStep outcomes state invoice = ({ state.1 with skippedAiFailed := state.1.skippedAiFailed + 1 }, state.2) := by
      rw [aiStep, runExtraction_raises]
    have sum : state.1.skippedAiFailed + 1 + rest.length = state.1.skippedAiFailed + (rest.length + 1) := by omega
    rw [List.foldl_cons, step, ih, List.length_cons]
    simp only [sum]

theorem foldl_addAudit (call : RecodeCall) (changes : List RecodeChange) (session : RecodeSession) :
    changes.foldl (fun session change => session.addAudit (call.auditRow change)) session =
      { session with auditRows := session.auditRows ++ changes.map call.auditRow } := by
  induction changes generalizing session with
  | nil => simp
  | cons change rest ih =>
    rw [List.foldl_cons, ih]
    simp [RecodeSession.addAudit]

end Passes

section Run

variable (accounts : List GlAccount) (cachedPriors : List VendorPrior) (outcomes : Nat → ExtractionOutcome) (call : RecodeCall)
  (stored : RecodeTables)

def RecodeCall.eligible (call : RecodeCall) (stored : RecodeTables) : List RecodeInvoice :=
  (selectScope stored.invoices call.organizationId call.filt).eligible

/-- What the first pass of a call makes of an invoice. -/
def outcomeOf (invoice : RecodeInvoice) : PriorOutcome :=
  priorOutcome (loadActiveChart accounts call.organizationId) (priorsFor cachedPriors (call.eligible stored)) invoice

def priorChanges : List RecodeChange :=
  (call.eligible stored).filterMap
    (changeOf (loadActiveChart accounts call.organizationId) (priorsFor cachedPriors (call.eligible stored)))

/-- The invoices whose prior is missing or not valid. -/
def unusable : Nat :=
  ((call.eligible stored).countP fun invoice => outcomeOf accounts cachedPriors call stored invoice = .noPrior) +
    (call.eligible stored).countP fun invoice => outcomeOf accounts cachedPriors call stored invoice = .invalidPrior

def reportOf : RecodeReport where
  matched := (call.eligible stored).length
  skippedImmutable := (selectScope stored.invoices call.organizationId call.filt).skippedImmutable
  skippedNoVendor := (selectScope stored.invoices call.organizationId call.filt).skippedNoVendor
  skippedNoChange := (call.eligible stored).countP fun invoice => outcomeOf accounts cachedPriors call stored invoice = .noChange
  skippedNoPriorNoAi := if call.includeAiFallback then 0
    else (call.eligible stored).countP fun invoice => outcomeOf accounts cachedPriors call stored invoice = .noPrior
  skippedAiFailed := if call.includeAiFallback && !call.dryRun then unusable accounts cachedPriors call stored else 0
  skippedInvalidCode := if call.includeAiFallback then 0
    else (call.eligible stored).countP fun invoice => outcomeOf accounts cachedPriors call stored invoice = .invalidPrior
  aiCandidates := if call.includeAiFallback && call.dryRun then unusable accounts cachedPriors call stored else 0
  byVendorPrior := (priorChanges accounts cachedPriors call stored).length
  byAi := 0
  changes := priorChanges accounts cachedPriors call stored
  dryRun := call.dryRun

/-- The session before the commit. -/
def beforeCommit : RecodeSession where
  stored := stored
  codes := ((priorChanges accounts cachedPriors call stored).map fun change => (change.invoiceId, some change.newGl)).reverse
  auditRows := (priorChanges accounts cachedPriors call stored).map call.auditRow
  extracted := []

/-- What the first pass leaves, on a new session. -/
def firstLeft : FirstPass where
  report := {
    matched := (call.eligible stored).length
    skippedImmutable := (selectScope stored.invoices call.organizationId call.filt).skippedImmutable
    skippedNoVendor := (selectScope stored.invoices call.organizationId call.filt).skippedNoVendor
    skippedNoChange := (call.eligible stored).countP fun invoice => outcomeOf accounts cachedPriors call stored invoice = .noChange
    byVendorPrior := (priorChanges accounts cachedPriors call stored).length
    changes := priorChanges accounts cachedPriors call stored
    dryRun := call.dryRun }
  session := if call.dryRun then ⟨stored, [], [], []⟩ else { beforeCommit accounts cachedPriors call stored with auditRows := [] }
  noPrior := (call.eligible stored).filter fun invoice => outcomeOf accounts cachedPriors call stored invoice = .noPrior
  invalidPrior := (call.eligible stored).filter fun invoice => outcomeOf accounts cachedPriors call stored invoice = .invalidPrior

theorem firstPass_eq : firstPass accounts cachedPriors call ⟨stored, [], [], []⟩ = firstLeft accounts cachedPriors call stored := by
  have folded : firstPass accounts cachedPriors call ⟨stored, [], [], []⟩ = _ := foldl_firstStep _ _ _ _ _
  rw [folded, afterFirst, firstLeft]
  simp only [List.nil_append, Nat.zero_add, List.append_nil]
  rfl

theorem secondPass_eq : secondPass outcomes call (firstLeft accounts cachedPriors call stored) =
    (reportOf accounts cachedPriors call stored, (firstLeft accounts cachedPriors call stored).session) := by
  have noPrior : (firstLeft accounts cachedPriors call stored).noPrior.length =
      (call.eligible stored).countP fun invoice => outcomeOf accounts cachedPriors call stored invoice = .noPrior :=
    List.countP_eq_length_filter.symm
  have invalidPrior : (firstLeft accounts cachedPriors call stored).invalidPrior.length =
      (call.eligible stored).countP fun invoice => outcomeOf accounts cachedPriors call stored invoice = .invalidPrior :=
    List.countP_eq_length_filter.symm
  have total : ((firstLeft accounts cachedPriors call stored).noPrior ++
      (firstLeft accounts cachedPriors call stored).invalidPrior).length = unusable accounts cachedPriors call stored := by
    rw [List.length_append, noPrior, invalidPrior, unusable]
  unfold secondPass
  by_cases none' : (firstLeft accounts cachedPriors call stored).noPrior ++
      (firstLeft accounts cachedPriors call stored).invalidPrior = []
  · obtain ⟨one, other⟩ := List.append_eq_nil_iff.mp none'
    rw [none', List.length_nil] at total
    rw [one, List.length_nil] at noPrior
    rw [other, List.length_nil] at invalidPrior
    simp only [if_pos none', reportOf, ← total, ← noPrior, ← invalidPrior, ite_self]
    rfl
  · simp only [if_neg none']
    cases ai : call.includeAiFallback with
    | false =>
      simp only [reportOf, ai, noPrior, invalidPrior, Bool.false_eq_true, if_false, Bool.false_and]
      simp only [firstLeft, Nat.zero_add]
    | true =>
      cases dry : call.dryRun with
      | true =>
        simp only [reportOf, ai, dry, if_true, total, Bool.and_self, Bool.not_true, Bool.and_false, Bool.false_eq_true, if_false]
        simp only [firstLeft, dry]
      | false =>
        simp only [reportOf, ai, dry, if_true, Bool.false_eq_true, if_false, foldl_aiStep, total, Bool.not_false, Bool.and_self,
          Bool.and_false]
        simp only [firstLeft, Nat.zero_add, dry]

theorem mem_priorChanges {change : RecodeChange} : change ∈ priorChanges accounts cachedPriors call stored ↔
    ∃ invoice ∈ call.eligible stored, ∃ code, outcomeOf accounts cachedPriors call stored invoice = .change code ∧
      recodeChange invoice code .vendorPrior = change := by
  rw [priorChanges, List.mem_filterMap]
  refine exists_congr fun invoice => and_congr_right fun _ => ?_
  rw [changeOf]
  cases outcome : priorOutcome (loadActiveChart accounts call.organizationId) (priorsFor cachedPriors (call.eligible stored)) invoice <;>
    simp [outcomeOf, outcome]

theorem priorOf_fits {invoice : RecodeInvoice} {code : String}
    (known : priorOf (priorsFor cachedPriors (call.eligible stored)) invoice.vendorId = some code) :
    code.length ≤ glAccountWidth := by
  obtain ⟨prior, found, rfl⟩ := Option.map_eq_some_iff.mp known
  have member := List.mem_reverse.mp (List.mem_of_find?_eq_some found)
  unfold priorsFor loadPriors at member
  split at member
  · cases member
  · have field := (List.mem_filter.mp member).2
    rw [decide_eq_true_eq] at field
    exact prior.fits field.2

theorem priorOf_of_change {priors : List VendorPrior} {chart : ActiveChart} {invoice : RecodeInvoice} {code : String}
    (outcome : priorOutcome chart priors invoice = .change code) : priorOf priors invoice.vendorId = some code := by
  unfold priorOutcome at outcome
  split at outcome
  · cases outcome
  · rename_i priorCode known
    split_ifs at outcome
    rw [known, PriorOutcome.change.inj outcome]

theorem priorChanges_fit : ((beforeCommit accounts cachedPriors call stored).codes.all fun code =>
    code.2.all (·.length ≤ glAccountWidth)) = true := by
  rw [beforeCommit, List.all_reverse, List.all_map, List.all_eq_true]
  intro change member
  obtain ⟨invoice, -, code, outcome, rfl⟩ := (mem_priorChanges accounts cachedPriors call stored).mp member
  exact decide_eq_true (priorOf_fits cachedPriors call stored (priorOf_of_change outcome))

theorem flushed_of_clean {session : RecodeSession} (codes : session.codes = []) (auditRows : session.auditRows = []) :
    session.flushed = session.stored := by
  have unchanged : ∀ invoice, session.current invoice = invoice := by
    intro invoice
    rw [RecodeSession.current, RecodeSession.glAccount, codes]
    rfl
  have invoices : session.stored.invoices.map session.current = session.stored.invoices :=
    List.map_id'' unchanged _
  rw [RecodeSession.flushed]
  simp only [invoices, auditRows, List.append_nil]

/-- What a call returns, and what it leaves. -/
theorem bulkRecodeGl_eq : bulkRecodeGl accounts cachedPriors outcomes call stored = .ok (reportOf accounts cachedPriors call stored,
    ⟨if call.dryRun then stored else (beforeCommit accounts cachedPriors call stored).flushed, [], [], []⟩) := by
  rw [bulkRecodeGl, firstPass_eq, secondPass_eq, persist]
  cases dry : call.dryRun with
  | true => simp [firstLeft, dry]
  | false =>
    have session : (firstLeft accounts cachedPriors call stored).session =
        { beforeCommit accounts cachedPriors call stored with auditRows := [] } := by
      rw [firstLeft]
      exact if_neg (by rw [dry]; exact Bool.false_ne_true)
    by_cases none' : priorChanges accounts cachedPriors call stored = []
    · have codes : (beforeCommit accounts cachedPriors call stored).codes = [] := by rw [beforeCommit, none']; rfl
      have auditRows : (beforeCommit accounts cachedPriors call stored).auditRows = [] := by rw [beforeCommit, none']; rfl
      have same := flushed_of_clean codes auditRows
      rw [if_neg (by simp [reportOf, none']), session, same]
      simp only [codes, Bool.false_eq_true, if_false]
      rfl
    · have fits := priorChanges_fit accounts cachedPriors call stored
      rw [if_pos ⟨rfl, none'⟩, session, foldl_addAudit, RecodeSession.commit]
      simp only [if_pos fits]
      rfl

/-- Where the report puts an invoice. -/
inductive Bucket
  | changed
  | noChange
  | noPriorNoAi
  | invalidCode
  | aiFailed
  | aiCandidate
  deriving DecidableEq

def bucketOf (ai dry : Bool) : PriorOutcome → Bucket
  | .change _ => .changed
  | .noChange => .noChange
  | .noPrior => if ai then if dry then .aiCandidate else .aiFailed else .noPriorNoAi
  | .invalidPrior => if ai then if dry then .aiCandidate else .aiFailed else .invalidCode

/-- The eligible invoices are shared out among the buckets of the report, and one that counts as a failed extraction had
its document extracted. -/
structure Placed (eligible : List RecodeInvoice) (report : RecodeReport) (extracted : List (Nat × Bool))
    (bucket : RecodeInvoice → Bucket) : Prop where
  matched : report.matched = eligible.length
  changed : (report.changes.map (·.invoiceId)).Perm ((eligible.filter fun invoice => bucket invoice = .changed).map (·.id))
  noChange : report.skippedNoChange = eligible.countP fun invoice => bucket invoice = .noChange
  noPriorNoAi : report.skippedNoPriorNoAi = eligible.countP fun invoice => bucket invoice = .noPriorNoAi
  invalidCode : report.skippedInvalidCode = eligible.countP fun invoice => bucket invoice = .invalidCode
  aiFailed : report.skippedAiFailed = eligible.countP fun invoice => bucket invoice = .aiFailed
  aiCandidates : report.aiCandidates = eligible.countP fun invoice => bucket invoice = .aiCandidate
  failed : ∀ invoice ∈ eligible, bucket invoice = .aiFailed → (invoice.id, true) ∈ extracted

/-- What a report says is so. -/
structure TrueReport (report : RecodeReport) (session : RecodeSession) : Prop where
  placed : ∃ bucket, Placed (call.eligible stored) report session.extracted bucket
  dry : call.dryRun = true → session = ⟨stored, [], [], []⟩ ∧
    ∃ real left, bulkRecodeGl accounts cachedPriors outcomes { call with dryRun := false } stored = .ok (real, left) ∧
      report.changes.filter (·.source = .vendorPrior) = real.changes.filter (·.source = .vendorPrior)
  recoded : call.dryRun = false → ∀ change ∈ report.changes, ∃ invoice ∈ session.stored.invoices,
    invoice.id = change.invoiceId ∧ invoice.glAccount = some change.newGl
  audited : call.dryRun = false → (report.changes.map (·.invoiceId)).Nodup ∧
    session.stored.auditRows = stored.auditRows ++ report.changes.map call.auditRow
  kept : ∀ invoice ∈ stored.invoices, invoice.id ∉ report.changes.map (·.invoiceId) → invoice ∈ session.stored.invoices
  repeated : call.includeAiFallback = false →
    ∃ again left, bulkRecodeGl accounts cachedPriors outcomes call session.stored = .ok (again, left) ∧
      left.stored = session.stored ∧ (call.dryRun = false → again.changes = [])

/-- The call returns, and its report is true. -/
def TrueRecode : Prop :=
  ∃ report session, bulkRecodeGl accounts cachedPriors outcomes call stored = .ok (report, session) ∧
    TrueReport accounts cachedPriors outcomes call stored report session

/-- The invoice's vendor has a cached code that is live in the invoice's chart. -/
def UsablePrior (invoice : RecodeInvoice) : Prop :=
  ∃ code, priorOf (priorsFor cachedPriors (call.eligible stored)) invoice.vendorId = some code ∧
    ((loadActiveChart accounts call.organizationId).isEmpty = true ∨
      (loadActiveChart accounts call.organizationId).isValidFor code invoice.entityId = true)

theorem usablePrior_iff {invoice : RecodeInvoice} : UsablePrior accounts cachedPriors call stored invoice ↔
    outcomeOf accounts cachedPriors call stored invoice ≠ .noPrior ∧
      outcomeOf accounts cachedPriors call stored invoice ≠ .invalidPrior := by
  unfold UsablePrior outcomeOf priorOutcome
  cases known : priorOf (priorsFor cachedPriors (call.eligible stored)) invoice.vendorId with
  | none => simp
  | some code =>
    by_cases refused : (!(loadActiveChart accounts call.organizationId).isEmpty &&
        !(loadActiveChart accounts call.organizationId).isValidFor code invoice.entityId) = true
    · simp only [if_pos refused]
      simp only [Bool.and_eq_true, Bool.not_eq_true'] at refused
      simp [refused.1, refused.2]
    · simp only [if_neg refused]
      have usable : (loadActiveChart accounts call.organizationId).isEmpty = true ∨
          (loadActiveChart accounts call.organizationId).isValidFor code invoice.entityId = true := by
        cases empty : (loadActiveChart accounts call.organizationId).isEmpty with
        | true => exact .inl rfl
        | false => simpa [empty] using refused
      refine ⟨fun _ => ?_, fun _ => ⟨code, rfl, usable⟩⟩
      split <;> simp

section Counting

variable (eligible : List RecodeInvoice) (outcome : RecodeInvoice → PriorOutcome) (ai dry : Bool)

theorem countP_where (condition : Bool) (keep : RecodeInvoice → Bool) :
    (eligible.countP fun invoice => condition && keep invoice) = if condition then eligible.countP keep else 0 := by
  cases condition <;> simp

theorem countP_either {keep other : RecodeInvoice → Bool} (apart : ∀ invoice, keep invoice = true → other invoice = false) :
    eligible.countP keep + eligible.countP other = eligible.countP fun invoice => keep invoice || other invoice := by
  induction eligible with
  | nil => rfl
  | cons invoice rest ih =>
    have once := apart invoice
    rw [List.countP_cons, List.countP_cons, List.countP_cons]
    cases one : keep invoice <;> cases two : other invoice <;> simp [one, two] at once ⊢ <;> omega

theorem countP_bucket {bucket : Bucket} (condition : Bool) (keep : PriorOutcome → Bool)
    (same : ∀ outcome, decide (bucketOf ai dry outcome = bucket) = (condition && keep outcome)) :
    (eligible.countP fun invoice => bucketOf ai dry (outcome invoice) = bucket) =
      if condition then eligible.countP fun invoice => keep (outcome invoice) else 0 := by
  rw [← countP_where]
  exact List.countP_congr fun invoice _ => by rw [same]

theorem bucketOf_ne_aiFailed {outcome : PriorOutcome}
    (tried : dry = true ∨ ai = false ∨ outcome ≠ .noPrior ∧ outcome ≠ .invalidPrior) : bucketOf ai dry outcome ≠ .aiFailed := by
  cases outcome <;> cases ai <;> cases dry <;> simp [bucketOf] at tried ⊢

end Counting

/-- The bucket of an invoice of a call. -/
def placeOf (invoice : RecodeInvoice) : Bucket :=
  bucketOf call.includeAiFallback call.dryRun (outcomeOf accounts cachedPriors call stored invoice)

theorem ids_filterMap (eligible : List RecodeInvoice) (chart : ActiveChart) (priors : List VendorPrior) (ai dry : Bool) :
    (eligible.filterMap (changeOf chart priors)).map (·.invoiceId) =
      (eligible.filter fun invoice => bucketOf ai dry (priorOutcome chart priors invoice) = .changed).map (·.id) := by
  induction eligible with
  | nil => rfl
  | cons invoice rest ih =>
    cases outcome : priorOutcome chart priors invoice with
    | change code =>
      have made : changeOf chart priors invoice = some (recodeChange invoice code .vendorPrior) := by simp only [changeOf, outcome]
      rw [List.filterMap_cons_some made, List.filter_cons_of_pos (by rw [outcome]; rfl), List.map_cons, List.map_cons, ih]
      rfl
    | noPrior =>
      have made : changeOf chart priors invoice = none := by simp only [changeOf, outcome]
      rw [List.filterMap_cons_none made, List.filter_cons_of_neg (by rw [outcome]; cases ai <;> cases dry <;> decide), ih]
    | invalidPrior =>
      have made : changeOf chart priors invoice = none := by simp only [changeOf, outcome]
      rw [List.filterMap_cons_none made, List.filter_cons_of_neg (by rw [outcome]; cases ai <;> cases dry <;> decide), ih]
    | noChange =>
      have made : changeOf chart priors invoice = none := by simp only [changeOf, outcome]
      rw [List.filterMap_cons_none made, List.filter_cons_of_neg (by rw [outcome]; exact Bool.false_ne_true), ih]

theorem unusable_eq : unusable accounts cachedPriors call stored = (call.eligible stored).countP fun invoice =>
    decide (outcomeOf accounts cachedPriors call stored invoice = .noPrior) ||
      decide (outcomeOf accounts cachedPriors call stored invoice = .invalidPrior) := by
  refine countP_either _ fun invoice missing => ?_
  rw [decide_eq_true_eq] at missing
  rw [missing]
  rfl

/-- Every eligible invoice is counted once. -/
theorem placed_of_failures (failures : ∀ invoice ∈ call.eligible stored, placeOf accounts cachedPriors call stored invoice ≠ .aiFailed) :
    Placed (call.eligible stored) (reportOf accounts cachedPriors call stored) [] (placeOf accounts cachedPriors call stored) := by
  have counts := fun bucket => @countP_bucket (call.eligible stored) (outcomeOf accounts cachedPriors call stored)
    call.includeAiFallback call.dryRun bucket
  refine ⟨rfl, .of_eq (ids_filterMap _ _ _ _ _), ?_, ?_, ?_, ?_, ?_, fun invoice member failed => absurd failed (failures invoice member)⟩
  · refine Eq.trans ?_ (counts .noChange true (fun outcome => decide (outcome = .noChange)) ?_).symm
    · rfl
    · intro outcome
      cases outcome <;> cases call.includeAiFallback <;> cases call.dryRun <;> rfl
  · refine Eq.trans ?_ (counts .noPriorNoAi (!call.includeAiFallback) (fun outcome => decide (outcome = .noPrior)) ?_).symm
    · rw [reportOf]
      cases call.includeAiFallback <;> rfl
    · intro outcome
      cases outcome <;> cases call.includeAiFallback <;> cases call.dryRun <;> rfl
  · refine Eq.trans ?_ (counts .invalidCode (!call.includeAiFallback) (fun outcome => decide (outcome = .invalidPrior)) ?_).symm
    · rw [reportOf]
      cases call.includeAiFallback <;> rfl
    · intro outcome
      cases outcome <;> cases call.includeAiFallback <;> cases call.dryRun <;> rfl
  · refine Eq.trans ?_ (counts .aiFailed (call.includeAiFallback && !call.dryRun)
      (fun outcome => decide (outcome = .noPrior) || decide (outcome = .invalidPrior)) ?_).symm
    · rw [reportOf, unusable_eq]
    · intro outcome
      cases outcome <;> cases call.includeAiFallback <;> cases call.dryRun <;> rfl
  · refine Eq.trans ?_ (counts .aiCandidate (call.includeAiFallback && call.dryRun)
      (fun outcome => decide (outcome = .noPrior) || decide (outcome = .invalidPrior)) ?_).symm
    · rw [reportOf, unusable_eq]
    · intro outcome
      cases outcome <;> cases call.includeAiFallback <;> cases call.dryRun <;> rfl

section Committed

theorem eligible_subset {invoice : RecodeInvoice} (member : invoice ∈ call.eligible stored) : invoice ∈ stored.invoices :=
  List.mem_of_mem_filter member

theorem changes_nodup : ((priorChanges accounts cachedPriors call stored).map (·.invoiceId)).Nodup := by
  rw [priorChanges, ids_filterMap _ _ _ false false]
  have sub : ((call.eligible stored).filter fun invoice => bucketOf false false (priorOutcome
      (loadActiveChart accounts call.organizationId) (priorsFor cachedPriors (call.eligible stored)) invoice) = .changed).Sublist
        stored.invoices := List.filter_sublist.trans List.filter_sublist
  exact (sub.map _).nodup stored.keys

theorem codes_keys : ((beforeCommit accounts cachedPriors call stored).codes.map Prod.fst).Nodup := by
  rw [beforeCommit, List.map_reverse, List.map_map, List.nodup_reverse]
  exact changes_nodup accounts cachedPriors call stored

theorem current_of_change {change : RecodeChange} (member : change ∈ priorChanges accounts cachedPriors call stored)
    {invoice : RecodeInvoice} (same : invoice.id = change.invoiceId) :
    (beforeCommit accounts cachedPriors call stored).glAccount invoice = some change.newGl := by
  have listed : (change.invoiceId, some change.newGl) ∈ (beforeCommit accounts cachedPriors call stored).codes :=
    List.mem_reverse.mpr (List.mem_map.mpr ⟨change, member, rfl⟩)
  have found := getRow_of_mem (codes_keys accounts cachedPriors call stored) listed
  rw [RecodeSession.glAccount, same, found]
  rfl

theorem unlisted {invoice : RecodeInvoice} (inScope : invoice ∈ call.eligible stored)
    (other : ∀ code, outcomeOf accounts cachedPriors call stored invoice ≠ .change code) :
    invoice.id ∉ (priorChanges accounts cachedPriors call stored).map (·.invoiceId) := by
  intro listed
  obtain ⟨change, member, same⟩ := List.mem_map.mp listed
  obtain ⟨source, eligible, code, outcome, rfl⟩ := (mem_priorChanges _ _ _ _).mp member
  have one : source = invoice :=
    List.inj_on_of_nodup_map stored.keys (eligible_subset call stored eligible) (eligible_subset call stored inScope) same
  exact other code (one ▸ outcome)

theorem current_of_unchanged {invoice : RecodeInvoice}
    (unlisted : invoice.id ∉ (priorChanges accounts cachedPriors call stored).map (·.invoiceId)) :
    (beforeCommit accounts cachedPriors call stored).current invoice = invoice := by
  have absent : getRow Prod.fst invoice.id (beforeCommit accounts cachedPriors call stored).codes = none := by
    refine List.find?_eq_none.mpr fun code member here => unlisted ?_
    obtain ⟨change, listed, rfl⟩ := List.mem_map.mp (List.mem_reverse.mp member)
    exact List.mem_map.mpr ⟨change, listed, of_decide_eq_true here⟩
  rw [RecodeSession.current, RecodeSession.glAccount, absent]
  rfl

/-- The scope does not look at what a call sets. -/
theorem eligible_flushed : call.eligible (beforeCommit accounts cachedPriors call stored).flushed =
    (call.eligible stored).map (beforeCommit accounts cachedPriors call stored).current := by
  rw [RecodeCall.eligible, RecodeCall.eligible, selectScope, selectScope, RecodeSession.flushed]
  simp only [List.filter_map]
  rfl

theorem priorsFor_flushed : priorsFor cachedPriors (call.eligible (beforeCommit accounts cachedPriors call stored).flushed) =
    priorsFor cachedPriors (call.eligible stored) := by
  rw [eligible_flushed, priorsFor, priorsFor, List.filterMap_map]
  rfl

/-- A second call finds nothing to change. -/
theorem priorChanges_flushed : priorChanges accounts cachedPriors call (beforeCommit accounts cachedPriors call stored).flushed = [] := by
  rw [List.eq_nil_iff_forall_not_mem]
  intro change member
  obtain ⟨invoice, eligible, code, outcome, -⟩ := (mem_priorChanges _ _ _ _).mp member
  rw [outcomeOf, priorsFor_flushed] at outcome
  rw [eligible_flushed] at eligible
  obtain ⟨source, inScope, rfl⟩ := List.mem_map.mp eligible
  have known := priorOf_of_change outcome
  cases before : outcomeOf accounts cachedPriors call stored source with
  | change code' =>
    have made := (mem_priorChanges accounts cachedPriors call stored).mpr ⟨source, inScope, code', before, rfl⟩
    have set := @current_of_change accounts cachedPriors call stored _ made source rfl
    have known' := priorOf_of_change before
    have same : code' = code := Option.some.inj (known'.symm.trans known)
    unfold priorOutcome at outcome
    split at outcome
    · cases outcome
    · rename_i priorCode found
      split_ifs at outcome with refused already
      have coded : (beforeCommit accounts cachedPriors call stored).glAccount source = some priorCode := by
        rw [set, ← found, known, ← same]
        rfl
      exact already coded
  | noPrior =>
    rw [current_of_unchanged _ _ _ _ (unlisted _ _ _ _ inScope (by simp [before]))] at outcome
    rw [outcomeOf, outcome] at before
    cases before
  | invalidPrior =>
    rw [current_of_unchanged _ _ _ _ (unlisted _ _ _ _ inScope (by simp [before]))] at outcome
    rw [outcomeOf, outcome] at before
    cases before
  | noChange =>
    rw [current_of_unchanged _ _ _ _ (unlisted _ _ _ _ inScope (by simp [before]))] at outcome
    rw [outcomeOf, outcome] at before
    cases before

theorem recoded_of_change {change : RecodeChange} (member : change ∈ priorChanges accounts cachedPriors call stored) :
    ∃ invoice ∈ (beforeCommit accounts cachedPriors call stored).flushed.invoices,
      invoice.id = change.invoiceId ∧ invoice.glAccount = some change.newGl := by
  obtain ⟨source, inScope, code, outcome, rfl⟩ := (mem_priorChanges _ _ _ _).mp member
  have current := @current_of_change accounts cachedPriors call stored _ member source rfl
  exact ⟨_, List.mem_map_of_mem (eligible_subset call stored inScope), rfl, current⟩

theorem kept_of_unlisted {invoice : RecodeInvoice} (known : invoice ∈ stored.invoices)
    (unlisted : invoice.id ∉ (priorChanges accounts cachedPriors call stored).map (·.invoiceId)) :
    invoice ∈ (beforeCommit accounts cachedPriors call stored).flushed.invoices := by
  have same := current_of_unchanged accounts cachedPriors call stored unlisted
  exact List.mem_map.mpr ⟨invoice, known, same⟩

theorem beforeCommit_clean (none' : priorChanges accounts cachedPriors call stored = []) :
    (beforeCommit accounts cachedPriors call stored).flushed = stored := by
  have codes : (beforeCommit accounts cachedPriors call stored).codes = [] := by rw [beforeCommit, none']; rfl
  have auditRows : (beforeCommit accounts cachedPriors call stored).auditRows = [] := by rw [beforeCommit, none']; rfl
  exact flushed_of_clean codes auditRows

end Committed

variable {accounts cachedPriors outcomes call stored}

theorem true_of_usable (usable : call.dryRun = true ∨ call.includeAiFallback = false ∨
    ∀ invoice ∈ call.eligible stored, UsablePrior accounts cachedPriors call stored invoice) :
    TrueRecode accounts cachedPriors outcomes call stored := by
  have failures : ∀ invoice ∈ call.eligible stored, placeOf accounts cachedPriors call stored invoice ≠ .aiFailed := by
    intro invoice inScope
    refine bucketOf_ne_aiFailed _ _ ?_
    rcases usable with dry | priorsOnly | usable
    · exact .inl dry
    · exact .inr (.inl priorsOnly)
    · exact .inr (.inr ((usablePrior_iff ..).mp (usable invoice inScope)))
  refine ⟨_, _, bulkRecodeGl_eq .., ⟨_, placed_of_failures _ _ _ _ failures⟩, ?dry, ?recoded, ?audited, ?kept, ?repeated⟩
  case dry =>
    intro dry
    refine ⟨by rw [dry]; rfl, _, _, bulkRecodeGl_eq accounts cachedPriors outcomes { call with dryRun := false } stored, rfl⟩
  case recoded =>
    intro real change member
    rw [real]
    exact recoded_of_change _ _ _ _ member
  case audited =>
    intro real
    rw [real]
    exact ⟨changes_nodup .., rfl⟩
  case kept =>
    intro invoice known unlisted
    cases call.dryRun with
    | true => exact known
    | false => exact kept_of_unlisted _ _ _ _ known unlisted
  case repeated =>
    intro _
    refine ⟨_, _, bulkRecodeGl_eq .., ?_, ?_⟩
    · cases dry : call.dryRun with
      | true => rfl
      | false =>
        simp only [Bool.false_eq_true, if_false]
        exact beforeCommit_clean _ _ _ _ (priorChanges_flushed ..)
    · intro real
      simp only [real, Bool.false_eq_true, if_false]
      exact priorChanges_flushed ..

theorem usable_of_true (report : TrueRecode accounts cachedPriors outcomes call stored) : call.dryRun = true ∨
    call.includeAiFallback = false ∨ ∀ invoice ∈ call.eligible stored, UsablePrior accounts cachedPriors call stored invoice := by
  by_contra other
  simp only [not_or, not_forall] at other
  obtain ⟨real, ai, invoice, inScope, missing⟩ := other
  obtain ⟨report, session, returned, ⟨bucket, placed⟩, -⟩ := report
  rw [bulkRecodeGl_eq, Except.ok.injEq, Prod.mk.injEq] at returned
  obtain ⟨rfl, rfl⟩ := returned
  have counted : 0 < unusable accounts cachedPriors call stored := by
    rw [unusable_eq, List.countP_pos_iff]
    refine ⟨invoice, inScope, ?_⟩
    rw [usablePrior_iff, not_and_or, not_not, not_not] at missing
    rwa [Bool.or_eq_true, decide_eq_true_eq, decide_eq_true_eq]
  have failed := placed.aiFailed
  simp only [reportOf, Bool.eq_false_iff.mpr real, Bool.not_eq_false] at failed ai
  rw [ai] at failed
  simp only [Bool.not_false, Bool.and_self, if_true] at failed
  rw [failed, List.countP_pos_iff] at counted
  obtain ⟨other, eligible, here⟩ := counted
  have extracted := placed.failed other eligible (of_decide_eq_true here)
  cases extracted

/-- The report is true except where the extraction of a document would have to be tried. -/
theorem recode_true_iff : TrueRecode accounts cachedPriors outcomes call stored ↔ call.dryRun = true ∨
    call.includeAiFallback = false ∨ ∀ invoice ∈ call.eligible stored, UsablePrior accounts cachedPriors call stored invoice :=
  ⟨usable_of_true, true_of_usable⟩

end Run

def uncodedInvoice : RecodeInvoice where
  id := 1
  organizationId := 1
  invoiceNumber := "INV-1"
  vendorName := some "Acme"
  vendorId := some 7
  entityId := none
  status := .readyForReview
  glAccount := none
  invoiceDate := some 0
  receivedDate := none
  createdOn := 0

theorem uncoded_keys : ([uncodedInvoice].map (·.id)).Nodup := by decide

/-- An invoice of a vendor nobody has corrected yet. -/
def uncodedTables : RecodeTables := ⟨[uncodedInvoice], [], uncoded_keys⟩

/-- Everything, for real and with the AI fallback. -/
def aiCall : RecodeCall := ⟨1, ⟨none, none, []⟩, true, false, none⟩

/-- The document would be read, but is counted as failed without having been tried. -/
theorem untried_counted_failed :
    (∃ report session, bulkRecodeGl [] [] (fun _ => .extracted (some "6100")) aiCall uncodedTables = .ok (report, session) ∧
      report.skippedAiFailed = 1 ∧ session.extracted = []) ∧
    ¬TrueRecode [] [] (fun _ => .extracted (some "6100")) aiCall uncodedTables := by
  refine ⟨⟨_, _, bulkRecodeGl_eq .., by decide, rfl⟩, fun holds => ?_⟩
  rcases usable_of_true holds with dry | priorsOnly | usable
  · exact absurd dry (by decide)
  · exact absurd priorsOnly (by decide)
  · have inScope : uncodedInvoice ∈ aiCall.eligible uncodedTables := by decide
    obtain ⟨code, known, -⟩ := usable uncodedInvoice inScope
    have missing : priorOf (priorsFor [] (aiCall.eligible uncodedTables)) uncodedInvoice.vendorId = none := by decide
    rw [missing] at known
    cases known

end Payables.Recode
