import Payables.Basic
import Payables.Lib.Rows
import Payables.Workflow.Status

namespace Payables.Recode

open Lib

structure GlAccount where
  organizationId : Nat
  code : String
  entityId : Option Nat
  isActive : Bool
  deriving DecidableEq

/-- The width of `invoices.gl_account`. -/
def glAccountWidth : Nat := 100

/-- A `VendorExtractionPrior`. A cached `gl_account` was set on an invoice in the transaction that cached it. -/
structure VendorPrior where
  vendorId : Nat
  fieldName : String
  value : String
  fits : fieldName = "gl_account" → value.length ≤ glAccountWidth
  deriving DecidableEq

structure RecodeInvoice where
  id : Nat
  organizationId : Nat
  invoiceNumber : String
  vendorName : Option String
  vendorId : Option Nat
  entityId : Option Nat
  status : InvoiceStatus
  glAccount : Option String
  invoiceDate : Option Int
  receivedDate : Option Int
  createdOn : Int
  deriving DecidableEq

inductive RecodeSource
  | vendorPrior
  | ai
  deriving DecidableEq

structure RecodeChange where
  invoiceId : Nat
  invoiceNumber : String
  vendorName : String
  oldGl : Option String
  newGl : String
  source : RecodeSource
  deriving DecidableEq

structure AuditRow where
  organizationId : Nat
  actorId : Option Nat
  action : String
  entityId : Nat
  oldGl : Option String
  newGl : String
  source : RecodeSource
  deriving DecidableEq

structure RecodeReport where
  matched : Nat := 0
  skippedImmutable : Nat := 0
  skippedNoVendor : Nat := 0
  skippedNoChange : Nat := 0
  skippedNoPriorNoAi : Nat := 0
  skippedAiFailed : Nat := 0
  skippedInvalidCode : Nat := 0
  aiCandidates : Nat := 0
  byVendorPrior : Nat := 0
  byAi : Nat := 0
  changes : List RecodeChange := []
  dryRun : Bool := true

/-- `_ActiveChart`. -/
structure ActiveChart where
  shared : List String
  byEntity : List (Nat × List String)

namespace ActiveChart

def isEmpty (chart : ActiveChart) : Bool := chart.shared.isEmpty && chart.byEntity.isEmpty

/-- `by_entity.get(entity_id, frozenset())`. -/
def codesOf (chart : ActiveChart) (entityId : Nat) : List String :=
  ((getRow Prod.fst entityId chart.byEntity).map Prod.snd).getD []

def isValidFor (chart : ActiveChart) (code : String) (entityId : Option Nat) : Bool :=
  chart.shared.contains code || entityId.any fun entity => (chart.codesOf entity).contains code

/-- A row of the query, added to the chart. -/
def add (chart : ActiveChart) (account : GlAccount) : ActiveChart :=
  match account.entityId with
  | none => { chart with shared := account.code :: chart.shared }
  | some entity =>
    if entity ∈ chart.byEntity.map Prod.fst then
      { chart with byEntity := changeRow Prod.fst entity (fun codes => (codes.1, account.code :: codes.2)) chart.byEntity }
    else { chart with byEntity := chart.byEntity ++ [(entity, [account.code])] }

end ActiveChart

/-- `_load_active_chart`. -/
def loadActiveChart (accounts : List GlAccount) (organizationId : Nat) : ActiveChart :=
  (accounts.filter fun account => account.organizationId = organizationId ∧ account.isActive = true).foldl ActiveChart.add ⟨[], []⟩

/-- `_load_priors`, as the rows of its dictionary. -/
def loadPriors (priors : List VendorPrior) (vendorIds : List Nat) : List VendorPrior :=
  if vendorIds = [] then [] else priors.filter fun prior => prior.vendorId ∈ vendorIds ∧ prior.fieldName = "gl_account"

/-- `priors.get`. The last row of a vendor stays in the dictionary. -/
def priorOf (priors : List VendorPrior) (vendorId : Option Nat) : Option String :=
  (priors.reverse.find? fun prior => some prior.vendorId = vendorId).map (·.value)

structure RecodeFilter where
  fromDate : Option Int
  toDate : Option Int
  vendorIds : List Nat

/-- `coalesce(invoice_date, received_date, created_at::date)`. -/
def RecodeInvoice.effectiveDate (invoice : RecodeInvoice) : Int := (invoice.invoiceDate.or invoice.receivedDate).getD invoice.createdOn

/-- The `base_filters`. -/
def RecodeFilter.admits (filt : RecodeFilter) (organizationId : Nat) (invoice : RecodeInvoice) : Bool :=
  invoice.organizationId = organizationId && filt.fromDate.all (· ≤ invoice.effectiveDate) &&
    filt.toDate.all (invoice.effectiveDate ≤ ·) && (filt.vendorIds.isEmpty || invoice.vendorId.any filt.vendorIds.contains)

structure ScopeQuery where
  eligible : List RecodeInvoice
  skippedImmutable : Nat
  skippedNoVendor : Nat

/-- `_select_scope`. -/
def selectScope (invoices : List RecodeInvoice) (organizationId : Nat) (filt : RecodeFilter) : ScopeQuery where
  eligible := invoices.filter fun invoice =>
    filt.admits organizationId invoice ∧ invoice.status ∉ InvoiceStatus.immutableStatuses ∧ invoice.vendorId ≠ none
  skippedImmutable := invoices.countP fun invoice =>
    filt.admits organizationId invoice ∧ invoice.status ∈ InvoiceStatus.immutableStatuses
  skippedNoVendor := invoices.countP fun invoice =>
    filt.admits organizationId invoice ∧ invoice.vendorId = none ∧ invoice.status ∉ InvoiceStatus.immutableStatuses

/-- What is committed. -/
structure RecodeTables where
  invoices : List RecodeInvoice
  auditRows : List AuditRow
  keys : (invoices.map (·.id)).Nodup

/-- A session: what is committed, the attributes set and the rows added since, and of which invoices the document was
extracted, with whether this failed. -/
structure RecodeSession where
  stored : RecodeTables
  codes : List (Nat × Option String)
  auditRows : List AuditRow
  extracted : List (Nat × Bool)

namespace RecodeSession

/-- The `gl_account` of an invoice in the session. -/
def glAccount (session : RecodeSession) (invoice : RecodeInvoice) : Option String :=
  ((getRow Prod.fst invoice.id session.codes).map Prod.snd).getD invoice.glAccount

def assign (session : RecodeSession) (invoiceId : Nat) (code : Option String) : RecodeSession :=
  { session with codes := (invoiceId, code) :: session.codes }

def addAudit (session : RecodeSession) (row : AuditRow) : RecodeSession :=
  { session with auditRows := session.auditRows ++ [row] }

/-- A row with its attributes of the session. -/
def current (session : RecodeSession) (invoice : RecodeInvoice) : RecodeInvoice :=
  { invoice with glAccount := session.glAccount invoice }

theorem current_keys (session : RecodeSession) : ((session.stored.invoices.map session.current).map (·.id)).Nodup := by
  rw [List.map_map]
  exact session.stored.keys

/-- What a commit stores. -/
def flushed (session : RecodeSession) : RecodeTables where
  invoices := session.stored.invoices.map session.current
  auditRows := session.stored.auditRows ++ session.auditRows
  keys := session.current_keys

/-- A code that is longer than the column is refused. -/
def commit (session : RecodeSession) : Except Raised RecodeSession :=
  if session.codes.all fun code => code.2.all (·.length ≤ glAccountWidth) then
    .ok { session with stored := session.flushed, codes := [], auditRows := [] }
  else .error (.uncaught "DBAPIError")

def rollback (session : RecodeSession) : RecodeSession := { session with codes := [], auditRows := [] }

end RecodeSession

/-- What comes of the extraction of a document: the invoice's `gl_account` after it, or a failure. -/
inductive ExtractionOutcome
  | extracted (glAccount : Option String)
  | failed

/-- The body of `run_extraction`, as far as it goes on the session it is given. -/
def extractionBody (outcome : ExtractionOutcome) (session : RecodeSession) (invoiceId : Nat) : RecodeSession :=
  match outcome with
  | .failed => { session.rollback with extracted := (invoiceId, true) :: session.extracted }
  | .extracted glAccount =>
    match (session.assign invoiceId glAccount).commit with
    | .ok done => { done with extracted := (invoiceId, false) :: session.extracted }
    | .error _ => { session.rollback with extracted := (invoiceId, true) :: session.extracted }

/-- The keyword parameters of `run_extraction`. -/
def runExtractionKeywords : List String := ["actor_id", "org_settings", "skip_vendor_match", "suppress_auto_approve"]

/-- `run_extraction`, called with the given keywords. Arguments are bound before anything of the body runs. -/
def runExtraction (keywords : List String) (outcome : ExtractionOutcome) (session : RecodeSession) (invoiceId : Nat) :
    Except Raised RecodeSession :=
  if keywords.all runExtractionKeywords.contains then .ok (extractionBody outcome session invoiceId)
  else .error (.uncaught "TypeError")

/-- The keywords `bulk_recode_gl` calls its runner with. -/
def runnerKeywords : List String := ["actor_id", "org_settings", "ctrl_db"]

/-- What the first pass makes of an invoice. -/
inductive PriorOutcome
  | noPrior
  | invalidPrior
  | noChange
  | change (code : String)
  deriving DecidableEq

/-- The branches of the first pass. -/
def priorOutcome (chart : ActiveChart) (priors : List VendorPrior) (invoice : RecodeInvoice) : PriorOutcome :=
  match priorOf priors invoice.vendorId with
  | none => .noPrior
  | some priorCode =>
    if !chart.isEmpty && !chart.isValidFor priorCode invoice.entityId then .invalidPrior
    else if invoice.glAccount = some priorCode then .noChange
    else .change priorCode

def recodeChange (invoice : RecodeInvoice) (newGl : String) (source : RecodeSource) : RecodeChange where
  invoiceId := invoice.id
  invoiceNumber := invoice.invoiceNumber
  vendorName := invoice.vendorName.getD ""
  oldGl := invoice.glAccount
  newGl := newGl
  source := source

structure FirstPass where
  report : RecodeReport
  session : RecodeSession
  noPrior : List RecodeInvoice
  invalidPrior : List RecodeInvoice

/-- The body of the first loop. -/
def firstStep (chart : ActiveChart) (priors : List VendorPrior) (dryRun : Bool) (pass : FirstPass) (invoice : RecodeInvoice) :
    FirstPass :=
  match priorOutcome chart priors invoice with
  | .noPrior => { pass with noPrior := pass.noPrior ++ [invoice] }
  | .invalidPrior => { pass with invalidPrior := pass.invalidPrior ++ [invoice] }
  | .noChange => { pass with report.skippedNoChange := pass.report.skippedNoChange + 1 }
  | .change code =>
    { pass with
      report.changes := pass.report.changes ++ [recodeChange invoice code .vendorPrior]
      report.byVendorPrior := pass.report.byVendorPrior + 1
      session := if dryRun then pass.session else pass.session.assign invoice.id (some code) }

/-- The body of the loop over `needs_ai`. -/
def aiStep (outcomes : Nat → ExtractionOutcome) (state : RecodeReport × RecodeSession) (invoice : RecodeInvoice) :
    RecodeReport × RecodeSession :=
  match runExtraction runnerKeywords (outcomes invoice.id) state.2 invoice.id with
  | .error _ => ({ state.1 with skippedAiFailed := state.1.skippedAiFailed + 1 }, state.2)
  | .ok session =>
    match session.glAccount ((getRow (·.id) invoice.id session.stored.invoices).getD invoice) with
    | none => ({ state.1 with skippedNoChange := state.1.skippedNoChange + 1 }, session)
    | some newGl =>
      if some newGl = invoice.glAccount then ({ state.1 with skippedNoChange := state.1.skippedNoChange + 1 }, session)
      else ({ state.1 with
        changes := state.1.changes ++ [recodeChange invoice newGl .ai]
        byAi := state.1.byAi + 1 }, session)

structure RecodeCall where
  organizationId : Nat
  filt : RecodeFilter
  includeAiFallback : Bool
  dryRun : Bool
  actorId : Option Nat

/-- The row `dispatch_audit` writes. -/
def RecodeCall.auditRow (call : RecodeCall) (change : RecodeChange) : AuditRow where
  organizationId := call.organizationId
  actorId := call.actorId
  action := "invoice.gl_recoded"
  entityId := change.invoiceId
  oldGl := change.oldGl
  newGl := change.newGl
  source := change.source

variable (accounts : List GlAccount) (cachedPriors : List VendorPrior) (outcomes : Nat → ExtractionOutcome)

/-- The dictionary of the priors of some invoices. -/
def priorsFor (eligible : List RecodeInvoice) : List VendorPrior := loadPriors cachedPriors (eligible.filterMap (·.vendorId))

/-- The first pass. -/
def firstPass (call : RecodeCall) (session : RecodeSession) : FirstPass :=
  let scope := selectScope session.stored.invoices call.organizationId call.filt
  scope.eligible.foldl (firstStep (loadActiveChart accounts call.organizationId) (priorsFor cachedPriors scope.eligible) call.dryRun)
    ⟨{ matched := scope.eligible.length, skippedImmutable := scope.skippedImmutable, skippedNoVendor := scope.skippedNoVendor,
       dryRun := call.dryRun }, session, [], []⟩

/-- The second pass. -/
def secondPass (call : RecodeCall) (pass : FirstPass) : RecodeReport × RecodeSession :=
  let needsAi := pass.noPrior ++ pass.invalidPrior
  if needsAi = [] then (pass.report, pass.session)
  else if call.includeAiFallback then
    if call.dryRun then ({ pass.report with aiCandidates := needsAi.length }, pass.session)
    else needsAi.foldl (aiStep outcomes) (pass.report, pass.session)
  else
    ({ pass.report with
      skippedNoPriorNoAi := pass.report.skippedNoPriorNoAi + pass.noPrior.length
      skippedInvalidCode := pass.report.skippedInvalidCode + pass.invalidPrior.length }, pass.session)

/-- The audit rows and the commit. -/
def persist (call : RecodeCall) (state : RecodeReport × RecodeSession) : Except Raised (RecodeReport × RecodeSession) :=
  if !call.dryRun ∧ state.1.changes ≠ [] then
    match (state.1.changes.foldl (fun session change => session.addAudit (call.auditRow change)) state.2).commit with
    | .ok session => .ok (state.1, session)
    | .error raised => .error raised
  else .ok state

/-- `bulk_recode_gl`, on a new session. -/
def bulkRecodeGl (call : RecodeCall) (stored : RecodeTables) : Except Raised (RecodeReport × RecodeSession) :=
  persist call (secondPass outcomes call (firstPass accounts cachedPriors call ⟨stored, [], [], []⟩))

end Payables.Recode
