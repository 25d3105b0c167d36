import Mathlib.Data.List.Sort
import Mathlib.Data.Rat.Defs
import Payables.Basic
import Payables.Lib.Rows
import Payables.Lib.Runs
import Payables.Recurring.Schedule
import Payables.Workflow.Fields
import Payables.Workflow.Reporting

namespace Payables
open Lib

abbrev TemplateId := Nat

/-- `RecurringInvoiceTemplate.status`. -/
inductive TemplateStatus
  | active
  | paused
  | ended
  deriving DecidableEq

/-- What a template copies onto each invoice it raises. -/
structure TemplateTerms where
  vendorId : Option VendorId
  vendorName : Option String
  description : Option String
  amount : Option ℚ
  currency : String
  glAccount : Option String
  costCenter : Option String
  department : Option String
  project : Option String
  poNumber : Option String
  paymentTerms : Option String
  deriving DecidableEq

/-- The marker under `meta["generation_skip"]`. -/
structure SkipMarker where
  reason : String
  periodKey : String
  consecutive : Nat
  deriving DecidableEq

/-- A row of `recurring_invoice_templates`. `fellDue` is no column: it lists the occurrences whose day came
while the template was active and could generate. -/
structure RecurringTemplate where
  id : TemplateId
  name : String
  notes : Option String
  varianceTolerancePct : Option ℚ
  terms : TemplateTerms
  schedule : Schedule
  endDate : Option CalendarDate
  nextRunOn : Option CalendarDate
  lastPeriodKey : Option String
  generatedCount : Nat
  status : TemplateStatus
  skip : Option SkipMarker
  createdByUserId : Option UserId
  materialEditorIds : List UserId
  fellDue : List CalendarDate
  deriving DecidableEq

/-- A generated invoice. `endDateInForce` is no column: it is the end date its template had then. -/
structure RecurringInvoice where
  template : TemplateId
  periodKey : String
  invoiceDate : CalendarDate
  terms : TemplateTerms
  uploadedById : Option UserId
  segregationActorIds : List UserId
  endDateInForce : Option CalendarDate
  deriving DecidableEq

/-- An audit row of the action `recurring_template.generation_skipped`. -/
structure SkippedPeriod where
  template : TemplateId
  marker : SkipMarker
  deriving DecidableEq

structure RecurringStore where
  templates : List RecurringTemplate
  invoices : List RecurringInvoice
  skipped : List SkippedPeriod
  today : CalendarDate
  deriving DecidableEq

def maxConsecutiveSkips : Nat := 3

/-- `MATERIAL_EDIT_FIELDS`. -/
def materialEditFields : List String :=
  ["vendor_id", "amount", "currency", "gl_account", "cost_center", "department", "project", "po_number", "payment_terms",
    "cadence", "day_of_period", "start_date", "end_date", "entity_id"]

/-- The body of the PATCH: what is empty was not sent. The vendor comes with the name that its id resolves to. -/
structure TemplateUpdate where
  name : Option String := none
  vendor : Option (Option VendorId × Option String) := none
  description : Option (Option String) := none
  amount : Option (Option ℚ) := none
  currency : Option String := none
  glAccount : Option (Option String) := none
  costCenter : Option (Option String) := none
  department : Option (Option String) := none
  project : Option (Option String) := none
  poNumber : Option (Option String) := none
  paymentTerms : Option (Option String) := none
  cadence : Option Cadence := none
  dayOfPeriod : Option {day : Nat // 1 ≤ day ∧ day ≤ 28} := none
  startDate : Option CalendarDate := none
  endDate : Option (Option CalendarDate) := none
  varianceTolerancePct : Option (Option ℚ) := none
  notes : Option (Option String) := none
  deriving DecidableEq

/-- Whether a sent value differs from the stored one. -/
def differs {α : Type} [DecidableEq α] (sent : Option α) (stored : α) : Bool := sent.any (· ≠ stored)

namespace RecurringTemplate

variable (t : RecurringTemplate)

/-- `not_generatable_reason`. -/
def notGeneratableReason : Option String :=
  let missingAmount := t.terms.amount.isNone
  let missingVendor := t.terms.vendorName.all (· == "")
  if missingAmount && missingVendor then some "missing_amount_and_vendor"
  else if missingAmount then some "missing_amount"
  else if missingVendor then some "missing_vendor"
  else none

/-- `record_generation_skip`. -/
def recordGenerationSkip (periodKey reason : String) : RecurringTemplate × SkipMarker :=
  let marker : SkipMarker := ⟨reason, periodKey, (t.skip.map (·.consecutive)).getD 0 + 1⟩
  ({ t with skip := some marker }, marker)

/-- `clear_generation_skip`. -/
def clearGenerationSkip : RecurringTemplate := { t with skip := none }

/-- `clear_generation_skip_if_resolved`. -/
def clearGenerationSkipIfResolved : RecurringTemplate := if t.notGeneratableReason = none then t.clearGenerationSkip else t

/-- `record_material_editor`. -/
def recordMaterialEditor (user : UserId) : RecurringTemplate :=
  if user ∈ t.materialEditorIds then t
  else { t with materialEditorIds := (user :: t.materialEditorIds).mergeSort fun one other => one ≤ other }

/-- `implicated_actor_ids`. An empty list stands for the null that is stored when nobody is left. -/
def implicatedActorIds (uploader : Option UserId) : List UserId :=
  let ids := (t.materialEditorIds ++ t.createdByUserId.toList).dedup
  (ids.filter (some · ≠ uploader)).mergeSort fun one other => one ≤ other

/-- `_still_due`. -/
def stillDue (today : CalendarDate) : Bool := t.status == .active && t.nextRunOn.any (· ≤ today)

/-- The cursor after an occurrence, as `generate_one` and `_advance_cursor` compute it. -/
def cursorAfter (runOn : CalendarDate) : Option (Option CalendarDate) := do
  computeNextRunOn t.schedule (← addMonths runOn (monthsPerPeriod t.schedule.cadence)) t.endDate

/-- `_advance_cursor`. -/
def advanceCursor (runOn : CalendarDate) : Option RecurringTemplate :=
  match t.nextRunOn with
  | none => some t
  | some next => if runOn < next then some t else do return { t with nextRunOn := ← t.cursorAfter runOn }

/-- The unique index on the template and the period. -/
def generated (invoices : List RecurringInvoice) (periodKey : String) : Bool :=
  invoices.any fun invoice => invoice.template == t.id && invoice.periodKey == periodKey

/-- The invoice that `generate_one` builds. -/
def newInvoice (runOn : CalendarDate) (actor : Option UserId) : RecurringInvoice where
  template := t.id
  periodKey := periodKeyFor t.schedule.cadence runOn
  invoiceDate := runOn
  terms := t.terms
  uploadedById := actor.or t.createdByUserId
  segregationActorIds := t.implicatedActorIds (actor.or t.createdByUserId)
  endDateInForce := t.endDate

/-- `generate_one`: the template and the invoices as the session then holds them. -/
def generateOne (invoices : List RecurringInvoice) (runOn : CalendarDate) (actor : Option UserId) :
    Option (RecurringTemplate × List RecurringInvoice) :=
  if t.notGeneratableReason.isSome then some (t, invoices)
  else
    let cleared := t.clearGenerationSkip
    let periodKey := periodKeyFor t.schedule.cadence runOn
    if t.generated invoices periodKey then some (cleared, invoices)
    else do
      let next ← t.cursorAfter runOn
      return ({ cleared with generatedCount := t.generatedCount + 1, lastPeriodKey := some periodKey, nextRunOn := next },
        invoices ++ [t.newInvoice runOn actor])

/-- What `_handle_non_generatable` does to the template. -/
def handleNonGeneratable (periodKey reason : String) : RecurringTemplate × SkipMarker :=
  let (marked, marker) := t.recordGenerationSkip periodKey reason
  (if maxConsecutiveSkips ≤ marker.consecutive ∧ marked.status = .active then { marked with status := .paused } else marked, marker)

/-- The fields that `update_template` finds changed. -/
def changedFields (body : TemplateUpdate) : List String :=
  let fields := [("name", differs body.name t.name), ("vendor_id", differs (body.vendor.map (·.1)) t.terms.vendorId),
    ("description", differs body.description t.terms.description), ("amount", differs body.amount t.terms.amount),
    ("currency", differs (body.currency.map pyUpper) t.terms.currency), ("gl_account", differs body.glAccount t.terms.glAccount),
    ("cost_center", differs body.costCenter t.terms.costCenter), ("department", differs body.department t.terms.department),
    ("project", differs body.project t.terms.project), ("po_number", differs body.poNumber t.terms.poNumber),
    ("payment_terms", differs body.paymentTerms t.terms.paymentTerms), ("cadence", differs body.cadence t.schedule.cadence),
    ("day_of_period", differs (body.dayOfPeriod.map (·.1)) t.schedule.dayOfPeriod),
    ("start_date", differs body.startDate t.schedule.startDate),
    ("end_date", differs body.endDate t.endDate), ("variance_tolerance_pct", differs body.varianceTolerancePct t.varianceTolerancePct),
    ("notes", differs body.notes t.notes)]
  (fields.filter (·.2)).map (·.1)

/-- The terms after a PATCH. The vendor name is only read again when the vendor changes. -/
def patchedTerms (body : TemplateUpdate) : TemplateTerms where
  vendorId := (body.vendor.map (·.1)).getD t.terms.vendorId
  vendorName := match body.vendor with
    | some (vendor, name) => if vendor = t.terms.vendorId then t.terms.vendorName else name
    | none => t.terms.vendorName
  description := body.description.getD t.terms.description
  amount := body.amount.getD t.terms.amount
  currency := (body.currency.map pyUpper).getD t.terms.currency
  glAccount := body.glAccount.getD t.terms.glAccount
  costCenter := body.costCenter.getD t.terms.costCenter
  department := body.department.getD t.terms.department
  project := body.project.getD t.terms.project
  poNumber := body.poNumber.getD t.terms.poNumber
  paymentTerms := body.paymentTerms.getD t.terms.paymentTerms

/-- `_seed_next_run_on`. -/
def seedNextRunOn (after : CalendarDate) : Option RecurringTemplate := do
  return { t with nextRunOn := ← computeNextRunOn t.schedule after t.endDate }

/-- The schedule after a PATCH. -/
def patchedSchedule (body : TemplateUpdate) : Schedule where
  cadence := body.cadence.getD t.schedule.cadence
  dayOfPeriod := (body.dayOfPeriod.getD ⟨t.schedule.dayOfPeriod, t.schedule.dayRange⟩).1
  startDate := body.startDate.getD t.schedule.startDate
  dayRange := (body.dayOfPeriod.getD ⟨t.schedule.dayOfPeriod, t.schedule.dayRange⟩).2

/-- The fields of the body set on the template. -/
def patched (body : TemplateUpdate) : RecurringTemplate :=
  { t with
    name := body.name.getD t.name
    notes := body.notes.getD t.notes
    varianceTolerancePct := body.varianceTolerancePct.getD t.varianceTolerancePct
    terms := t.patchedTerms body
    schedule := t.patchedSchedule body
    endDate := body.endDate.getD t.endDate }

/-- `_SCHEDULE_FIELDS` are the only ones whose change computes the cursor of an active template again. -/
def reseeded (changed : List String) (today : CalendarDate) : Option RecurringTemplate :=
  if t.status = .active ∧ changed.any (["cadence", "day_of_period", "start_date"].contains ·) then
    t.seedNextRunOn (max today t.schedule.startDate)
  else some t

/-- The rest of `update_template`: its editor and the skip marker. -/
def closeUpdate (changed : List String) (user : UserId) : RecurringTemplate :=
  let implicated := if changed.any (materialEditFields.contains ·) then t.recordMaterialEditor user else t
  if changed = [] then implicated else implicated.clearGenerationSkipIfResolved

/-- `update_template`. -/
def update (body : TemplateUpdate) (user : UserId) (today : CalendarDate) : Option RecurringTemplate := do
  let changed := t.changedFields body
  return (← (t.patched body).reseeded changed today).closeUpdate changed user

/-- `pause_template`. -/
def pause : RecurringTemplate := if t.status = .active then { t with status := .paused } else t

/-- `resume_template`. -/
def resume (today : CalendarDate) : Option RecurringTemplate :=
  if t.status ≠ .paused then some t
  else do return (← { t with status := .active }.seedNextRunOn (max today t.schedule.startDate)).clearGenerationSkipIfResolved

/-- The days up to `today` come: what the schedule asks for in between falls due, if the template is active and
can generate. -/
def arrive (before today : CalendarDate) : RecurringTemplate :=
  if t.status = .active ∧ t.notGeneratableReason = none then
    { t with fellDue := t.fellDue ++ (t.schedule.occurrencesUpTo today).filter fun date => before < date ∧ InForce t.endDate date }
  else t

end RecurringTemplate

/-- The body of `POST /recurring`, its vendor name resolved. -/
structure TemplateCreate where
  name : String
  notes : Option String
  varianceTolerancePct : Option ℚ
  terms : TemplateTerms
  schedule : Schedule
  endDate : Option CalendarDate
  deriving DecidableEq

/-- A call on the templates. The sweep takes its templates one at a time, each in a transaction of its own. -/
inductive RecurringOp
  | create (body : TemplateCreate) (user : UserId)
  | sweepTemplate (id : TemplateId)
  | generateNow (id : TemplateId) (user : UserId)
  | update (id : TemplateId) (body : TemplateUpdate) (user : UserId)
  | pause (id : TemplateId)
  | resume (id : TemplateId)
  deriving DecidableEq

structure RecurringLabel where
  today : CalendarDate
  op : RecurringOp
  deriving DecidableEq

namespace RecurringStore

variable (store : RecurringStore)

def template? (id : TemplateId) : Option RecurringTemplate := getRow RecurringTemplate.id id store.templates

/-- The commit of a template's row. -/
def write (t : RecurringTemplate) : RecurringStore := { store with templates := putRow RecurringTemplate.id t store.templates }

/-- `create_template`. Every occurrence that is already due by then counts as fallen due. -/
def create (body : TemplateCreate) (user : UserId) : Option RecurringStore := do
  let next ← computeNextRunOn body.schedule body.schedule.startDate body.endDate
  let t : RecurringTemplate :=
    ⟨store.templates.length, body.name, body.notes, body.varianceTolerancePct, { body.terms with currency := pyUpper body.terms.currency },
      body.schedule, body.endDate, next, none, 0, .active, none, some user, [], []⟩
  let due := (body.schedule.occurrencesUpTo store.today).filter fun date => InForce body.endDate date
  return { store with
    templates := store.templates ++ [{ t with fellDue := if t.notGeneratableReason = none then due else [] }] }

/-- The branches of `_sweep_tenant` on one due template that it has locked. -/
def sweepDue (t : RecurringTemplate) (runOn : CalendarDate) : Option RecurringStore :=
  let periodKey := periodKeyFor t.schedule.cadence runOn
  match t.notGeneratableReason with
  | some reason => do
    let handled := t.handleNonGeneratable periodKey reason
    let advanced ← handled.1.advanceCursor runOn
    return { store.write advanced with skipped := store.skipped ++ [⟨t.id, handled.2⟩] }
  | none =>
    let cleared := t.clearGenerationSkip
    if cleared.generated store.invoices periodKey then do return store.write (← cleared.advanceCursor runOn)
    else do
      let generated ← cleared.generateOne store.invoices runOn none
      let advanced ← generated.1.advanceCursor runOn
      return { store.write advanced with invoices := generated.2 }

/-- One template of `_sweep_tenant`: what raises is rolled back. -/
def sweepTemplate (id : TemplateId) : RecurringStore :=
  match store.template? id with
  | none => store
  | some t =>
    if !t.stillDue store.today then store
    else
      match t.nextRunOn with
      | none => store
      | some runOn => (store.sweepDue t runOn).getD store

/-- `generate_now`, on the period it targets. -/
def generatePeriod (t : RecurringTemplate) (runOn : CalendarDate) (user : UserId) : Option RecurringStore :=
  if t.generated store.invoices (periodKeyFor t.schedule.cadence runOn) then some (store.write t.clearGenerationSkip)
  else do
    let generated ← t.generateOne store.invoices runOn (some user)
    return { store.write generated.1 with invoices := generated.2 }

/-- `generate_now`. -/
def generateNow (id : TemplateId) (user : UserId) : RecurringStore :=
  match store.template? id with
  | none => store
  | some t =>
    if t.status = .ended ∨ t.notGeneratableReason.isSome then store
    else
      match currentDueRunOn t.schedule store.today with
      | none => store
      | some runOn => (store.generatePeriod t runOn user).getD store

/-- An endpoint that writes one template, or raises. -/
def edit (id : TemplateId) (change : RecurringTemplate → Option RecurringTemplate) : RecurringStore :=
  match store.template? id with
  | none => store
  | some t => ((change t).map store.write).getD store

def run : RecurringOp → RecurringStore
  | .create body user => (store.create body user).getD store
  | .sweepTemplate id => store.sweepTemplate id
  | .generateNow id user => store.generateNow id user
  | .update id body user => store.edit id fun t => t.update body user store.today
  | .pause id => store.edit id fun t => some t.pause
  | .resume id => store.edit id fun t => t.resume store.today

/-- Time passes up to the day of a call. -/
def arrive (today : CalendarDate) : RecurringStore :=
  { store with templates := store.templates.map fun t => t.arrive store.today today, today := today }

/-- The templates that `_sweep_tenant` reads, oldest due first. -/
def dueIds (cap : Nat) : List TemplateId :=
  let due := store.templates.filter (·.stillDue store.today)
  ((due.mergeSort fun one other => toLex (one.nextRunOn.getD store.today, one.id) ≤ toLex (other.nextRunOn.getD store.today, other.id)).take
    cap).map (·.id)

/-- `_sweep_tenant`, for the tick of one day. -/
def sweepTenant (cap : Nat) : RecurringStore := (store.dueIds cap).foldl sweepTemplate store

end RecurringStore

/-- A call on an earlier day than the last one does not come. -/
def runRecurringLabel (store : RecurringStore) (label : RecurringLabel) : RecurringStore :=
  if label.today < store.today then store else (store.arrive label.today).run label.op

/-- The templates and their invoices, from none on. -/
def recurringMachine : Machine RecurringStore RecurringLabel where
  init store := store.templates = [] ∧ store.invoices = [] ∧ store.skipped = []
  step := runRecurringLabel

/-- On the day itself nothing more falls due. -/
theorem RecurringTemplate.arrive_same (t : RecurringTemplate) (today : CalendarDate) : t.arrive today today = t := by
  unfold RecurringTemplate.arrive
  split
  · have nothing : ((t.schedule.occurrencesUpTo today).filter fun date => today < date ∧ InForce t.endDate date) = [] := by
      refine List.filter_eq_nil_iff.mpr fun date listed kept => ?_
      have within := (Schedule.mem_occurrencesUpTo.mp listed).2
      exact absurd (of_decide_eq_true kept).1 (not_lt.mpr within)
    rw [nothing, List.append_nil]
  · rfl

theorem RecurringStore.arrive_same (store : RecurringStore) : store.arrive store.today = store := by
  have same : (store.templates.map fun t => t.arrive store.today store.today) = store.templates :=
    (List.map_congr_left fun t _ => t.arrive_same store.today).trans (List.map_id _)
  rw [arrive, same]

theorem RecurringStore.sweepDue_today {store after : RecurringStore} {t : RecurringTemplate} {runOn : CalendarDate}
    (swept : store.sweepDue t runOn = some after) : after.today = store.today := by
  unfold sweepDue at swept
  simp only at swept
  split at swept
  · obtain ⟨advanced, _, made⟩ := Option.bind_eq_some_iff.mp swept
    cases made
    rfl
  · split at swept
    · obtain ⟨advanced, _, made⟩ := Option.bind_eq_some_iff.mp swept
      cases made
      rfl
    · obtain ⟨generated, _, swept⟩ := Option.bind_eq_some_iff.mp swept
      obtain ⟨advanced, _, made⟩ := Option.bind_eq_some_iff.mp swept
      cases made
      rfl

theorem RecurringStore.sweepTemplate_today (store : RecurringStore) (id : TemplateId) :
    (store.sweepTemplate id).today = store.today := by
  unfold sweepTemplate
  split
  · rfl
  next t _ =>
  split
  · rfl
  split
  · rfl
  next runOn _ =>
  cases swept : store.sweepDue t runOn with
  | none => rfl
  | some after => exact sweepDue_today swept

/-- A tick of the sweep is a run of its templates, each on its own. -/
theorem RecurringStore.sweepTenant_eq_exec (store : RecurringStore) (cap : Nat) :
    store.sweepTenant cap = recurringMachine.exec store ((store.dueIds cap).map fun id => ⟨store.today, .sweepTemplate id⟩) := by
  have each (ids : List TemplateId) (today : CalendarDate) (before : RecurringStore) (same : before.today = today) :
      ids.foldl sweepTemplate before = recurringMachine.exec before (ids.map fun id => ⟨today, .sweepTemplate id⟩) := by
    induction ids generalizing before with
    | nil => rfl
    | cons id rest ih =>
      have one : recurringMachine.step before ⟨today, .sweepTemplate id⟩ = before.sweepTemplate id := by
        show runRecurringLabel before ⟨today, .sweepTemplate id⟩ = _
        rw [← same, runRecurringLabel, if_neg (lt_irrefl _), arrive_same]
        rfl
      rw [List.foldl_cons, List.map_cons, Machine.exec, List.foldl_cons, one]
      exact ih (before.sweepTemplate id) ((before.sweepTemplate_today id).trans same)
  exact each (store.dueIds cap) store.today store rfl

end Payables
