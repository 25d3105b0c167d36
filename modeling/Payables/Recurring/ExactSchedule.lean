import Payables.Recurring.Templates

namespace Payables
open Lib

namespace RecurringStore

variable (store : RecurringStore)

/-- The occurrence has its invoice. -/
def Invoiced (t : RecurringTemplate) (date : CalendarDate) : Prop :=
  ∃ invoice ∈ store.invoices, invoice.template = t.id ∧ invoice.periodKey = periodKeyFor t.schedule.cadence date ∧
    invoice.invoiceDate = date
  deriving Decidable

/-- A skip of the occurrence is on record. -/
def Skipped (t : RecurringTemplate) (date : CalendarDate) : Prop :=
  ∃ skip ∈ store.skipped, skip.template = t.id ∧ skip.marker.periodKey = periodKeyFor t.schedule.cadence date
  deriving Decidable

/-- What fell due and has neither. -/
def outstanding (t : RecurringTemplate) : List CalendarDate :=
  t.fellDue.filter fun date => ¬store.Invoiced t date ∧ ¬store.Skipped t date

end RecurringStore

/-- The schedules are generated exactly and completely. -/
structure ExactSchedules (store : RecurringStore) : Prop where
  once : (store.invoices.map fun invoice => (invoice.template, invoice.periodKey)).Nodup
  within : ∀ invoice ∈ store.invoices, ∀ t ∈ store.templates, t.id = invoice.template →
    t.schedule.startDate ≤ invoice.invoiceDate ∧ InForce invoice.endDateInForce invoice.invoiceDate
  complete : ∀ t ∈ store.templates, ∀ date ∈ t.fellDue,
    store.Invoiced t date ∨ store.Skipped t date ∨ ∃ next ∈ t.nextRunOn, next ≤ date

/-- The sweep does not raise an invoice for a cursor that an edit of the end date has left behind it. -/
def SweepInForce (store : RecurringStore) (id : TemplateId) : Prop :=
  ∀ t ∈ store.template? id, t.stillDue store.today → t.notGeneratableReason = none → ∀ runOn ∈ t.nextRunOn,
    t.generated store.invoices (periodKeyFor t.schedule.cadence runOn) = false → InForce t.endDate runOn
  deriving Decidable

/-- A manual generation raises no invoice past the end date, nor ahead of an occurrence still outstanding. -/
def GenerateInTurn (store : RecurringStore) (id : TemplateId) : Prop :=
  ∀ t ∈ store.template? id, t.notGeneratableReason = none → ∀ runOn ∈ currentDueRunOn t.schedule store.today,
    t.generated store.invoices (periodKeyFor t.schedule.cadence runOn) = false →
      InForce t.endDate runOn ∧ ∀ date ∈ store.outstanding t, runOn ≤ date
  deriving Decidable

/-- The last day there is. -/
def endOfTime : CalendarDate := ⟨9999, 12, 31, by decide, by decide, by decide⟩

/-- A new end date keeps what is outstanding, and gives an active template whose cursor is empty nothing more to do. -/
def EndDateFits (store : RecurringStore) (t : RecurringTemplate) (endDate : Option CalendarDate) : Prop :=
  (∀ date ∈ store.outstanding t, InForce endDate date) ∧
    (t.status = .active → t.nextRunOn = none → ∀ date ∈ t.schedule.occurrencesUpTo (endDate.getD endOfTime),
      store.today < date → store.Invoiced t date)
  deriving Decidable

/-- An edit leaves cadence, day and start date, and its end date fits. -/
def UpdateFits (store : RecurringStore) (id : TemplateId) (body : TemplateUpdate) : Prop :=
  ∀ t ∈ store.template? id, t.patchedSchedule body = t.schedule ∧ ∀ endDate ∈ body.endDate, EndDateFits store t endDate
  deriving Decidable

/-- A template is not resumed with an occurrence outstanding from before today. -/
def ResumeCaughtUp (store : RecurringStore) (id : TemplateId) : Prop :=
  ∀ t ∈ store.template? id, t.status = .paused → ∀ date ∈ store.outstanding t, store.today ≤ date
  deriving Decidable

def OpInTurn (store : RecurringStore) : RecurringOp → Prop
  | .create .. => True
  | .sweepTemplate id => SweepInForce store id
  | .generateNow id _ => GenerateInTurn store id
  | .update id body _ => UpdateFits store id body
  | .pause _ => True
  | .resume id => ResumeCaughtUp store id

instance (store : RecurringStore) : (op : RecurringOp) → Decidable (OpInTurn store op)
  | .create .. => inferInstanceAs (Decidable True)
  | .sweepTemplate id => inferInstanceAs (Decidable (SweepInForce store id))
  | .generateNow id _ => inferInstanceAs (Decidable (GenerateInTurn store id))
  | .update id body _ => inferInstanceAs (Decidable (UpdateFits store id body))
  | .pause _ => inferInstanceAs (Decidable True)
  | .resume id => inferInstanceAs (Decidable (ResumeCaughtUp store id))

/-- The condition on a call, on the day it comes. -/
def InTurn (store : RecurringStore) (label : RecurringLabel) : Prop := OpInTurn (store.arrive label.today) label.op
  deriving Decidable

/-- A template that is written back with what its schedule and its ghost say. -/
structure KeepsSchedule (t t' : RecurringTemplate) : Prop where
  id : t'.id = t.id
  schedule : t'.schedule = t.schedule
  endDate : t'.endDate = t.endDate
  fellDue : t'.fellDue = t.fellDue

/-- A store with the invoices and skips of an earlier one. -/
structure MoreRecords (store store' : RecurringStore) : Prop where
  invoices : store.invoices ⊆ store'.invoices
  skipped : store.skipped ⊆ store'.skipped

section
variable {store store' : RecurringStore} {t t' : RecurringTemplate} {date runOn : CalendarDate}

theorem RecurringStore.Invoiced.mono (invoiced : store.Invoiced t date) (more : store.invoices ⊆ store'.invoices) (id : t'.id = t.id)
    (schedule : t'.schedule = t.schedule) : store'.Invoiced t' date := by
  obtain ⟨invoice, member, template, period, day⟩ := invoiced
  exact ⟨invoice, more member, by rw [id, template], by rw [schedule, period], day⟩

theorem RecurringStore.Skipped.mono (skipped : store.Skipped t date) (more : store.skipped ⊆ store'.skipped) (id : t'.id = t.id)
    (schedule : t'.schedule = t.schedule) : store'.Skipped t' date := by
  obtain ⟨skip, member, template, period⟩ := skipped
  exact ⟨skip, more member, by rw [id, template], by rw [schedule, period]⟩

theorem RecurringStore.mem_outstanding :
    date ∈ store.outstanding t ↔ date ∈ t.fellDue ∧ ¬store.Invoiced t date ∧ ¬store.Skipped t date := by
  rw [outstanding, List.mem_filter, decide_eq_true_eq]

/-- What holds of a template in every state: its cursor has passed no occurrence that fell due without a record of
it, nor one that is still to come. -/
structure TemplateInv (store : RecurringStore) (t : RecurringTemplate) : Prop where
  cursor : ∀ next ∈ t.nextRunOn, t.schedule.Occurs next
  due : ∀ date ∈ t.fellDue, t.schedule.Occurs date ∧ date ≤ store.today
  settled : ∀ date ∈ store.outstanding t, InForce t.endDate date ∧ Ahead t.nextRunOn t.endDate date
  upcoming : t.status = .active → ∀ date, t.schedule.Occurs date → store.today < date →
    store.Invoiced t date ∨ Ahead t.nextRunOn t.endDate date

theorem TemplateInv.mono (inv : TemplateInv store t) (more : MoreRecords store store') (day : store'.today = store.today) :
    TemplateInv store' t where
  cursor := inv.cursor
  due := by
    rw [day]
    exact inv.due
  settled := by
    intro date member
    obtain ⟨due, noInvoice, noSkip⟩ := RecurringStore.mem_outstanding.mp member
    have before : date ∈ store.outstanding t := RecurringStore.mem_outstanding.mpr
      ⟨due, fun invoiced => noInvoice (invoiced.mono more.invoices rfl rfl), fun skipped => noSkip (skipped.mono more.skipped rfl rfl)⟩
    exact inv.settled date before
  upcoming := by
    intro active date occurs future
    rw [day] at future
    exact (inv.upcoming active date occurs future).imp_left fun invoiced => invoiced.mono more.invoices rfl rfl

/-- The cursor is advanced past an occurrence that has its record, with nothing outstanding before it. -/
theorem TemplateInv.advance {anchor : CalendarDate} {next : Option CalendarDate} (inv : TemplateInv store t)
    (more : MoreRecords store store') (day : store'.today = store.today) (keeps : KeepsSchedule t t')
    (occurs : t.schedule.Occurs runOn)
    (added : addMonths runOn (monthsPerPeriod t.schedule.cadence) = some anchor)
    (computed : computeNextRunOn t.schedule anchor t.endDate = some next) (advanced : t'.nextRunOn = next)
    (inTurn : ∀ date ∈ store.outstanding t, runOn ≤ date)
    (future : ∀ date, t.schedule.Occurs date → store.today < date → runOn ≤ date)
    (recorded : store'.Invoiced t' runOn ∨ store'.Skipped t' runOn ∧ runOn ≤ store.today) : TemplateInv store' t' := by
  obtain ⟨cursors, ahead⟩ := computeNextRunOn_next occurs added computed
  refine ⟨?_, ?_, fun date member => ?_, fun active' date dateOccurs later => ?_⟩
  · rw [advanced, keeps.schedule]
    exact cursors
  · rw [keeps.fellDue, keeps.schedule, day]
    exact inv.due
  · obtain ⟨due, noInvoice, noSkip⟩ := RecurringStore.mem_outstanding.mp member
    rw [keeps.fellDue] at due
    have before : date ∈ store.outstanding t := RecurringStore.mem_outstanding.mpr
      ⟨due, fun invoiced => noInvoice (invoiced.mono more.invoices keeps.id keeps.schedule),
        fun skipped => noSkip (skipped.mono more.skipped keeps.id keeps.schedule)⟩
    have past : runOn < date := by
      rcases (inTurn date before).lt_or_eq with past | rfl
      · exact past
      · exact (recorded.elim noInvoice fun skipped => noSkip skipped.1).elim
    rw [advanced, keeps.endDate]
    exact ⟨(inv.settled date before).1, ahead date (inv.due date due).1 past⟩
  · rw [keeps.schedule] at dateOccurs
    rw [day] at later
    rw [advanced, keeps.endDate]
    rcases (future date dateOccurs later).lt_or_eq with past | rfl
    · exact .inr (ahead date dateOccurs past)
    · exact .inl (recorded.elim id fun skipped => absurd skipped.2 (not_le.mpr later))

/-- A due cursor is in turn: nothing outstanding or still to come lies before it. -/
theorem cursor_inTurn (inv : TemplateInv store t) (cursor : t.nextRunOn = some runOn) (due : runOn ≤ store.today) :
    (∀ date ∈ store.outstanding t, runOn ≤ date) ∧ ∀ date, t.schedule.Occurs date → store.today < date → runOn ≤ date := by
  refine ⟨fun date open' => ?_, fun date _ future => due.trans future.le⟩
  have ahead := (inv.settled date open').2
  rw [cursor] at ahead
  exact ahead

theorem advanceCursor_due (cursor : t.nextRunOn = some runOn) (found : t.advanceCursor runOn = some t') :
    ∃ next, t.cursorAfter runOn = some next ∧ t' = { t with nextRunOn := next } := by
  unfold RecurringTemplate.advanceCursor at found
  simp only [cursor, lt_irrefl, if_false] at found
  obtain ⟨next, computed, made⟩ := Option.bind_eq_some_iff.mp found
  exact ⟨next, computed, (Option.some.inj made).symm⟩

/-- After a generation the defensive advance changes nothing. -/
theorem advanceCursor_generated (computed : t.cursorAfter runOn = some t.nextRunOn) (found : t.advanceCursor runOn = some t') :
    t' = t := by
  unfold RecurringTemplate.advanceCursor at found
  split at found
  · exact (Option.some.inj found).symm
  next next cursor =>
  split at found
  · exact (Option.some.inj found).symm
  · obtain ⟨again, recomputed, made⟩ := Option.bind_eq_some_iff.mp found
    have same : t.nextRunOn = again := Option.some.inj (computed.symm.trans recomputed)
    rw [← Option.some.inj made, ← same]

theorem handleNonGeneratable_keeps (periodKey reason : String) :
    KeepsSchedule t (t.handleNonGeneratable periodKey reason).1 ∧ (t.handleNonGeneratable periodKey reason).1.nextRunOn = t.nextRunOn ∧
      (t.handleNonGeneratable periodKey reason).2.periodKey = periodKey := by
  unfold RecurringTemplate.handleNonGeneratable RecurringTemplate.recordGenerationSkip
  simp only
  split
  · exact ⟨⟨rfl, rfl, rfl, rfl⟩, rfl, trivial⟩
  · exact ⟨⟨rfl, rfl, rfl, rfl⟩, rfl, trivial⟩

/-- Clearing the marker first makes no difference to a generation. -/
theorem generateOne_cleared (generatable : t.notGeneratableReason = none) {invoices : List RecurringInvoice} {actor : Option UserId} :
    t.clearGenerationSkip.generateOne invoices runOn actor = t.generateOne invoices runOn actor := by
  have able : ¬t.notGeneratableReason.isSome = true := by
    rw [generatable]
    exact Bool.false_ne_true
  have able' : ¬t.clearGenerationSkip.notGeneratableReason.isSome = true := able
  unfold RecurringTemplate.generateOne
  rw [if_neg able, if_neg able']
  rfl

theorem KeepsSchedule.cursorAfter (keeps : KeepsSchedule t t') : t'.cursorAfter runOn = t.cursorAfter runOn := by
  rw [RecurringTemplate.cursorAfter, keeps.schedule, keeps.endDate, RecurringTemplate.cursorAfter]

/-- What a template's place in its schedule depends on. -/
theorem TemplateInv.sameCursor (inv : TemplateInv store t) (keeps : KeepsSchedule t t') (cursor : t'.nextRunOn = t.nextRunOn)
    (status : t'.status = t.status) : TemplateInv store t' := by
  refine ⟨?_, ?_, fun date member => ?_, fun active date occurs future => ?_⟩
  · rw [cursor, keeps.schedule]
    exact inv.cursor
  · rw [keeps.fellDue, keeps.schedule]
    exact inv.due
  · obtain ⟨due, noInvoice, noSkip⟩ := RecurringStore.mem_outstanding.mp member
    rw [keeps.fellDue] at due
    rw [cursor, keeps.endDate]
    refine inv.settled date (RecurringStore.mem_outstanding.mpr ⟨due, fun invoiced => noInvoice ?_, fun skipped => noSkip ?_⟩)
    · exact invoiced.mono (List.Subset.refl _) keeps.id keeps.schedule
    · exact skipped.mono (List.Subset.refl _) keeps.id keeps.schedule
  · rw [keeps.schedule] at occurs
    rw [status] at active
    rw [cursor, keeps.endDate]
    refine (inv.upcoming active date occurs future).imp_left fun invoiced => ?_
    exact invoiced.mono (List.Subset.refl _) keeps.id keeps.schedule

theorem clearIfResolved_keeps : KeepsSchedule t t.clearGenerationSkipIfResolved ∧
    t.clearGenerationSkipIfResolved.nextRunOn = t.nextRunOn ∧ t.clearGenerationSkipIfResolved.status = t.status := by
  unfold RecurringTemplate.clearGenerationSkipIfResolved
  split
  · exact ⟨⟨rfl, rfl, rfl, rfl⟩, rfl, rfl⟩
  · exact ⟨⟨rfl, rfl, rfl, rfl⟩, rfl, rfl⟩

theorem recordMaterialEditor_keeps (user : UserId) : KeepsSchedule t (t.recordMaterialEditor user) ∧
    (t.recordMaterialEditor user).nextRunOn = t.nextRunOn ∧ (t.recordMaterialEditor user).status = t.status := by
  unfold RecurringTemplate.recordMaterialEditor
  split
  · exact ⟨⟨rfl, rfl, rfl, rfl⟩, rfl, rfl⟩
  · exact ⟨⟨rfl, rfl, rfl, rfl⟩, rfl, rfl⟩

theorem KeepsSchedule.trans {t'' : RecurringTemplate} (one : KeepsSchedule t t') (other : KeepsSchedule t' t'') : KeepsSchedule t t'' :=
  ⟨other.id.trans one.id, other.schedule.trans one.schedule, other.endDate.trans one.endDate, other.fellDue.trans one.fellDue⟩

theorem closeUpdate_keeps (changed : List String) (user : UserId) : KeepsSchedule t (t.closeUpdate changed user) ∧
    (t.closeUpdate changed user).nextRunOn = t.nextRunOn ∧ (t.closeUpdate changed user).status = t.status := by
  have implicated (u : RecurringTemplate) (done : u = if changed.any (materialEditFields.contains ·) then t.recordMaterialEditor user else t) :
      KeepsSchedule t u ∧ u.nextRunOn = t.nextRunOn ∧ u.status = t.status := by
    rw [done]
    split
    · exact recordMaterialEditor_keeps user
    · exact ⟨⟨rfl, rfl, rfl, rfl⟩, rfl, rfl⟩
  obtain ⟨keeps, cursor, status⟩ := implicated _ rfl
  unfold RecurringTemplate.closeUpdate
  simp only
  split
  · exact ⟨keeps, cursor, status⟩
  · obtain ⟨keeps', cursor', status'⟩ := clearIfResolved_keeps
      (t := if changed.any (materialEditFields.contains ·) then t.recordMaterialEditor user else t)
    exact ⟨keeps.trans keeps', cursor'.trans cursor, status'.trans status⟩

theorem differs_getD {α : Type} [DecidableEq α] {sent : Option α} {stored : α} (same : sent.getD stored = stored) :
    differs sent stored = false := by
  cases sent with
  | none => rfl
  | some value =>
    have equal : value = stored := same
    rw [equal, differs, Option.any_some, decide_eq_false_iff_not]
    exact not_not.mpr rfl

/-- An edit that leaves the schedule does not compute the cursor again. -/
theorem reseeded_of_schedule {body : TemplateUpdate} (schedule : t.patchedSchedule body = t.schedule) (today : CalendarDate) :
    (t.patched body).reseeded (t.changedFields body) today = some (t.patched body) := by
  have cadence : differs body.cadence t.schedule.cadence = false := differs_getD (congrArg Schedule.cadence schedule)
  have startDate : differs body.startDate t.schedule.startDate = false := differs_getD (congrArg Schedule.startDate schedule)
  have day : differs (body.dayOfPeriod.map (·.1)) t.schedule.dayOfPeriod = false := by
    refine differs_getD ?_
    have same : (body.dayOfPeriod.getD ⟨t.schedule.dayOfPeriod, t.schedule.dayRange⟩).1 = t.schedule.dayOfPeriod :=
      congrArg Schedule.dayOfPeriod schedule
    cases sent : body.dayOfPeriod with
    | none => rfl
    | some day =>
      rw [sent] at same
      exact same
  unfold RecurringTemplate.reseeded
  refine if_neg fun reseeds => ?_
  have changed := reseeds.2
  rw [RecurringTemplate.changedFields, List.any_map, List.any_filter] at changed
  have dayChanged : differs (body.dayOfPeriod.map (·.1)) t.schedule.dayOfPeriod = true := by
    simpa [cadence, startDate] using changed
  exact Bool.false_ne_true (day.symm.trans dayChanged)

theorem le_endOfTime (date : CalendarDate) : date ≤ endOfTime := by
  have year := date.yearRange
  have month := date.monthRange
  have days := date.dayRange
  have most : daysInMonth date.year date.month ≤ 31 := by
    unfold daysInMonth
    split
    · split <;> omega
    · split <;> omega
  refine CalendarDate.le_iff.mpr ?_
  simp only [CalendarDate.months, endOfTime]
  omega

theorem TemplateInv.patched (inv : TemplateInv store t) {body : TemplateUpdate} (schedule : t.patchedSchedule body = t.schedule)
    (fits : ∀ endDate ∈ body.endDate, EndDateFits store t endDate) : TemplateInv store (t.patched body) := by
  have sameSchedule : (t.patched body).schedule = t.schedule := schedule
  cases sent : body.endDate with
  | none =>
    have sameEnd : (t.patched body).endDate = t.endDate := by rw [RecurringTemplate.patched, sent, Option.getD_none]
    exact inv.sameCursor ⟨rfl, sameSchedule, sameEnd, rfl⟩ rfl rfl
  | some endDate =>
    have newEnd : (t.patched body).endDate = endDate := by rw [RecurringTemplate.patched, sent, Option.getD_some]
    obtain ⟨keeps, closed⟩ := fits endDate sent
    refine ⟨?_, ?_, fun date member => ?_, fun active date occurs future => ?_⟩
    · rw [sameSchedule]
      exact inv.cursor
    · rw [sameSchedule]
      exact inv.due
    · obtain ⟨due, noInvoice, noSkip⟩ := RecurringStore.mem_outstanding.mp member
      have before : date ∈ store.outstanding t := RecurringStore.mem_outstanding.mpr
        ⟨due, fun invoiced => noInvoice (invoiced.mono (List.Subset.refl _) rfl sameSchedule),
          fun skipped => noSkip (skipped.mono (List.Subset.refl _) rfl sameSchedule)⟩
      obtain ⟨inForce, ahead⟩ := inv.settled date before
      rw [newEnd]
      refine ⟨keeps date before, ?_⟩
      show Ahead t.nextRunOn endDate date
      cases cursor : t.nextRunOn with
      | none =>
        rw [cursor] at ahead
        exact absurd inForce ahead
      | some next =>
        rw [cursor] at ahead
        exact ahead
    · rw [sameSchedule] at occurs
      rw [newEnd]
      show store.Invoiced (t.patched body) date ∨ Ahead t.nextRunOn endDate date
      cases cursor : t.nextRunOn with
      | none =>
        by_cases inForce : InForce endDate date
        · refine .inl ((closed active cursor date (Schedule.mem_occurrencesUpTo.mpr ⟨occurs, ?_⟩) future).mono
            (List.Subset.refl _) rfl sameSchedule)
          cases endDate with
          | none => exact le_endOfTime date
          | some last => exact inForce last rfl
        · exact .inr inForce
      | some next =>
        have ahead := inv.upcoming active date occurs future
        rw [cursor] at ahead
        exact ahead.imp_left fun invoiced => invoiced.mono (List.Subset.refl _) rfl sameSchedule

theorem arrive_keeps (before today : CalendarDate) : (t.arrive before today).id = t.id ∧ (t.arrive before today).schedule = t.schedule ∧
    (t.arrive before today).endDate = t.endDate ∧ (t.arrive before today).nextRunOn = t.nextRunOn ∧
    (t.arrive before today).status = t.status := by
  unfold RecurringTemplate.arrive
  split
  · exact ⟨rfl, rfl, rfl, rfl, rfl⟩
  · exact ⟨rfl, rfl, rfl, rfl, rfl⟩

theorem mem_fellDue_arrive {before today : CalendarDate} (due : date ∈ (t.arrive before today).fellDue) : date ∈ t.fellDue ∨
    t.status = .active ∧ t.schedule.Occurs date ∧ date ≤ today ∧ before < date ∧ InForce t.endDate date := by
  unfold RecurringTemplate.arrive at due
  split at due
  · next able =>
    rcases List.mem_append.mp due with old | new
    · exact .inl old
    · obtain ⟨listed, kept⟩ := List.mem_filter.mp new
      obtain ⟨occurs, within⟩ := Schedule.mem_occurrencesUpTo.mp listed
      have between := of_decide_eq_true kept
      exact .inr ⟨able.1, occurs, within, between⟩
  · exact .inl due

/-- What falls due was still to come before. -/
theorem TemplateInv.arrive (inv : TemplateInv store t) {today : CalendarDate} (later : store.today ≤ today) :
    TemplateInv (store.arrive today) (t.arrive store.today today) := by
  obtain ⟨id, schedule, endDate, cursor, status⟩ := arrive_keeps (t := t) store.today today
  refine ⟨?_, fun date member => ?_, fun date member => ?_, fun active date occurs future => ?_⟩
  · rw [cursor, schedule]
    exact inv.cursor
  · rw [schedule]
    rcases mem_fellDue_arrive member with old | ⟨_, occurs, within, _⟩
    · exact ⟨(inv.due date old).1, (inv.due date old).2.trans later⟩
    · exact ⟨occurs, within⟩
  · obtain ⟨due, noInvoice, noSkip⟩ := RecurringStore.mem_outstanding.mp member
    have noInvoice' : ¬store.Invoiced t date := fun invoiced => noInvoice (invoiced.mono (List.Subset.refl _) id schedule)
    have noSkip' : ¬store.Skipped t date := fun skipped => noSkip (skipped.mono (List.Subset.refl _) id schedule)
    rw [endDate, cursor]
    rcases mem_fellDue_arrive due with old | ⟨active, occurs, _, after, inForce⟩
    · exact inv.settled date (RecurringStore.mem_outstanding.mpr ⟨old, noInvoice', noSkip'⟩)
    · exact ⟨inForce, (inv.upcoming active date occurs after).resolve_left noInvoice'⟩
  · rw [schedule] at occurs
    rw [status] at active
    rw [endDate, cursor]
    refine (inv.upcoming active date occurs (later.trans_lt future)).imp_left fun invoiced => ?_
    exact invoiced.mono (List.Subset.refl _) id schedule

/-- An invoice of a template: for an occurrence of it, under its period, and within the end date it had. -/
def InvoiceOf (invoice : RecurringInvoice) (t : RecurringTemplate) : Prop :=
  t.id = invoice.template ∧ t.schedule.Occurs invoice.invoiceDate ∧
    invoice.periodKey = periodKeyFor t.schedule.cadence invoice.invoiceDate ∧ InForce invoice.endDateInForce invoice.invoiceDate

structure RecurringInv (store : RecurringStore) : Prop where
  ids : store.templates.map (·.id) = List.range store.templates.length
  once : (store.invoices.map fun invoice => (invoice.template, invoice.periodKey)).Nodup
  invoices : ∀ invoice ∈ store.invoices, ∃ t ∈ store.templates, InvoiceOf invoice t
  templates : ∀ t ∈ store.templates, TemplateInv store t

namespace RecurringInv

theorem keys (inv : RecurringInv store) : (store.templates.map (·.id)).Nodup := by
  rw [inv.ids]
  exact List.nodup_range

theorem exactSchedules (inv : RecurringInv store) : ExactSchedules store where
  once := inv.once
  within := by
    intro invoice listed t member same
    obtain ⟨owner, ownerMember, ownerSame, occurs, _, inForce⟩ := inv.invoices invoice listed
    have theOwner : owner = t := List.inj_on_of_nodup_map inv.keys ownerMember member (ownerSame.trans same.symm)
    rw [← theOwner]
    exact ⟨occurs.1, inForce⟩
  complete := by
    intro t member date due
    by_cases open' : date ∈ store.outstanding t
    · obtain ⟨inForce, ahead⟩ := (inv.templates t member).settled date open'
      refine .inr (.inr ?_)
      cases cursor : t.nextRunOn with
      | none =>
        rw [cursor] at ahead
        exact absurd inForce ahead
      | some next =>
        rw [cursor] at ahead
        exact ⟨next, rfl, ahead⟩
    · by_contra none'
      simp only [not_or] at none'
      exact open' (RecurringStore.mem_outstanding.mpr ⟨due, none'.1, none'.2.1⟩)

/-- One template written back, with the invoices and skips that go with it. -/
theorem commit (inv : RecurringInv store) (member : t ∈ store.templates) (written : store'.templates = (store.write t').templates)
    (id : t'.id = t.id) (schedule : t'.schedule = t.schedule) (more : MoreRecords store store') (day : store'.today = store.today)
    (once : (store'.invoices.map fun invoice => (invoice.template, invoice.periodKey)).Nodup)
    (fresh : ∀ invoice ∈ store'.invoices, invoice ∈ store.invoices ∨ InvoiceOf invoice t') (after : TemplateInv store' t') :
    RecurringInv store' := by
  have self : t' ∈ store'.templates := by
    rw [written]
    exact mem_putRow_self member id.symm
  refine ⟨?_, once, fun invoice listed => ?_, fun other otherMember => ?_⟩
  · rw [written]
    refine map_ident_putRow.trans (inv.ids.trans ?_)
    rw [RecurringStore.write, putRow, List.length_map]
  · rcases fresh invoice listed with old | new
    · obtain ⟨owner, ownerMember, same, occurs, period, inForce⟩ := inv.invoices invoice old
      by_cases own : owner.id = t'.id
      · have theOwner : owner = t := List.inj_on_of_nodup_map inv.keys ownerMember member (own.trans id)
        rw [theOwner] at same occurs period
        exact ⟨t', self, id.trans same, by rw [schedule]; exact occurs, by rw [schedule]; exact period, inForce⟩
      · refine ⟨owner, ?_, same, occurs, period, inForce⟩
        rw [written]
        exact mem_putRow_of_ne ownerMember own
    · exact ⟨t', self, new⟩
  · rw [written] at otherMember
    rcases mem_putRow otherMember with rfl | ⟨old, _⟩
    · exact after
    · exact (inv.templates other old).mono more day

theorem template?_mem {id : TemplateId} (found : store.template? id = some t) : t ∈ store.templates := (getRow_some found).1

/-- A template that already has an invoice of the period has one for the occurrence. -/
theorem invoiced_of_generated (inv : RecurringInv store) (member : t ∈ store.templates) (occurs : t.schedule.Occurs date)
    (generated : t.generated store.invoices (periodKeyFor t.schedule.cadence date) = true) : store.Invoiced t date := by
  obtain ⟨invoice, listed, matched⟩ := List.any_eq_true.mp generated
  obtain ⟨same, period⟩ := Bool.and_eq_true_iff.mp matched
  have template := beq_iff_eq.mp same
  have key := beq_iff_eq.mp period
  obtain ⟨owner, ownerMember, ownerSame, ownerOccurs, ownerPeriod, _⟩ := inv.invoices invoice listed
  have theOwner : owner = t := List.inj_on_of_nodup_map inv.keys ownerMember member (ownerSame.trans template)
  rw [theOwner] at ownerOccurs ownerPeriod
  exact ⟨invoice, listed, template, key, periodKeyFor_inj ownerOccurs occurs (ownerPeriod.symm.trans key)⟩

/-- `generate_one` raises one invoice and advances the cursor past it. -/
theorem generate (inv : RecurringInv store) (member : t ∈ store.templates) (generatable : t.notGeneratableReason = none)
    (vacant : t.generated store.invoices (periodKeyFor t.schedule.cadence runOn) = false) (occurs : t.schedule.Occurs runOn)
    (inForce : InForce t.endDate runOn) (inTurn : ∀ date ∈ store.outstanding t, runOn ≤ date)
    (future : ∀ date, t.schedule.Occurs date → store.today < date → runOn ≤ date) {actor : Option UserId}
    {result : RecurringTemplate × List RecurringInvoice} (found : t.generateOne store.invoices runOn actor = some result) :
    RecurringInv { store.write result.1 with invoices := result.2 } ∧ t.cursorAfter runOn = some result.1.nextRunOn ∧
      KeepsSchedule t result.1 := by
  unfold RecurringTemplate.generateOne at found
  rw [if_neg (by rw [generatable]; exact Bool.false_ne_true)] at found
  simp only [vacant, Bool.false_eq_true, if_false] at found
  obtain ⟨next, advanced, made⟩ := Option.bind_eq_some_iff.mp found
  cases made
  obtain ⟨anchor, added, computed⟩ := Option.bind_eq_some_iff.mp advanced
  have keeps : KeepsSchedule t { t.clearGenerationSkip with
      generatedCount := t.generatedCount + 1, lastPeriodKey := some (periodKeyFor t.schedule.cadence runOn), nextRunOn := next } :=
    ⟨rfl, rfl, rfl, rfl⟩
  refine ⟨?_, advanced, keeps⟩
  have more : MoreRecords store { store.write { t.clearGenerationSkip with
      generatedCount := t.generatedCount + 1, lastPeriodKey := some (periodKeyFor t.schedule.cadence runOn), nextRunOn := next } with
      invoices := store.invoices ++ [t.newInvoice runOn actor] } :=
    ⟨List.subset_append_left _ _, List.Subset.refl _⟩
  refine inv.commit member rfl rfl rfl more rfl ?_ (fun invoice listed => ?_) ?_
  · rw [List.map_append]
    refine List.Nodup.append inv.once (List.nodup_singleton _) fun key old new => ?_
    obtain ⟨invoice, listed, rfl⟩ := List.mem_map.mp old
    have same := List.mem_singleton.mp new
    simp only [RecurringTemplate.newInvoice, Prod.mk.injEq] at same
    have present : t.generated store.invoices (periodKeyFor t.schedule.cadence runOn) = true :=
      List.any_eq_true.mpr ⟨invoice, listed, by rw [same.1, same.2, beq_self_eq_true, beq_self_eq_true, Bool.and_self]⟩
    exact Bool.false_ne_true (vacant.symm.trans present)
  · refine (List.mem_append.mp listed).imp_right fun new => ?_
    rw [List.mem_singleton.mp new]
    exact ⟨rfl, occurs, rfl, inForce⟩
  · refine (inv.templates t member).advance more rfl keeps occurs added computed rfl inTurn future (.inl ?_)
    exact ⟨t.newInvoice runOn actor, List.mem_append_right _ (List.mem_singleton_self _), rfl, rfl, rfl⟩

/-- The sweep on one due template. -/
theorem sweepDue (inv : RecurringInv store) (member : t ∈ store.templates) (cursor : t.nextRunOn = some runOn)
    (due : runOn ≤ store.today)
    (inForce : t.notGeneratableReason = none → t.generated store.invoices (periodKeyFor t.schedule.cadence runOn) = false →
      InForce t.endDate runOn) (found : store.sweepDue t runOn = some store') : RecurringInv store' := by
  have tInv := inv.templates t member
  have occurs := tInv.cursor runOn cursor
  obtain ⟨inTurn, future⟩ := cursor_inTurn tInv cursor due
  unfold RecurringStore.sweepDue at found
  simp only at found
  split at found
  · next reason _ =>
    obtain ⟨advanced, moved, made⟩ := Option.bind_eq_some_iff.mp found
    cases made
    obtain ⟨keeps, sameCursor, period⟩ :=
      handleNonGeneratable_keeps (t := t) (periodKeyFor t.schedule.cadence runOn) reason
    obtain ⟨next, computed, rfl⟩ := advanceCursor_due (sameCursor.trans cursor) moved
    rw [keeps.cursorAfter] at computed
    obtain ⟨anchor, added, computed⟩ := Option.bind_eq_some_iff.mp computed
    refine inv.commit member rfl keeps.id keeps.schedule ⟨List.Subset.refl _, List.subset_append_left _ _⟩ rfl inv.once
      (fun invoice listed => .inl listed) ?_
    refine tInv.advance ⟨List.Subset.refl _, List.subset_append_left _ _⟩ rfl ⟨keeps.id, keeps.schedule, keeps.endDate, keeps.fellDue⟩
      occurs added computed rfl inTurn future (.inr ⟨?_, due⟩)
    refine ⟨⟨t.id, _⟩, List.mem_append_right _ (List.mem_singleton_self _), keeps.id.symm, ?_⟩
    rw [keeps.schedule]
    exact period
  · next generatable =>
    split at found
    · next generated =>
      obtain ⟨advanced, moved, made⟩ := Option.bind_eq_some_iff.mp found
      cases made
      obtain ⟨next, computed, rfl⟩ := advanceCursor_due (t := t.clearGenerationSkip) cursor moved
      obtain ⟨anchor, added, computed⟩ := Option.bind_eq_some_iff.mp computed
      have invoiced := inv.invoiced_of_generated member occurs generated
      refine inv.commit member rfl rfl rfl ⟨List.Subset.refl _, List.Subset.refl _⟩ rfl inv.once (fun invoice listed => .inl listed) ?_
      exact tInv.advance ⟨List.Subset.refl _, List.Subset.refl _⟩ rfl ⟨rfl, rfl, rfl, rfl⟩ occurs added computed rfl inTurn future
        (.inl (invoiced.mono (List.Subset.refl _) rfl rfl))
    · next vacant =>
      obtain ⟨result, raised, found⟩ := Option.bind_eq_some_iff.mp found
      obtain ⟨advanced, moved, made⟩ := Option.bind_eq_some_iff.mp found
      cases made
      have vacant' : t.generated store.invoices (periodKeyFor t.schedule.cadence runOn) = false := eq_false_of_ne_true vacant
      rw [generateOne_cleared generatable] at raised
      obtain ⟨after, computed, keeps⟩ := inv.generate member generatable vacant' occurs (inForce generatable vacant') inTurn future raised
      rw [← keeps.cursorAfter] at computed
      rw [advanceCursor_generated computed moved]
      exact after

theorem sweepTemplate (inv : RecurringInv store) {id : TemplateId} (inForce : SweepInForce store id) :
    RecurringInv (store.sweepTemplate id) := by
  unfold RecurringStore.sweepTemplate
  split
  · exact inv
  next t found =>
  split
  · exact inv
  next due =>
  split
  · exact inv
  next runOn cursor =>
  have due' : t.stillDue store.today = true := by simpa only [Bool.not_eq_true', Bool.not_eq_false] using due
  have reached := (Bool.and_eq_true_iff.mp due').2
  rw [cursor] at reached
  cases swept : store.sweepDue t runOn with
  | none => exact inv
  | some after =>
    refine inv.sweepDue (template?_mem found) cursor (of_decide_eq_true reached) (fun generatable vacant => ?_) swept
    exact inForce t found due' generatable runOn cursor vacant

theorem generateNow (inv : RecurringInv store) {id : TemplateId} {user : UserId} (inTurn : GenerateInTurn store id) :
    RecurringInv (store.generateNow id user) := by
  unfold RecurringStore.generateNow
  split
  · exact inv
  next t found =>
  have member := template?_mem found
  split
  · exact inv
  next able =>
  split
  · exact inv
  next runOn target =>
  obtain ⟨occurs, _, future⟩ := currentDueRunOn_eq_some target
  have generatable : t.notGeneratableReason = none := by simpa using (not_or.mp able).2
  unfold RecurringStore.generatePeriod
  split
  · have cleared : TemplateInv store t.clearGenerationSkip := (inv.templates t member).sameCursor ⟨rfl, rfl, rfl, rfl⟩ rfl rfl
    exact inv.commit member rfl rfl rfl ⟨List.Subset.refl _, List.Subset.refl _⟩ rfl inv.once (fun invoice listed => .inl listed)
      (cleared.mono ⟨List.Subset.refl _, List.Subset.refl _⟩ rfl)
  next vacant =>
  have vacant' := eq_false_of_ne_true vacant
  obtain ⟨inForce, before⟩ := inTurn t found generatable runOn target vacant'
  cases raised : t.generateOne store.invoices runOn (some user) with
  | none => exact inv
  | some result => exact (inv.generate member generatable vacant' occurs inForce before future raised).1

/-- An endpoint that writes one template, and keeps its identity and its schedule. -/
theorem edit (inv : RecurringInv store) {id : TemplateId} {change : RecurringTemplate → Option RecurringTemplate}
    (keeps : ∀ t t', store.template? id = some t → change t = some t' → t'.id = t.id ∧ t'.schedule = t.schedule ∧ TemplateInv store t') :
    RecurringInv (store.edit id change) := by
  unfold RecurringStore.edit
  split
  · exact inv
  next t found =>
  cases changed : change t with
  | none => exact inv
  | some t' =>
    obtain ⟨same, schedule, after⟩ := keeps t t' found changed
    exact inv.commit (template?_mem found) rfl same schedule ⟨List.Subset.refl _, List.Subset.refl _⟩ rfl inv.once
      (fun invoice listed => .inl listed) (after.mono ⟨List.Subset.refl _, List.Subset.refl _⟩ rfl)

theorem pause (inv : RecurringInv store) (id : TemplateId) : RecurringInv (store.edit id fun t => some t.pause) := by
  refine inv.edit fun t t' found changed => ?_
  cases changed
  have before := inv.templates t (template?_mem found)
  unfold RecurringTemplate.pause
  split
  · exact ⟨rfl, rfl, before.cursor, before.due, before.settled, TemplateStatus.noConfusion⟩
  · exact ⟨rfl, rfl, before⟩

theorem resume (inv : RecurringInv store) {id : TemplateId} (caughtUp : ResumeCaughtUp store id) :
    RecurringInv (store.edit id fun t => t.resume store.today) := by
  refine inv.edit fun t t' found changed => ?_
  have before := inv.templates t (template?_mem found)
  unfold RecurringTemplate.resume at changed
  split at changed
  · cases changed
    exact ⟨rfl, rfl, before⟩
  next paused =>
  obtain ⟨seeded, seeds, made⟩ := Option.bind_eq_some_iff.mp changed
  obtain ⟨next, computed, again⟩ := Option.bind_eq_some_iff.mp seeds
  cases again
  cases made
  obtain ⟨cursors, ahead⟩ := computeNextRunOn_eq_some computed
  have current := caughtUp t found (not_not.mp paused)
  have after : TemplateInv store { t with status := .active, nextRunOn := next } := by
    refine ⟨fun cursor same => (cursors cursor same).1, before.due, fun date open' => ?_, fun _ date occurs future => .inr ?_⟩
    · have occurs := (before.due date (RecurringStore.mem_outstanding.mp open').1).1
      exact ⟨(before.settled date open').1, ahead date occurs (max_le (current date open') occurs.1)⟩
    · exact ahead date occurs (max_le future.le occurs.1)
  obtain ⟨keeps, cursor, status⟩ := clearIfResolved_keeps (t := { t with status := .active, nextRunOn := next })
  exact ⟨keeps.id, keeps.schedule, after.sameCursor keeps cursor status⟩

theorem update (inv : RecurringInv store) {id : TemplateId} {body : TemplateUpdate} {user : UserId} (fits : UpdateFits store id body) :
    RecurringInv (store.edit id fun t => t.update body user store.today) := by
  refine inv.edit fun t t' found changed => ?_
  have before := inv.templates t (template?_mem found)
  obtain ⟨schedule, endDate⟩ := fits t found
  obtain ⟨seeded, reseeded, made⟩ := Option.bind_eq_some_iff.mp changed
  cases made
  rw [reseeded_of_schedule schedule] at reseeded
  cases reseeded
  obtain ⟨keeps, cursor, status⟩ := closeUpdate_keeps (t := t.patched body) (t.changedFields body) user
  exact ⟨keeps.id, keeps.schedule.trans schedule, (before.patched schedule endDate).sameCursor keeps cursor status⟩

theorem arrive (inv : RecurringInv store) {today : CalendarDate} (later : store.today ≤ today) : RecurringInv (store.arrive today) := by
  have ids : (store.arrive today).templates.map (·.id) = store.templates.map (·.id) := by
    rw [RecurringStore.arrive, List.map_map]
    exact List.map_congr_left fun t _ => (arrive_keeps store.today today).1
  refine ⟨?_, inv.once, fun invoice listed => ?_, fun t' member' => ?_⟩
  · rw [ids, inv.ids, RecurringStore.arrive, List.length_map]
  · obtain ⟨t, member, same, occurs, period, inForce⟩ := inv.invoices invoice listed
    obtain ⟨id, schedule, _⟩ := arrive_keeps (t := t) store.today today
    refine ⟨t.arrive store.today today, List.mem_map_of_mem member, id.trans same, ?_, ?_, inForce⟩
    · rw [schedule]
      exact occurs
    · rw [schedule]
      exact period
  · obtain ⟨t, member, rfl⟩ := List.mem_map.mp member'
    exact (inv.templates t member).arrive later

theorem create (inv : RecurringInv store) {body : TemplateCreate} {user : UserId} (created : store.create body user = some store') :
    RecurringInv store' := by
  obtain ⟨next, computed, made⟩ := Option.bind_eq_some_iff.mp created
  obtain ⟨cursors, ahead⟩ := computeNextRunOn_eq_some computed
  cases made
  refine ⟨?_, inv.once, fun invoice listed => ?_, fun t member => ?_⟩
  · rw [List.map_append, inv.ids, List.length_append, List.length_singleton, List.range_succ]
    rfl
  · obtain ⟨t, member, ofIt⟩ := inv.invoices invoice listed
    exact ⟨t, List.mem_append_left _ member, ofIt⟩
  rcases List.mem_append.mp member with old | new
  · exact (inv.templates t old).mono ⟨List.Subset.refl _, List.Subset.refl _⟩ rfl
  · rw [List.mem_singleton.mp new]
    refine ⟨fun cursor same => (cursors cursor same).1, fun date due => ?_, fun date open' => ?_, fun _ date occurs _ => .inr ?_⟩
    · simp only at due
      split at due
      · exact Schedule.mem_occurrencesUpTo.mp (List.mem_filter.mp due).1
      · cases due
    · have due := (RecurringStore.mem_outstanding.mp open').1
      simp only at due
      split at due
      · obtain ⟨listed, inForce⟩ := List.mem_filter.mp due
        have occurs := (Schedule.mem_occurrencesUpTo.mp listed).1
        exact ⟨of_decide_eq_true inForce, ahead date occurs occurs.1⟩
      · cases due
    · exact ahead date occurs occurs.1

theorem step (inv : RecurringInv store) {label : RecurringLabel} (inTurn : InTurn store label) :
    RecurringInv (runRecurringLabel store label) := by
  unfold runRecurringLabel
  split
  · exact inv
  next later =>
  have come := inv.arrive (not_lt.mp later)
  unfold InTurn at inTurn
  cases op : label.op with
  | create body user =>
    cases created : (store.arrive label.today).create body user with
    | none =>
      rw [RecurringStore.run, created]
      exact come
    | some after =>
      rw [RecurringStore.run, created]
      exact come.create created
  | sweepTemplate id =>
    rw [op] at inTurn
    exact come.sweepTemplate inTurn
  | generateNow id user =>
    rw [op] at inTurn
    exact come.generateNow inTurn
  | update id body user =>
    rw [op] at inTurn
    exact come.update inTurn
  | pause id => exact come.pause id
  | resume id =>
    rw [op] at inTurn
    exact come.resume inTurn

end RecurringInv

end

/-- The recurring schedules are exact and complete in every run in which no call raises an invoice past the end date in
force or jumps over an outstanding occurrence, and edits of the end date keep to what the cursor says. -/
theorem exact_schedules (store : RecurringStore) (reach : recurringMachine.Reach InTurn store) : ExactSchedules store := by
  have start : ∀ first, recurringMachine.init first → RecurringInv first := by
    rintro first ⟨noTemplates, noInvoices, _⟩
    refine ⟨?_, ?_, ?_, ?_⟩
    · rw [noTemplates]
      rfl
    · rw [noInvoices]
      exact List.nodup_nil
    · rw [noInvoices]
      exact fun invoice listed => absurd listed List.not_mem_nil
    · rw [noTemplates]
      exact fun t member => absurd member List.not_mem_nil
  have step : ∀ before label, RecurringInv before → InTurn before label → RecurringInv (recurringMachine.step before label) :=
    fun _ _ inv inTurn => inv.step inTurn
  exact (reach.invariant start step).exactSchedules

/-- A monthly rent from the first of January on, to the end of a month. -/
def monthlyRent (last : CalendarDate) : RecurringOp :=
  .create ⟨"Rent", none, none, ⟨some 1, some "Acme Towers", none, some 1200, "USD", none, none, none, none, none, none⟩,
    ⟨.monthly, 1, (CalendarDate.of? 2026 1 1).get (by decide), by decide⟩, some last⟩ "u1"

/-- A store without templates, on the first of January. -/
def newYear : RecurringStore := ⟨[], [], [], (CalendarDate.of? 2026 1 1).get (by decide)⟩

theorem exact_schedules_year : ExactSchedules (recurringMachine.exec newYear
    [⟨newYear.today, monthlyRent ⟨2026, 6, 30, by decide, by decide, by decide⟩⟩, ⟨newYear.today, .sweepTemplate 0⟩,
      ⟨⟨2026, 2, 10, by decide, by decide, by decide⟩, .generateNow 0 "u2"⟩,
      ⟨⟨2026, 3, 10, by decide, by decide, by decide⟩, .update 0 { endDate := some none } "u2"⟩,
      ⟨⟨2026, 3, 10, by decide, by decide, by decide⟩, .sweepTemplate 0⟩,
      ⟨⟨2026, 3, 10, by decide, by decide, by decide⟩, .pause 0⟩,
      ⟨⟨2026, 5, 20, by decide, by decide, by decide⟩, .resume 0⟩,
      ⟨⟨2026, 6, 1, by decide, by decide, by decide⟩, .sweepTemplate 0⟩]) := by
  refine exact_schedules _ (Machine.Reach.exec (.start ?_) ?_)
  · exact ⟨rfl, rfl, rfl⟩
  · decide

/-- In May a template of January to March, not swept so far, is generated by hand: the invoice is for May, and the
three months before the end date are never made up for. -/
theorem generated_out_of_turn : ¬ExactSchedules (recurringMachine.exec newYear
    [⟨newYear.today, monthlyRent ⟨2026, 3, 31, by decide, by decide, by decide⟩⟩,
      ⟨⟨2026, 5, 10, by decide, by decide, by decide⟩, .generateNow 0 "u2"⟩]) := by
  intro held
  have complete := held.complete
  revert complete
  decide

end Payables
