import Mathlib.Data.List.Nodup
import Payables.Tax.CountedOnce
import Payables.Tax.Filing

namespace Payables.Tax
open Lib

/-- A row that was inserted for a call. -/
structure Filing.For (filing : Filing) (call : FilingCall) : Prop where
  slot : filing.slot = call.slot
  taxYear : filing.taxYear = call.request.year
  formType : filing.formType = call.formType

/-- A row that a submission stands behind. -/
structure Submission.Behind (submission : Submission) (filing : Filing) : Prop where
  slot : submission.slot = filing.slot
  taxYear : submission.request.year = filing.taxYear
  formType : submission.formType = filing.formType

/-- One uncommitted row a slot, none where there is a committed one, and a successful submission behind each
committed row. -/
structure FilingInv (store : FilingStore) : Prop where
  claimSlots : (store.claims.map (·.2)).Nodup
  free : ∀ claim ∈ store.claims, ∀ filing ∈ store.filings, filing.slot ≠ claim.2
  held : ∀ number call filing, store.calls number = some call → call.row? = some filing →
    (number, call.slot) ∈ store.claims ∧ filing.For call
  forms : ∀ number call, store.calls number = some call → FormType.ofText? call.request.formType = some call.formType
  submissionSlots : (store.submissions.map (·.slot)).Nodup
  submissionForms : ∀ submission ∈ store.submissions,
    FormType.ofText? submission.request.formType = some submission.formType
  submitted : ∀ submission ∈ store.submissions, (∃ filing ∈ store.filings, filing.slot = submission.slot) ∨
    ∃ number call filing, store.calls number = some call ∧ call.stage = .submitted filing ∧ call.slot = submission.slot
  inFlight : ∀ number call filing, store.calls number = some call → call.stage = .submitted filing →
    ∃ submission ∈ store.submissions, submission.Behind filing
  rows : ∀ filing ∈ store.filings, ∃ submission ∈ store.submissions, submission.Behind filing
  answers : ∀ answer ∈ store.answers, answer.alreadyFiled = true →
    answer.filing ∈ store.filings ∧ answer.filing.slot = (answer.organizationId, answer.request.key answer.organizationId) ∧
      FormType.ofText? answer.request.formType = some answer.formType

section Steps

variable {store : FilingStore} {number : Nat} {call : FilingCall}

theorem filing?_eq_some {slot : String × String} {filing : Filing} (found : store.filing? slot = some filing) :
    filing ∈ store.filings ∧ filing.slot = slot := by
  have matched := List.find?_some found
  exact ⟨List.mem_of_find?_eq_some found, by simpa only [decide_eq_true_eq] using matched⟩

theorem filing?_eq_none {slot : String × String} (absent : store.filing? slot = none) :
    ∀ filing ∈ store.filings, filing.slot ≠ slot := by
  intro filing member same
  exact absurd (decide_eq_true same) (List.find?_eq_none.mp absent filing member)

/-- Two calls do not hold one slot. -/
theorem FilingInv.apart (inv : FilingInv store) {other : Nat} {call' : FilingCall} {filing filing' : Filing}
    (atNumber : store.calls number = some call) (row : call.row? = some filing) (atOther : store.calls other = some call')
    (row' : call'.row? = some filing') (same : call'.slot = call.slot) : other = number := by
  have mine := (inv.held number call filing atNumber row).1
  have theirs := (inv.held other call' filing' atOther row').1
  have equal := List.inj_on_of_nodup_map inv.claimSlots theirs mine same
  exact congrArg Prod.fst equal

theorem row?_submitted {filing : Filing} (stage : call.stage = .submitted filing) : call.row? = some filing := by
  rw [FilingCall.row?, stage]

theorem row?_claimed {filing : Filing} (stage : call.stage = .claimed filing) : call.row? = some filing := by
  rw [FilingCall.row?, stage]

theorem FilingInv.answer (inv : FilingInv store) {organizationId : String} {request : FileBatchRequest} {formType : FormType}
    {filing : Filing} {alreadyFiled : Bool}
    (listed : alreadyFiled = true → filing ∈ store.filings ∧ filing.slot = (organizationId, request.key organizationId) ∧
      FormType.ofText? request.formType = some formType) :
    FilingInv (store.answer organizationId request formType filing alreadyFiled) :=
  { inv with
    answers := by
      intro answer member filed
      rcases List.mem_append.mp member with earlier | last
      · exact inv.answers answer earlier filed
      · cases List.mem_singleton.mp last
        exact listed filed }

/-- The end of a call that has submitted nothing. -/
theorem FilingInv.finish (inv : FilingInv store) (atNumber : store.calls number = some call)
    (unsubmitted : ∀ filing, call.stage ≠ .submitted filing) : FilingInv (store.finish number) where
  claimSlots := List.Nodup.sublist (List.filter_sublist.map _) inv.claimSlots
  free claim member := inv.free claim (List.mem_of_mem_filter member)
  held := by
    intro other call' filing atOther row
    rcases update_eq_some.mp atOther with ⟨_, none⟩ | ⟨apart, atOther⟩
    · cases none
    · obtain ⟨claimed, made⟩ := inv.held other call' filing atOther row
      exact ⟨List.mem_filter.mpr ⟨claimed, by simpa using apart⟩, made⟩
  forms := by
    intro other call' atOther
    rcases update_eq_some.mp atOther with ⟨_, none⟩ | ⟨_, atOther⟩
    · cases none
    · exact inv.forms other call' atOther
  submissionSlots := inv.submissionSlots
  submissionForms := inv.submissionForms
  submitted := by
    intro submission member
    rcases inv.submitted submission member with row | ⟨other, call', filing, atOther, stage, slot⟩
    · exact Or.inl row
    · refine Or.inr ⟨other, call', filing, update_eq_some.mpr (Or.inr ⟨?_, atOther⟩), stage, slot⟩
      rintro rfl
      rw [atNumber] at atOther
      cases atOther
      exact unsubmitted filing stage
  inFlight := by
    intro other call' filing atOther stage
    rcases update_eq_some.mp atOther with ⟨_, none⟩ | ⟨_, atOther⟩
    · cases none
    · exact inv.inFlight other call' filing atOther stage
  rows := inv.rows
  answers := inv.answers

theorem FilingInv.arrive (inv : FilingInv store) (fresh : store.calls number = none) (organizationId : String) (userId : UserId)
    (request : FileBatchRequest) (adapter : Option String) :
    FilingInv (store.arrive number organizationId userId request adapter) := by
  unfold FilingStore.arrive
  split
  · exact inv
  next formType form =>
  split
  · next prior found =>
    obtain ⟨listed, slot⟩ := filing?_eq_some found
    exact inv.answer fun _ => ⟨listed, slot, form⟩
  split
  · exact inv
  next provider =>
  refine { inv with held := ?_, forms := ?_, submitted := ?_, inFlight := ?_ }
  · intro other call' filing atOther row
    rcases update_eq_some.mp atOther with ⟨_, arrived⟩ | ⟨_, atOther⟩
    · cases arrived
      cases row
    · exact inv.held other call' filing atOther row
  · intro other call' atOther
    rcases update_eq_some.mp atOther with ⟨_, arrived⟩ | ⟨_, atOther⟩
    · cases arrived
      exact form
    · exact inv.forms other call' atOther
  · intro submission member
    rcases inv.submitted submission member with row | ⟨other, call', filing, atOther, stage, slot⟩
    · exact Or.inl row
    · refine Or.inr ⟨other, call', filing, update_eq_some.mpr (Or.inr ⟨?_, atOther⟩), stage, slot⟩
      rintro rfl
      rw [fresh] at atOther
      cases atOther
  · intro other call' filing atOther stage
    rcases update_eq_some.mp atOther with ⟨_, arrived⟩ | ⟨_, atOther⟩
    · cases arrived
      cases stage
    · exact inv.inFlight other call' filing atOther stage

/-- A call without a row that goes on without one. -/
theorem FilingInv.setStage (inv : FilingInv store) (atNumber : store.calls number = some call) {stage : FilingStage}
    (before : call.row? = none) (after : (⟨call.organizationId, call.userId, call.provider, call.request, call.formType, stage⟩ :
      FilingCall).row? = none) : FilingInv (store.setStage number call stage) := by
  refine { inv with held := ?_, forms := ?_, submitted := ?_, inFlight := ?_ }
  · intro other call' filing atOther row
    rcases update_eq_some.mp atOther with ⟨_, set⟩ | ⟨_, atOther⟩
    · cases set
      rw [after] at row
      cases row
    · exact inv.held other call' filing atOther row
  · intro other call' atOther
    rcases update_eq_some.mp atOther with ⟨_, set⟩ | ⟨_, atOther⟩
    · cases set
      exact inv.forms number call atNumber
    · exact inv.forms other call' atOther
  · intro submission member
    rcases inv.submitted submission member with row | ⟨other, call', filing, atOther, submitted, slot⟩
    · exact Or.inl row
    · refine Or.inr ⟨other, call', filing, update_eq_some.mpr (Or.inr ⟨?_, atOther⟩), submitted, slot⟩
      rintro rfl
      rw [atNumber] at atOther
      cases atOther
      rw [row?_submitted submitted] at before
      cases before
  · intro other call' filing atOther submitted
    rcases update_eq_some.mp atOther with ⟨_, set⟩ | ⟨_, atOther⟩
    · cases set
      rw [row?_submitted submitted] at after
      cases after
    · exact inv.inFlight other call' filing atOther submitted

theorem FilingInv.claim (inv : FilingInv store) (atNumber : store.calls number = some call) (stage : call.stage = .unclaimed) :
    FilingInv (store.claim number call) := by
  have before : call.row? = none := by rw [FilingCall.row?, stage]
  unfold FilingStore.claim
  by_cases inUse : call.slot ∈ store.claims.map (·.2)
  · rw [if_pos inUse]
    exact inv
  rw [if_neg inUse]
  split
  · exact inv.setStage atNumber before rfl
  next absent =>
  have vacant := filing?_eq_none absent
  refine { inv with claimSlots := ?_, free := ?_, held := ?_, forms := ?_, submitted := ?_, inFlight := ?_ }
  · exact List.nodup_cons.mpr ⟨inUse, inv.claimSlots⟩
  · intro claim member
    rcases List.mem_cons.mp member with rfl | earlier
    · exact vacant
    · exact inv.free claim earlier
  · intro other call' filing atOther row
    rcases update_eq_some.mp atOther with ⟨rfl, set⟩ | ⟨_, atOther⟩
    · cases set
      cases row
      exact ⟨List.mem_cons_self, rfl, rfl, rfl⟩
    · obtain ⟨claimed, made⟩ := inv.held other call' filing atOther row
      exact ⟨List.mem_cons_of_mem _ claimed, made⟩
  · intro other call' atOther
    rcases update_eq_some.mp atOther with ⟨_, set⟩ | ⟨_, atOther⟩
    · cases set
      exact inv.forms number call atNumber
    · exact inv.forms other call' atOther
  · intro submission member
    rcases inv.submitted submission member with row | ⟨other, call', filing, atOther, submitted, slot⟩
    · exact Or.inl row
    · refine Or.inr ⟨other, call', filing, update_eq_some.mpr (Or.inr ⟨?_, atOther⟩), submitted, slot⟩
      rintro rfl
      rw [atNumber] at atOther
      cases atOther
      rw [stage] at submitted
      cases submitted
  · intro other call' filing atOther submitted
    rcases update_eq_some.mp atOther with ⟨_, set⟩ | ⟨_, atOther⟩
    · cases set
      cases submitted
    · exact inv.inFlight other call' filing atOther submitted

theorem FilingInv.reread (inv : FilingInv store) (atNumber : store.calls number = some call) (stage : call.stage = .lost) :
    FilingInv (store.reread number call) := by
  have unsubmitted : ∀ filing, call.stage ≠ .submitted filing := by
    intro filing submitted
    rw [stage] at submitted
    cases submitted
  unfold FilingStore.reread
  split
  · next winner found =>
    obtain ⟨listed, slot⟩ := filing?_eq_some found
    exact (inv.answer fun _ => ⟨listed, slot, inv.forms number call atNumber⟩).finish atNumber unsubmitted
  · exact inv.finish atNumber unsubmitted

/-- The slot of a call that waits for the partner has no submission yet. -/
theorem FilingInv.unsubmitted (inv : FilingInv store) (atNumber : store.calls number = some call) {filing : Filing}
    (stage : call.stage = .claimed filing) : call.slot ∉ store.submissions.map (·.slot) := by
  have claimed := (inv.held number call filing atNumber (row?_claimed stage)).1
  intro member
  obtain ⟨submission, listed, slot⟩ := List.mem_map.mp member
  rcases inv.submitted submission listed with ⟨row, inTable, same⟩ | ⟨other, call', row, atOther, submitted, same⟩
  · exact inv.free _ claimed row inTable (same.trans slot)
  · have one := inv.apart atNumber (row?_claimed stage) atOther (row?_submitted submitted) (same.trans slot)
    subst one
    rw [atNumber] at atOther
    cases atOther
    rw [stage] at submitted
    cases submitted

theorem FilingInv.submit (inv : FilingInv store) (atNumber : store.calls number = some call) {filing : Filing}
    (stage : call.stage = .claimed filing) (report : Report1099) (outcome : Option FilingBatchResult) :
    FilingInv (store.submit number call filing report outcome) := by
  unfold FilingStore.submit
  split
  · refine inv.finish atNumber fun row submitted => ?_
    rw [stage] at submitted
    cases submitted
  next result =>
  obtain ⟨claimed, made⟩ := inv.held number call filing atNumber (row?_claimed stage)
  have fresh := inv.unsubmitted atNumber stage
  refine { inv with
    held := ?_, forms := ?_, submissionSlots := ?_, submissionForms := ?_, submitted := ?_, inFlight := ?_, rows := ?_ }
  · intro other call' row atOther row?
    rcases update_eq_some.mp atOther with ⟨rfl, set⟩ | ⟨_, atOther⟩
    · cases set
      cases row?
      exact ⟨claimed, made.slot, made.taxYear, made.formType⟩
    · exact inv.held other call' row atOther row?
  · intro other call' atOther
    rcases update_eq_some.mp atOther with ⟨_, set⟩ | ⟨_, atOther⟩
    · cases set
      exact inv.forms number call atNumber
    · exact inv.forms other call' atOther
  · rw [List.map_append, List.nodup_append']
    refine ⟨inv.submissionSlots, List.nodup_singleton _, ?_⟩
    intro slot earlier last
    rw [List.mem_singleton.mp last] at earlier
    exact fresh earlier
  · intro submission member
    rcases List.mem_append.mp member with earlier | last
    · exact inv.submissionForms submission earlier
    · cases List.mem_singleton.mp last
      exact inv.forms number call atNumber
  · intro submission member
    rcases List.mem_append.mp member with earlier | last
    · rcases inv.submitted submission earlier with row | ⟨other, call', row, atOther, submitted, slot⟩
      · exact Or.inl row
      · refine Or.inr ⟨other, call', row, update_eq_some.mpr (Or.inr ⟨?_, atOther⟩), submitted, slot⟩
        rintro rfl
        rw [atNumber] at atOther
        cases atOther
        rw [stage] at submitted
        cases submitted
    · cases List.mem_singleton.mp last
      exact Or.inr ⟨number, _, _, update_eq_some.mpr (Or.inl ⟨rfl, rfl⟩), rfl, rfl⟩
  · intro other call' row atOther submitted
    rcases update_eq_some.mp atOther with ⟨_, set⟩ | ⟨_, atOther⟩
    · cases set
      cases submitted
      exact ⟨_, List.mem_append_right _ (List.mem_singleton_self _), made.slot.symm, made.taxYear.symm, made.formType.symm⟩
    · obtain ⟨submission, listed, behind⟩ := inv.inFlight other call' row atOther submitted
      exact ⟨submission, List.mem_append_left _ listed, behind⟩
  · intro row member
    obtain ⟨submission, listed, behind⟩ := inv.rows row member
    exact ⟨submission, List.mem_append_left _ listed, behind⟩

theorem FilingInv.commit (inv : FilingInv store) (atNumber : store.calls number = some call) {filing : Filing}
    (stage : call.stage = .submitted filing) : FilingInv (store.commit number call filing) := by
  obtain ⟨claimed, made⟩ := inv.held number call filing atNumber (row?_submitted stage)
  have only : ∀ claim ∈ store.claims, claim.1 ≠ number → claim.2 ≠ call.slot := by
    intro claim member apart same
    have equal := List.inj_on_of_nodup_map inv.claimSlots member claimed same
    exact apart (congrArg Prod.fst equal)
  constructor
  case claimSlots => exact List.Nodup.sublist (List.filter_sublist.map _) inv.claimSlots
  case free =>
    intro claim member row listed
    obtain ⟨earlier, apart⟩ := List.mem_filter.mp member
    rcases List.mem_append.mp listed with old | new
    · exact inv.free claim earlier row old
    · cases List.mem_singleton.mp new
      rw [made.slot]
      exact Ne.symm (only claim earlier (by simpa using apart))
  case held =>
    intro other call' row atOther row?
    rcases update_eq_some.mp atOther with ⟨_, none⟩ | ⟨apart, atOther⟩
    · cases none
    · obtain ⟨theirs, made'⟩ := inv.held other call' row atOther row?
      exact ⟨List.mem_filter.mpr ⟨theirs, by simpa using apart⟩, made'⟩
  case forms =>
    intro other call' atOther
    rcases update_eq_some.mp atOther with ⟨_, none⟩ | ⟨_, atOther⟩
    · cases none
    · exact inv.forms other call' atOther
  case submissionSlots => exact inv.submissionSlots
  case submissionForms => exact inv.submissionForms
  case submitted =>
    intro submission member
    rcases inv.submitted submission member with ⟨row, listed, slot⟩ | ⟨other, call', row, atOther, submitted, slot⟩
    · exact Or.inl ⟨row, List.mem_append_left _ listed, slot⟩
    · by_cases same : other = number
      · subst same
        rw [atNumber] at atOther
        cases atOther
        exact Or.inl ⟨filing, List.mem_append_right _ (List.mem_singleton_self _), made.slot.trans slot⟩
      · exact Or.inr ⟨other, call', row, update_eq_some.mpr (Or.inr ⟨same, atOther⟩), submitted, slot⟩
  case inFlight =>
    intro other call' row atOther submitted
    rcases update_eq_some.mp atOther with ⟨_, none⟩ | ⟨_, atOther⟩
    · cases none
    · exact inv.inFlight other call' row atOther submitted
  case rows =>
    intro row member
    rcases List.mem_append.mp member with old | new
    · exact inv.rows row old
    · cases List.mem_singleton.mp new
      exact inv.inFlight number call filing atNumber stage
  case answers =>
    intro answer member filed
    rcases List.mem_append.mp member with earlier | last
    · obtain ⟨listed, rest⟩ := inv.answers answer earlier filed
      exact ⟨List.mem_append_left _ listed, rest⟩
    · cases List.mem_singleton.mp last
      cases filed

theorem FilingInv.die (inv : FilingInv store) (atNumber : store.calls number = some call) : FilingInv (store.die number call) := by
  unfold FilingStore.die
  split
  next filing stage =>
    obtain ⟨claimed, _⟩ := inv.held number call filing atNumber (row?_submitted stage)
    have behind : ∀ {row : Filing}, row.slot ≠ call.slot → (∃ submission ∈ store.submissions, submission.Behind row) →
        ∃ submission ∈ store.submissions.filter fun submission => submission.slot ≠ call.slot, submission.Behind row := by
      rintro row apart ⟨submission, listed, behind⟩
      refine ⟨submission, List.mem_filter.mpr ⟨listed, ?_⟩, behind⟩
      rw [behind.slot]
      simpa using apart
    constructor
    case claimSlots => exact List.Nodup.sublist (List.filter_sublist.map _) inv.claimSlots
    case free => exact fun claim member => inv.free claim (List.mem_of_mem_filter member)
    case held =>
      intro other call' row atOther row?
      rcases update_eq_some.mp atOther with ⟨_, none⟩ | ⟨apart, atOther⟩
      · cases none
      · obtain ⟨theirs, made'⟩ := inv.held other call' row atOther row?
        exact ⟨List.mem_filter.mpr ⟨theirs, by simpa using apart⟩, made'⟩
    case forms =>
      intro other call' atOther
      rcases update_eq_some.mp atOther with ⟨_, none⟩ | ⟨_, atOther⟩
      · cases none
      · exact inv.forms other call' atOther
    case submissionSlots => exact List.Nodup.sublist (List.filter_sublist.map _) inv.submissionSlots
    case submissionForms => exact fun submission member => inv.submissionForms submission (List.mem_of_mem_filter member)
    case submitted =>
      intro submission member
      obtain ⟨listed, apart⟩ := List.mem_filter.mp member
      rcases inv.submitted submission listed with row | ⟨other, call', row, atOther, submitted, slot⟩
      · exact Or.inl row
      · refine Or.inr ⟨other, call', row, update_eq_some.mpr (Or.inr ⟨?_, atOther⟩), submitted, slot⟩
        rintro rfl
        rw [atNumber] at atOther
        cases atOther
        simp [slot] at apart
    case inFlight =>
      intro other call' row atOther submitted
      rcases update_eq_some.mp atOther with ⟨_, none⟩ | ⟨apart, atOther⟩
      · cases none
      · have made' := (inv.held other call' row atOther (row?_submitted submitted)).2
        refine behind ?_ (inv.inFlight other call' row atOther submitted)
        rw [made'.slot]
        exact fun same => apart (inv.apart atNumber (row?_submitted stage) atOther (row?_submitted submitted) same)
    case rows => exact fun row member => behind (inv.free _ claimed row member) (inv.rows row member)
    case answers => exact inv.answers
  next unsubmitted => exact inv.finish atNumber unsubmitted

end Steps

theorem FilingInv.onCall {store : FilingStore} (inv : FilingInv store) {number : Nat} {next : FilingCall → FilingStore}
    (each : ∀ call, store.calls number = some call → FilingInv (next call)) : FilingInv (store.onCall number next) := by
  unfold FilingStore.onCall
  split
  · next call atNumber => exact each call atNumber
  · exact inv

theorem FilingInv.step {store : FilingStore} (inv : FilingInv store) (label : FilingLabel) : FilingInv (store.step label) := by
  cases label with
  | arrive number organizationId userId request adapter =>
    rw [FilingStore.step]
    split
    · exact inv
    · next fresh => exact inv.arrive fresh organizationId userId request adapter
  | claim number =>
    refine inv.onCall fun call atNumber => ?_
    split
    · next stage => exact inv.claim atNumber stage
    · exact inv
  | reread number =>
    refine inv.onCall fun call atNumber => ?_
    split
    · next stage => exact inv.reread atNumber stage
    · exact inv
  | submit number report outcome =>
    refine inv.onCall fun call atNumber => ?_
    split
    · next filing stage => exact inv.submit atNumber stage report outcome
    · exact inv
  | commit number =>
    refine inv.onCall fun call atNumber => ?_
    split
    · next filing stage => exact inv.commit atNumber stage
    · exact inv
  | die number => exact inv.onCall fun call atNumber => inv.die atNumber

theorem filingInv_reach {store : FilingStore} (reach : filingMachine.Reach Machine.Anything store) : FilingInv store := by
  have start : ∀ store, filingMachine.init store → FilingInv store := by
    rintro store rfl
    constructor <;> simp [FilingStore.empty]
  have step : ∀ store label, FilingInv store → Machine.Anything store label → FilingInv (filingMachine.step store label) :=
    fun store label inv _ => inv.step label
  exact reach.invariant start step

section Keys

theorem ofText?_eq_some {text : String} {formType : FormType} (form : FormType.ofText? text = some formType) :
    formType.text = text := by
  have matched := List.find?_some form
  simpa only [beq_iff_eq] using matched

/-- The digits of a year end at the colon. -/
theorem takeWhile_digits (n : Nat) (rest : List Char) :
    (Nat.toDigits 10 n ++ ':' :: rest).takeWhile Char.isDigit = Nat.toDigits 10 n := by
  have digits : ∀ c ∈ Nat.toDigits 10 n, c.isDigit = true := fun c member =>
    Nat.isDigit_of_mem_toDigits (by decide) (by decide) member
  rw [List.takeWhile_append_of_pos digits, List.takeWhile_cons_of_neg (by decide), List.append_nil]

theorem derivedKey_inj {organizationId : String} {year year' : Nat} {form form' : String}
    (same : derivedKey organizationId year form = derivedKey organizationId year' form') : year = year' ∧ form = form' := by
  have digits : ∀ n : Nat, (toString n).toList = Nat.toDigits 10 n := fun n => Nat.toList_repr
  have chars := congrArg String.toList same
  simp only [derivedKey, String.toList_append, digits, List.append_assoc] at chars
  have rest : Nat.toDigits 10 year ++ ':' :: form.toList = Nat.toDigits 10 year' ++ ':' :: form'.toList :=
    List.append_cancel_left (List.append_cancel_left chars)
  have years := congrArg (List.takeWhile Char.isDigit) rest
  rw [takeWhile_digits, takeWhile_digits] at years
  have year_eq : year = year' := by
    rw [← @Nat.ofDigitChars_ten_toDigits year, years, Nat.ofDigitChars_ten_toDigits]
  subst year_eq
  have forms := List.append_cancel_left rest
  exact ⟨rfl, String.toList_injective (List.cons.inj forms).2⟩

/-- Calls of one organisation without a key of their own share a slot when they ask for one year and form only. -/
theorem key_omitted {organizationId : String} {request request' : FileBatchRequest} (omitted : request.keyOmitted = true)
    (omitted' : request'.keyOmitted = true) (same : request.key organizationId = request'.key organizationId) :
    request.year = request'.year ∧ request.formType = request'.formType := by
  rw [FileBatchRequest.key, FileBatchRequest.key, if_pos omitted, if_pos omitted'] at same
  exact derivedKey_inj same

end Keys

/-- At most one batch is submitted for a key of an organisation, so at most one for a year and form without keys; a call
answered with an earlier filing gets the one of its key; and a committed filing has a successful submission behind it. -/
theorem filed_once_per_key {store : FilingStore} (reach : filingMachine.Reach Machine.Anything store) :
    (store.submissions.map (·.slot)).Nodup ∧
      ((store.submissions.filter (·.request.keyOmitted)).map fun submission =>
        (submission.organizationId, submission.request.year, submission.formType)).Nodup ∧
      (∀ answer ∈ store.answers, answer.alreadyFiled = true →
        answer.filing ∈ store.filings ∧
          answer.filing.slot = (answer.organizationId, answer.request.key answer.organizationId) ∧
          ∃ submission ∈ store.submissions, submission.Behind answer.filing ∧
            (answer.request.keyOmitted = true → submission.request.keyOmitted = true →
              answer.filing.taxYear = answer.request.year ∧ answer.filing.formType = answer.formType)) ∧
      ∀ filing ∈ store.filings, ∃ submission ∈ store.submissions, submission.Behind filing := by
  have inv := filingInv_reach reach
  refine ⟨inv.submissionSlots, ?_, ?_, inv.rows⟩
  · have slots : (store.submissions.filter (·.request.keyOmitted)).Pairwise fun one other => one.slot ≠ other.slot :=
      List.Pairwise.sublist List.filter_sublist (List.pairwise_map.mp inv.submissionSlots)
    refine List.pairwise_map.mpr (List.Pairwise.imp_of_mem ?_ slots)
    intro one other inOne inOther apart same
    obtain ⟨listed, omitted⟩ := List.mem_filter.mp inOne
    obtain ⟨listed', omitted'⟩ := List.mem_filter.mp inOther
    simp only [Prod.mk.injEq] at same
    obtain ⟨organization, year, formType⟩ := same
    have form : one.request.formType = other.request.formType := by
      rw [← ofText?_eq_some (inv.submissionForms one listed), ← ofText?_eq_some (inv.submissionForms other listed'), formType]
    refine apart ?_
    rw [Submission.slot, Submission.slot, FileBatchRequest.key, FileBatchRequest.key, if_pos omitted, if_pos omitted',
      organization, year, form]
  · intro answer member filed
    obtain ⟨listed, slot, form⟩ := inv.answers answer member filed
    obtain ⟨submission, submitted, behind⟩ := inv.rows _ listed
    refine ⟨listed, slot, submission, submitted, behind, ?_⟩
    intro omitted omitted'
    have slots := Prod.mk.injEq .. |>.mp (behind.slot.trans slot)
    have keys : submission.request.key answer.organizationId = answer.request.key answer.organizationId := by
      rw [← slots.1]
      exact slots.2.trans (by rw [slots.1])
    obtain ⟨year, text⟩ := key_omitted omitted' omitted keys
    refine ⟨behind.taxYear.symm.trans year, ?_⟩
    rw [← behind.formType]
    have forms := (inv.submissionForms submission submitted).symm.trans ((congrArg FormType.ofText? text).trans form)
    exact Option.some.inj forms

section Landlord

/-- A call that files the forms of 2025 for nonemployees, and is accepted where it reaches the partner. -/
def fileForms (number : Nat) (idempotencyKey : Option String) : List FilingLabel :=
  [.arrive number "org-1" "user-1" ⟨2025, "1099-NEC", idempotencyKey, by decide⟩ (some "mock"), .claim number,
    .submit number (build1099Report (fun _ _ => true) landlordTables "org-1" 2025 "USD" .null)
      (some ⟨"accepted", some "MOCK-2025", 1, 1, 0, [⟨"v-1", .nec, true, none⟩]⟩),
    .commit number]

/-- Two calls without a key. -/
def retried : FilingStore := filingMachine.exec .empty (fileForms 0 none ++ fileForms 1 none)

theorem filed_once_per_key_retried :
    retried.answers.map (·.alreadyFiled) = [false, true] ∧
      (retried.submissions.map (·.slot)).Nodup ∧
      ((retried.submissions.filter (·.request.keyOmitted)).map fun submission =>
        (submission.organizationId, submission.request.year, submission.formType)).Nodup ∧
      (∀ answer ∈ retried.answers, answer.alreadyFiled = true →
        answer.filing ∈ retried.filings ∧
          answer.filing.slot = (answer.organizationId, answer.request.key answer.organizationId) ∧
          ∃ submission ∈ retried.submissions, submission.Behind answer.filing ∧
            (answer.request.keyOmitted = true → submission.request.keyOmitted = true →
              answer.filing.taxYear = answer.request.year ∧ answer.filing.formType = answer.formType)) ∧
      ∀ filing ∈ retried.filings, ∃ submission ∈ retried.submissions, submission.Behind filing :=
  ⟨by decide, filed_once_per_key (Machine.reach_exec rfl _)⟩

/-- Under two keys the same money is submitted twice. -/
theorem two_keys_file_twice :
    ∃ store, filingMachine.Reach Machine.Anything store ∧
      store.submissions.map (fun submission =>
        (submission.organizationId, submission.request.year, submission.formType, submission.forms.map (·.boxAmount))) =
        [("org-1", 2025, .nec, [700]), ("org-1", 2025, .nec, [700])] :=
  ⟨filingMachine.exec .empty (fileForms 0 (some "first") ++ fileForms 1 (some "second")), Machine.reach_exec rfl _,
    by decide +kernel⟩

end Landlord

end Payables.Tax
