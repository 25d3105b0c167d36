import Payables.Exceptions.Decisions

namespace Payables.Exceptions
open Lib

/-- Resolved or dismissed. -/
def ExceptionRow.Decided (row : ExceptionRow) : Prop := row.status = .resolved ∨ row.status = .dismissed
  deriving Decidable

/-- An audit row of a decision that clears its exception. -/
def ExceptionAudit.clears (entry : ExceptionAudit) : Bool := entry.action = .resolved || entry.action = .dismissed

/-- How often the trail has an exception cleared. -/
def QueueTables.clearings (tables : QueueTables) (id : Nat) : Nat :=
  tables.audit.countP fun entry => entry.clears && entry.entityId = id

/-- The states a run leads to after some of its parts. -/
abbrev after (first : Served QueueTables DecisionCall) (parts : List (Part QueueArrival (Nat → Time))) : QueueTables :=
  (queueService.machine.exec first parts).tables

/-- What a run does with its decided exceptions. -/
structure DecidedStay (first : Served QueueTables DecisionCall) (parts : List (Part QueueArrival (Nat → Time))) : Prop where
  kept : ∀ before between later, parts = before ++ between ++ later → ∀ id row,
    (after first before).exception? id = some row → row.Decided → (after first (before ++ between)).exception? id = some row
  once : ∀ before later, parts = before ++ later → ∀ id row,
    (after first before).exception? id = some row → row.Decided → (after first before).clearings id = 1

/-- A decision that leaves a row alone which was decided in the meantime: an escalation of what was escalated already,
with the note it had or the resolution it has got. -/
def Harmless (call : DecisionCall) (loaded row : ExceptionRow) : Prop :=
  call.action = .escalate ∧ loaded.status = .escalated ∧
    (some call.resolution = loaded.resolution ∨ some call.resolution = row.resolution)
  deriving Decidable

/-- The commit of a call finds its rows undecided, or is harmless to them. -/
def DecidesInTime (tables : QueueTables) (call : DecisionCall) (_ : Nat → Time) : Prop :=
  ∀ loaded ∈ call.loaded, ∀ row ∈ tables.exception? loaded.id, row.Decided → Harmless call loaded row
  deriving Decidable

/-- What holds of the tables between the requests of a run in time. -/
structure QueueInv (tables : QueueTables) : Prop where
  keys : (tables.exceptions.map (·.id)).Nodup
  rows : ∀ row ∈ tables.exceptions, row.id < tables.exceptions.length
  trail : ∀ entry ∈ tables.audit, entry.entityId < tables.exceptions.length
  clearings : ∀ id row, tables.exception? id = some row → tables.clearings id = if row.Decided then 1 else 0

/-- What holds of a call in flight. -/
structure QueueHeld (tables : QueueTables) (call : DecisionCall) : Prop where
  keys : (call.loaded.map (·.id)).Nodup
  rows : ∀ loaded ∈ call.loaded, loaded.status ∈ actionableStatuses ∧ loaded.id < tables.exceptions.length

section Rows

variable {call : DecisionCall} {now : Nat → Time} {loaded row : ExceptionRow}

theorem id_write (call : DecisionCall) (now : Nat → Time) (row : ExceptionRow) : (call.write now row).id = row.id := by
  rw [DecisionCall.write]
  split <;> rfl

theorem write_of_not_loaded (other : row.id ∉ call.loaded.map (·.id)) : call.write now row = row := by
  rw [DecisionCall.write]
  split
  next loaded found =>
    obtain ⟨mem, same⟩ := getRow_some found
    exact absurd (List.mem_map.mpr ⟨loaded, mem, same⟩) other
  next => rfl

theorem write_of_loaded (keys : (call.loaded.map (·.id)).Nodup) (mem : loaded ∈ call.loaded) (same : row.id = loaded.id) :
    call.write now row = ExceptionRow.flush loaded (call.decide now loaded) row := by
  rw [DecisionCall.write, same, getRow_of_mem keys mem]

@[simp] theorem status_decide (call : DecisionCall) (now : Nat → Time) (loaded : ExceptionRow) :
    (call.decide now loaded).status = call.action.newStatus := by
  cases action : call.action <;> simp [DecisionCall.decide, ExceptionRow.apply, applyResolution, action]

theorem decide_escalate (escalates : call.action = .escalate) :
    call.decide now loaded = { loaded with status := .escalated, resolution := some call.resolution } := by
  simp [DecisionCall.decide, ExceptionRow.apply, applyResolution, escalates, QueueAction.newStatus]

/-- A clearing decision on a live row decides whatever the row is. -/
theorem decided_flush (actionable : loaded.status ∈ actionableStatuses) (clears : call.action ≠ .escalate) :
    (ExceptionRow.flush loaded (call.decide now loaded) row).Decided := by
  have status : (ExceptionRow.flush loaded (call.decide now loaded) row).status = call.action.newStatus := by
    have moved : (call.decide now loaded).status ≠ loaded.status := by
      intro same
      rw [status_decide] at same
      rw [← same] at actionable
      revert actionable clears
      cases call.action <;> decide
    exact (writeBack_of_ne moved row.status).trans (status_decide call now loaded)
  rw [ExceptionRow.Decided, status]
  revert clears
  cases call.action <;> decide

/-- An escalation leaves an undecided row undecided. -/
theorem undecided_flush (escalates : call.action = .escalate) (undecided : ¬row.Decided) :
    ¬(ExceptionRow.flush loaded (call.decide now loaded) row).Decided := by
  have status : (ExceptionRow.flush loaded (call.decide now loaded) row).status =
      writeBack loaded.status .escalated row.status := by
    rw [decide_escalate escalates]
    rfl
  rw [ExceptionRow.Decided, status]
  by_cases same : ExceptionStatus.escalated = loaded.status
  · rw [← same, writeBack_self]
    exact undecided
  · rw [writeBack_of_ne same]
    decide

/-- An escalation writes nothing into a row exactly when it is harmless to it. -/
theorem flush_eq_iff (escalates : call.action = .escalate) (decided : row.Decided) :
    ExceptionRow.flush loaded (call.decide now loaded) row = row ↔ Harmless call loaded row := by
  have written : ExceptionRow.flush loaded (call.decide now loaded) row =
      { row with
        status := writeBack loaded.status .escalated row.status
        resolution := writeBack loaded.resolution (some call.resolution) row.resolution } := by
    rw [decide_escalate escalates]
    simp only [ExceptionRow.flush, writeBack_self]
  rw [written]
  constructor
  · intro same
    have status : writeBack loaded.status .escalated row.status = row.status := congrArg (·.status) same
    have resolution : writeBack loaded.resolution (some call.resolution) row.resolution = row.resolution :=
      congrArg (·.resolution) same
    refine ⟨escalates, ?_, ?_⟩
    · by_contra other
      rw [writeBack_of_ne (Ne.symm other)] at status
      rw [ExceptionRow.Decided, ← status] at decided
      revert decided
      decide
    · by_cases unread : some call.resolution = loaded.resolution
      · exact .inl unread
      · rw [writeBack_of_ne unread] at resolution
        exact .inr resolution
  · rintro ⟨_, status, unread | same⟩
    · rw [status, unread, writeBack_self, writeBack_self]
    · rw [status, writeBack_self]
      by_cases unread : some call.resolution = loaded.resolution
      · rw [unread, writeBack_self]
      · rw [writeBack_of_ne unread, same]

end Rows

section Steps

variable {tables : QueueTables} {call : DecisionCall} {now : Nat → Time}

theorem exception?_commit (call : DecisionCall) (now : Nat → Time) (id : Nat) :
    (call.commit tables now).exception? id = (tables.exception? id).map (call.write now) :=
  getRow_map (id_write call now) id

/-- A commit that clears adds one clearing for each of its rows, any other none. -/
theorem clearings_commit (keys : (call.loaded.map (·.id)).Nodup) (id : Nat) :
    (call.commit tables now).clearings id =
      tables.clearings id + if call.action ≠ .escalate ∧ id ∈ call.loaded.map (·.id) then 1 else 0 := by
  have added : (call.audit now).countP (fun entry => entry.clears && entry.entityId = id) =
      if call.action ≠ .escalate ∧ id ∈ call.loaded.map (·.id) then 1 else 0 := by
    rw [DecisionCall.audit, List.countP_map]
    by_cases escalates : call.action = .escalate
    · have silent : ((fun entry : ExceptionAudit => entry.clears && decide (entry.entityId = id)) ∘ fun loaded =>
          decisionAudit loaded (call.decide now loaded) call.action call.resolution call.actorId) = fun _ => false := by
        funext loaded
        simp [decisionAudit, ExceptionAudit.clears, escalates, lifecycleAction]
      rw [silent, List.countP_false, if_neg fun clears => clears.1 escalates]
      rfl
    · have clears : ((fun entry : ExceptionAudit => entry.clears && decide (entry.entityId = id)) ∘ fun loaded =>
          decisionAudit loaded (call.decide now loaded) call.action call.resolution call.actorId) =
            ((· == id) ∘ fun loaded : ExceptionRow => loaded.id) := by
        funext loaded
        cases action : call.action with
        | escalate => exact absurd action escalates
        | resolve => simp [decisionAudit, ExceptionAudit.clears, lifecycleAction, beq_eq_decide]
        | dismiss => simp [decisionAudit, ExceptionAudit.clears, lifecycleAction, beq_eq_decide]
      have counted : List.countP (· == id) (call.loaded.map (·.id)) = if id ∈ call.loaded.map (·.id) then 1 else 0 :=
        keys.count
      rw [clears, ← List.countP_map, counted]
      simp only [ne_eq, escalates, not_false_eq_true, true_and]
  rw [QueueTables.clearings, DecisionCall.commit, List.countP_append, added]
  rfl

/-- A row that was decided before a commit in time stays as it is. -/
theorem write_of_decided (held : QueueHeld tables call) (inTime : DecidesInTime tables call now) {id : Nat}
    {row : ExceptionRow} (present : tables.exception? id = some row) (decided : row.Decided) :
    call.write now row = row ∧ ¬(call.action ≠ .escalate ∧ id ∈ call.loaded.map (·.id)) := by
  have same : row.id = id := (getRow_some present).2
  by_cases loaded : id ∈ call.loaded.map (·.id)
  · obtain ⟨source, mem, rfl⟩ := List.mem_map.mp loaded
    have harmless := inTime source mem row present decided
    rw [write_of_loaded held.keys mem same]
    exact ⟨(flush_eq_iff harmless.1 decided).mpr harmless, fun clears => clears.1 harmless.1⟩
  · exact ⟨write_of_not_loaded (same.symm ▸ loaded), fun clears => loaded clears.2⟩

theorem QueueInv.commit (inv : QueueInv tables) (held : QueueHeld tables call) (inTime : DecidesInTime tables call now) :
    QueueInv (call.commit tables now) := by
  constructor
  case keys =>
    have same : (tables.exceptions.map (call.write now)).map (·.id) = tables.exceptions.map (·.id) := by
      rw [List.map_map]
      exact List.map_congr_left fun row _ => id_write call now row
    exact same.symm ▸ inv.keys
  case rows =>
    intro row mem
    obtain ⟨source, stored, rfl⟩ := List.mem_map.mp mem
    rw [id_write]
    have below := inv.rows source stored
    simpa only [DecisionCall.commit, List.length_map] using below
  case trail =>
    intro entry mem
    simp only [DecisionCall.commit, List.length_map]
    rcases List.mem_append.mp mem with old | new
    · exact inv.trail entry old
    · obtain ⟨loaded, source, rfl⟩ := List.mem_map.mp new
      exact (held.rows loaded source).2
  case clearings =>
    intro id row present
    rw [exception?_commit] at present
    obtain ⟨source, stored, rfl⟩ := Option.map_eq_some_iff.mp present
    rw [clearings_commit held.keys, inv.clearings id source stored]
    have same : source.id = id := (getRow_some stored).2
    by_cases decided : source.Decided
    · obtain ⟨kept, silent⟩ := write_of_decided held inTime stored decided
      rw [kept, if_pos decided, if_neg silent]
    · rw [if_neg decided, Nat.zero_add]
      by_cases loaded : id ∈ call.loaded.map (·.id)
      · obtain ⟨read, mem, rfl⟩ := List.mem_map.mp loaded
        rw [write_of_loaded held.keys mem same]
        by_cases escalates : call.action = .escalate
        · rw [if_neg fun clears => clears.1 escalates, if_neg (undecided_flush escalates decided)]
        · rw [if_pos ⟨escalates, loaded⟩, if_pos (decided_flush (held.rows read mem).1 escalates)]
      · rw [write_of_not_loaded (same.symm ▸ loaded), if_neg fun clears => loaded clears.2, if_neg decided]

theorem QueueHeld.commit {other : DecisionCall} (kept : QueueHeld tables other) (call : DecisionCall) (now : Nat → Time) :
    QueueHeld (call.commit tables now) other := by
  refine ⟨kept.keys, fun loaded mem => ⟨(kept.rows loaded mem).1, ?_⟩⟩
  simp only [DecisionCall.commit, List.length_map]
  exact (kept.rows loaded mem).2

end Steps

/-- What a step does with the exceptions that were decided before it. -/
structure Stay (tables later : QueueTables) : Prop where
  kept : ∀ id row, tables.exception? id = some row → row.Decided → later.exception? id = some row
  once : (∀ id row, tables.exception? id = some row → row.Decided → tables.clearings id = 1) →
    ∀ id row, later.exception? id = some row → row.Decided → later.clearings id = 1

theorem Stay.refl (tables : QueueTables) : Stay tables tables := ⟨fun _ _ present _ => present, id⟩

theorem Stay.trans {first second third : QueueTables} (one : Stay first second) (two : Stay second third) :
    Stay first third :=
  ⟨fun id row present decided => two.kept id row (one.kept id row present decided) decided, two.once ∘ one.once⟩

theorem QueueInv.once {tables : QueueTables} (inv : QueueInv tables) (id : Nat) (row : ExceptionRow)
    (present : tables.exception? id = some row) (decided : row.Decided) : tables.clearings id = 1 := by
  rw [inv.clearings id row present, if_pos decided]

/-- A commit leaves decided exceptions alone exactly when it is in time. -/
theorem stay_commit_iff {tables : QueueTables} {call : DecisionCall} {now : Nat → Time} (inv : QueueInv tables)
    (held : QueueHeld tables call) : Stay tables (call.commit tables now) ↔ DecidesInTime tables call now := by
  constructor
  · intro stay loaded mem row present decided
    have listed : loaded.id ∈ call.loaded.map (·.id) := List.mem_map_of_mem mem
    have same : row.id = loaded.id := (getRow_some present).2
    have later := stay.kept loaded.id row present decided
    by_cases escalates : call.action = .escalate
    · have unchanged : call.write now row = row := by
        rw [exception?_commit, present] at later
        exact Option.some.inj later
      rw [write_of_loaded held.keys mem same] at unchanged
      exact (flush_eq_iff escalates decided).mp unchanged
    · have count := stay.once inv.once loaded.id row later decided
      rw [clearings_commit held.keys, inv.once loaded.id row present decided, if_pos ⟨escalates, listed⟩] at count
      omega
  · intro inTime
    refine ⟨fun id row present decided => ?_, fun _ => (inv.commit held inTime).once⟩
    rw [exception?_commit, present, Option.map_some, (write_of_decided held inTime present decided).1]

section Arrivals

variable {tables : QueueTables}

theorem exception?_raise {exceptionType : ExceptionType} {severity : String} {invoiceId : Option InvoiceId}
    {raisedByUserId : Option UserId} {now : Time} {id : Nat} {row : ExceptionRow}
    (present : (tables.raise exceptionType severity invoiceId raisedByUserId now).exception? id = some row) :
    tables.exception? id = some row ∨ id = tables.exceptions.length ∧ row.status = .opened := by
  rw [QueueTables.exception?, getRow, QueueTables.raise, List.find?_append] at present
  rcases Option.or_eq_some_iff.mp present with old | ⟨_, new⟩
  · exact .inl old
  · have mem := List.mem_singleton.mp (List.mem_of_find?_eq_some new)
    have same := (getRow_some new).2
    subst mem
    exact .inr ⟨same.symm, rfl⟩

theorem clearings_raise (exceptionType : ExceptionType) (severity : String) (invoiceId : Option InvoiceId)
    (raisedByUserId : Option UserId) (now : Time) (id : Nat) :
    (tables.raise exceptionType severity invoiceId raisedByUserId now).clearings id = tables.clearings id := by
  rw [QueueTables.clearings, QueueTables.raise, List.countP_append]
  exact Nat.add_zero _

/-- An exception that was never raised has no trail. -/
theorem QueueInv.clearings_length (inv : QueueInv tables) : tables.clearings tables.exceptions.length = 0 := by
  refine List.countP_eq_zero.mpr fun entry mem => ?_
  have below := inv.trail entry mem
  have other : entry.entityId ≠ tables.exceptions.length := by omega
  simp [other]

theorem QueueInv.raise (inv : QueueInv tables) (exceptionType : ExceptionType) (severity : String)
    (invoiceId : Option InvoiceId) (raisedByUserId : Option UserId) (now : Time) :
    QueueInv (tables.raise exceptionType severity invoiceId raisedByUserId now) := by
  have longer : (tables.raise exceptionType severity invoiceId raisedByUserId now).exceptions.length =
      tables.exceptions.length + 1 := List.length_append
  constructor
  case keys =>
    rw [QueueTables.raise, List.map_append, List.nodup_append]
    refine ⟨inv.keys, List.nodup_singleton _, ?_⟩
    intro id old new last
    obtain ⟨row, mem, rfl⟩ := List.mem_map.mp old
    have below := inv.rows row mem
    have value : new = tables.exceptions.length := List.mem_singleton.mp last
    omega
  case rows =>
    intro row mem
    rw [longer]
    rcases List.mem_append.mp mem with old | new
    · exact Nat.lt_succ_of_lt (inv.rows row old)
    · rw [List.mem_singleton.mp new]
      exact Nat.lt_succ_self _
  case trail =>
    intro entry mem
    rw [longer]
    rcases List.mem_append.mp mem with old | new
    · exact Nat.lt_succ_of_lt (inv.trail entry old)
    · rw [List.mem_singleton.mp new]
      exact Nat.lt_succ_self _
  case clearings =>
    intro id row present
    rw [clearings_raise]
    rcases exception?_raise present with old | ⟨rfl, opened⟩
    · exact inv.clearings id row old
    · have live : ¬row.Decided := by
        rw [ExceptionRow.Decided, opened]
        decide
      rw [inv.clearings_length, if_neg live]

theorem exception?_raise_of_some {exceptionType : ExceptionType} {severity : String} {invoiceId : Option InvoiceId}
    {raisedByUserId : Option UserId} {now : Time} {id : Nat} {row : ExceptionRow} (present : tables.exception? id = some row) :
    (tables.raise exceptionType severity invoiceId raisedByUserId now).exception? id = some row := by
  rw [QueueTables.exception?, getRow, QueueTables.raise, List.find?_append]
  exact Option.or_eq_some_iff.mpr (.inl present)

/-- The rows that a request goes on with are live. -/
theorem held_of_resolve (inv : QueueInv tables) {id : Nat} {decider : Decider} {verb resolution : String} {call : DecisionCall}
    (resolves : tables.resolveException id decider verb resolution = .ok call) : QueueHeld tables call := by
  rw [QueueTables.resolveException] at resolves
  split at resolves
  · cases resolves
  next row present =>
    split at resolves
    · cases resolves
    next actionable =>
      split at resolves
      · cases resolves
      · split at resolves
        · cases resolves
        · obtain rfl := Except.ok.inj resolves
          refine ⟨List.nodup_singleton _, fun loaded mem => ?_⟩
          rw [List.mem_singleton.mp mem]
          exact ⟨not_not.mp actionable, inv.rows row (getRow_some present).1⟩

theorem held_of_bulkResolve (inv : QueueInv tables) {ids : List Nat} {decider : Decider} {verb resolution : String}
    {call : DecisionCall} {response : BulkResolveResponse}
    (resolves : tables.bulkResolve ids decider verb resolution = .ok (call, response)) : QueueHeld tables call := by
  rw [QueueTables.bulkResolve] at resolves
  split at resolves
  · cases resolves
  next action _ =>
    obtain ⟨rfl, _⟩ := Prod.mk.inj (Except.ok.inj resolves)
    refine ⟨inv.keys.sublist ((List.filter_sublist.trans List.filter_sublist).map _), fun loaded mem => ?_⟩
    obtain ⟨inRows, unskipped⟩ := List.mem_filter.mp mem
    refine ⟨?_, inv.rows loaded (List.mem_of_mem_filter inRows)⟩
    by_contra settled
    simp [QueueTables.skipReason?, settled] at unskipped

theorem arrive_respects (inv : QueueInv tables) (arrival : QueueArrival) :
    Service.Respects QueueInv QueueHeld Service.Free tables none (tables.arrive arrival) := by
  cases arrival with
  | raise exceptionType severity invoiceId raisedByUserId now =>
    refine .ended (inv.raise ..) fun call held => ⟨held.keys, fun loaded mem => ⟨(held.rows loaded mem).1, ?_⟩⟩
    have below := (held.rows loaded mem).2
    rw [QueueTables.raise, List.length_append]
    exact Nat.lt_succ_of_lt below
  | resolve id decider verb resolution =>
    rw [QueueTables.arrive]
    split
    next call resolves => exact .read inv (held_of_resolve inv resolves)
    next => exact .refused inv
  | bulkResolve ids decider verb resolution =>
    rw [QueueTables.arrive]
    split
    next call response resolves => exact .read inv (held_of_bulkResolve inv resolves)
    next => exact .refused inv

theorem stay_arrive (inv : QueueInv tables) (arrival : QueueArrival) : Stay tables (tables.arrive arrival).1 := by
  cases arrival with
  | raise exceptionType severity invoiceId raisedByUserId now =>
    exact ⟨fun id row present _ => exception?_raise_of_some present, fun _ => (inv.raise ..).once⟩
  | resolve id decider verb resolution =>
    rw [QueueTables.arrive]
    split <;> exact .refl tables
  | bulkResolve ids decider verb resolution =>
    rw [QueueTables.arrive]
    split <;> exact .refl tables

end Arrivals

abbrev InTime : Served QueueTables DecisionCall → Part QueueArrival (Nat → Time) → Prop :=
  Service.Guarded Machine.Anything DecidesInTime

theorem queueInv_empty : QueueInv .empty := by
  constructor <;> simp [QueueTables.empty, QueueTables.exception?, getRow]

theorem queue_sustains : Service.Sustains queueService Machine.Anything DecidesInTime QueueInv QueueHeld Service.Free where
  symm _ _ free := free
  start := by
    rintro _ rfl
    exact queueInv_empty
  arrive _ arrival inv _ := arrive_respects inv arrival
  advance _ call now inv held inTime := .ended (inv.commit held inTime) fun _ other => other.commit call now
  abort _ _ inv _ := .refused inv

abbrev QueueKeeps : Served QueueTables DecisionCall → Prop := Service.Keeps QueueInv QueueHeld Service.Free

/-- A step leaves decided exceptions alone exactly when it is in time. -/
theorem stay_step_iff {state : Served QueueTables DecisionCall} (part : Part QueueArrival (Nat → Time))
    (keeps : QueueKeeps state) :
    Stay state.tables (queueService.machine.step state part).tables ↔ InTime state part := by
  cases part with
  | arrive number arrival =>
    refine ⟨fun _ => trivial, fun _ => ?_⟩
    show Stay state.tables (queueService.step state (.arrive number arrival)).tables
    rw [Service.step]
    split
    · exact .refl _
    · exact stay_arrive keeps.tables arrival
  | advance number now =>
    show Stay state.tables (queueService.step state (.advance number now)).tables ↔
      ∀ call ∈ state.held number, DecidesInTime state.tables call now
    rw [Service.step]
    cases found : state.held number with
    | none => exact ⟨fun _ _ none => (Option.not_mem_none _ none).elim, fun _ => .refl _⟩
    | some call =>
      have exactly : Stay state.tables (call.commit state.tables now) ↔ DecidesInTime state.tables call now :=
        stay_commit_iff keeps.tables (keeps.held number call found)
      constructor
      · rintro stay _ ⟨rfl⟩
        exact exactly.mp stay
      · intro inTime
        exact exactly.mpr (inTime call rfl)
  | die number =>
    refine ⟨fun _ => trivial, fun _ => ?_⟩
    show Stay state.tables (queueService.step state (.die number)).tables
    rw [Service.step]
    split <;> exact .refl _

/-- A run leaves its decided exceptions alone exactly when all of its commits are in time. -/
theorem decided_stay_iff {first : Served QueueTables DecisionCall} (begins : queueService.machine.init first)
    (parts : List (Part QueueArrival (Nat → Time))) :
    DecidedStay first parts ↔ queueService.machine.Permits InTime first parts := by
  have keeps : QueueKeeps first := queue_sustains.init begins
  have related : (∀ before between later, parts = before ++ between ++ later →
      Stay (after first before) (after first (before ++ between))) ↔ queueService.machine.Permits InTime first parts :=
    Machine.related_iff_permits (R := fun state later : Served QueueTables DecisionCall => Stay state.tables later.tables)
      (fun state => .refl state.tables) (fun _ _ _ one two => one.trans two)
      (fun _ _ keeps allowed => queue_sustains.step keeps allowed) (fun _ part keeps => stay_step_iff part keeps) keeps
  rw [← related]
  constructor
  · rintro ⟨kept, once⟩ before between later split
    exact ⟨kept before between later split, fun _ => once (before ++ between) later split⟩
  · intro stays
    refine ⟨fun before between later split => (stays before between later split).kept, fun before later split => ?_⟩
    have fromStart := stays [] before later split
    exact fromStart.once keeps.tables.once

def lee : Decider := ⟨"lee", "Lee", fun _ => none, none⟩

def dana : Decider := ⟨"dana", "Dana", fun _ => none, none⟩

/-- A duplicate is raised and escalated, Lee dismisses it in bulk, and a resolve that comes later is refused. -/
def dismissedOnce : List (Part QueueArrival (Nat → Time)) :=
  [.arrive 0 (.raise .duplicate "error" (some 3) none 0), .arrive 0 (.resolve 0 dana "escalate" "Ask Lee"),
    .advance 0 fun _ => 1, .arrive 0 (.bulkResolve [0, 5] lee "dismiss" "Not a duplicate"), .advance 0 fun _ => 2,
    .arrive 0 (.resolve 0 dana "resolve" "Paid twice")]

theorem decided_stay_dismissed : DecidedStay (Service.begun .empty) dismissedOnce := by
  have begins : queueService.machine.init (Service.begun .empty) := Service.init_begun rfl
  have inTime : queueService.machine.Permits (Service.Guarded (fun _ _ => True) DecidesInTime) (Service.begun .empty)
      dismissedOnce := by decide
  exact (decided_stay_iff begins dismissedOnce).mpr inTime

/-- An escalation that has passed its check is stored after the duplicate was resolved. -/
def reopenedLate : List (Part QueueArrival (Nat → Time)) :=
  [.arrive 0 (.raise .duplicate "error" (some 3) none 0), .arrive 0 (.resolve 0 dana "escalate" "Ask Lee"),
    .arrive 1 (.resolve 0 lee "resolve" "Not a duplicate"), .advance 1 fun _ => 1, .advance 0 fun _ => 2]

theorem decided_reopened : ¬∀ first parts, queueService.machine.init first → DecidedStay first parts := by
  intro always
  have stay := always (Service.begun .empty) reopenedLate (Service.init_begun rfl)
  have later := stay.kept (reopenedLate.take 4) (reopenedLate.drop 4) [] rfl
  have reopened : ∃ row ∈ (after (Service.begun .empty) (reopenedLate.take 4)).exception? 0,
      row.Decided ∧ (after (Service.begun .empty) (reopenedLate.take 4 ++ reopenedLate.drop 4)).exception? 0 ≠ some row := by
    decide
  obtain ⟨row, present, decided, other⟩ := reopened
  exact other (later 0 row present decided)

end Payables.Exceptions
