import Payables.Billing.ChangesKept
import Payables.Billing.Dunning

namespace Payables.Billing
open Lib

/-- Changes that lead from one status to another, each from where the one before it has ended. -/
def StatusesChained (first : SubscriptionStatus) (entries : List StatusChange) (last : SubscriptionStatus) : Prop :=
  Chained StatusChange.fromStatus StatusChange.toStatus first entries last

namespace LifecycleTables

variable (tables : LifecycleTables)

/-- The audit rows of a subscription. -/
def trailOf (id : Nat) : List StatusChange := tables.trail.filter fun entry => entry.subscriptionId = id

/-- The committed changes of a subscription. -/
def committedOf (id : Nat) : List StatusChange := tables.committed.filter fun entry => entry.subscriptionId = id

end LifecycleTables

/-- The sweep cancels only where the grace days have passed since the end of the period that the subscription was in when
it last became past due. The audit rows of each subscription are its committed changes, but for one that is audited and not
committed yet, and they are a chain to its status. -/
structure GraceHonoured (graceDays : Nat) (tables : LifecycleTables) : Prop where
  grace : ∀ entry ∈ tables.dunned, ∀ due ∈ entry.dueEnd, due.stamp + graceDays * microsPerDay ≤ entry.now.stamp
  recorded : ∀ id, id ∉ tables.uncommitted → tables.trailOf id = tables.committedOf id
  ahead : ∀ id ∈ tables.uncommitted, ∃ entry, tables.trailOf id = tables.committedOf id ++ [entry]
  chained : ∀ id, ∃ first last, StatusesChained first (tables.trailOf id) last
  current : ∀ row ∈ tables.subscriptions, ∃ first, StatusesChained first (tables.committedOf row.id) row.status

/-- An instant in the window that is recorded on a subscription. -/
def Subscription.InWindow (subscription : Subscription) (now : Datetime) : Prop :=
  ∃ start ∈ subscription.currentPeriodStart, ∃ stop ∈ subscription.currentPeriodEnd, start ≤ now ∧ now < stop
  deriving Decidable

/-- A plan change at an instant before the recorded start, where the month from that start is shorter than the recorded
window, puts the end back. -/
def Subscription.KeepsEnd (subscription : Subscription) (now : Datetime) : Prop :=
  ∀ start ∈ subscription.currentPeriodStart, ∀ stop ∈ subscription.currentPeriodEnd,
    start ≤ now ∨ ∀ renewed ∈ addMonths start 1, stop ≤ renewed
  deriving Decidable

/-- An event that is audited has read the status that the subscription still has, while no other change of it is on its
way. One that is committed finds the subscription, revives none next to a live one, and makes it past due in the window that
is recorded on it. -/
def EventInOrder (tables : LifecycleTables) (call : EventCall) : Prop :=
  if call.audited then
    ∃ subscription ∈ tables.subscription? call.subscriptionId,
      tables.Waits subscription ∨
        ¬tables.Collides subscription.id call.status ∧ (call.status = .pastDue → subscription.InWindow tables.clock)
  else
    call.subscriptionId ∉ tables.uncommitted ∧
      (tables.subscription? call.subscriptionId).map (·.status) = some call.previous
  deriving Decidable

/-- A plan change keeps the end of a past-due subscription. -/
def PlanStage.InOrder (now : Datetime) : PlanStage → Prop
  | .locked subscription _ _ => subscription.status = .pastDue → subscription.KeepsEnd now
  | _ => True

instance PlanStage.InOrder.decidable (now : Datetime) : (stage : PlanStage) → Decidable (stage.InOrder now)
  | .peeked _ => inferInstanceAs (Decidable True)
  | .provisioned => inferInstanceAs (Decidable True)
  | .locked subscription _ _ => inferInstanceAs (Decidable (subscription.status = .pastDue → subscription.KeepsEnd now))

/-- A cancellation is audited while no other change of the subscription is on its way. -/
def TickStage.InOrder (tables : LifecycleTables) : TickStage → Prop
  | .canceling subscription => subscription.id ∉ tables.uncommitted
  | _ => True

instance TickStage.InOrder.decidable (tables : LifecycleTables) : (stage : TickStage) → Decidable (stage.InOrder tables)
  | .selected => inferInstanceAs (Decidable True)
  | .canceling subscription => inferInstanceAs (Decidable (subscription.id ∉ tables.uncommitted))
  | .audited _ => inferInstanceAs (Decidable True)

def CallInOrder (tables : LifecycleTables) : LifecycleCall → Prop
  | .plan call => call.stage.InOrder call.now
  | .event call => EventInOrder tables call
  | .tick tick => tick.stage.InOrder tables

instance CallInOrder.decidable (tables : LifecycleTables) : (call : LifecycleCall) → Decidable (CallInOrder tables call)
  | .plan call => inferInstanceAs (Decidable (call.stage.InOrder call.now))
  | .event call => inferInstanceAs (Decidable (EventInOrder tables call))
  | .tick tick => inferInstanceAs (Decidable (tick.stage.InOrder tables))

/-- The condition on a part of a call. -/
def InOrder (state : Served LifecycleTables LifecycleCall) : LifecyclePart → Prop
  | .arrive _ _ => True
  | .advance number _ => ∀ call ∈ state.held number, CallInOrder state.tables call

instance InOrder.decidable (state : Served LifecycleTables LifecycleCall) : (part : LifecyclePart) → Decidable (InOrder state part)
  | .arrive _ _ => inferInstanceAs (Decidable True)
  | .advance number _ => inferInstanceAs (Decidable (∀ call ∈ state.held number, CallInOrder state.tables call))

/-- The window that is recorded on a subscription is a month. -/
def Subscription.HasMonth (subscription : Subscription) : Prop :=
  ∀ stop ∈ subscription.currentPeriodEnd, ∃ start ∈ subscription.currentPeriodStart,
    stop.date.months = start.date.months + 1

section Windows

variable {subscription : Subscription} {period : BillingPeriod} {start stop now : Datetime}

theorem IsMonth.months (month : IsMonth anchor k period) : period.stop.date.months = period.start.date.months + 1 := by
  have starts := (addMonths_eq_some.mp month.1).1
  have stops := (addMonths_eq_some.mp month.2).1
  omega

/-- The window that `current_period` finds is the recorded one, or a month from its anchor. -/
theorem currentPeriod_cases (resolves : currentPeriod subscription now = some period) :
    (∃ start ∈ subscription.currentPeriodStart, ∃ stop ∈ subscription.currentPeriodEnd,
      start ≤ now ∧ now < stop ∧ period = ⟨start, stop⟩) ∨
    resolvePeriod subscription.anchor now = some period := by
  rw [currentPeriod] at resolves
  split at resolves
  next start stop starts stops =>
    split at resolves
    next within => exact .inl ⟨start, starts, stop, stops, within.1, within.2, (Option.some.inj resolves).symm⟩
    next => exact .inr (by rw [Subscription.anchor, starts]; exact resolves)
  next start starts _ => exact .inr (by rw [Subscription.anchor, starts]; exact resolves)
  next starts => exact .inr (by rw [Subscription.anchor, starts]; exact resolves)

/-- The period of an instant in the recorded window is that window. -/
theorem currentPeriod_of_inWindow (within : subscription.InWindow now) (resolves : currentPeriod subscription now = some period) :
    period.stop ∈ subscription.currentPeriodEnd := by
  obtain ⟨start, starts, stop, stops, begun, before⟩ := within
  rw [Option.mem_def] at starts stops
  simp only [currentPeriod, starts, stops, if_pos (And.intro begun before)] at resolves
  rw [← Option.some.inj resolves]
  exact stops

theorem hasMonth_persist (month : subscription.HasMonth) (resolves : currentPeriod subscription now = some period) :
    (subscription.persist period).HasMonth := by
  rintro _ ⟨rfl⟩
  refine ⟨period.start, rfl, ?_⟩
  rcases currentPeriod_cases resolves with ⟨start, starts, stop, stops, _, _, rfl⟩ | resolved
  · obtain ⟨other, others, months⟩ := month stop stops
    rw [Option.mem_unique starts others]
    exact months
  · exact (isMonth_of_resolvePeriod resolved).months

/-- A window that is written back ends no earlier, but for a shorter month before the recorded start. -/
theorem stop_le_of_currentPeriod (month : subscription.HasMonth) (keeps : subscription.KeepsEnd now)
    (resolves : currentPeriod subscription now = some period) (stops : subscription.currentPeriodEnd = some stop) :
    stop ≤ period.stop := by
  obtain ⟨start, starts, months⟩ := month stop stops
  rw [Option.mem_def] at starts
  rcases currentPeriod_cases resolves with ⟨_, _, other, otherStops, _, _, rfl⟩ | resolved
  · rw [stops] at otherStops
    exact (Option.some.inj otherStops).le
  · have anchored : subscription.anchor = start := by rw [Subscription.anchor, starts, Option.getD_some]
    rw [anchored] at resolved
    have isMonth := isMonth_of_resolvePeriod resolved
    by_cases begun : start ≤ now
    · by_cases within : now < stop
      · simp only [currentPeriod, starts, stops, if_pos (And.intro begun within)] at resolves
        exact (congrArg BillingPeriod.stop (Option.some.inj resolves)).le
      · by_cases walked : monthsSince start now ≤ maxPeriodsForward
        · rw [Nat.min_eq_right walked] at isMonth
          have contains := (isMonth.contains_iff begun).mpr rfl
          exact (not_lt.mp within).trans contains.2.le
        · rw [Nat.min_eq_left (by omega)] at isMonth
          have far := (addMonths_eq_some.mp isMonth.2).1
          rw [maxPeriodsForward] at far
          exact (lt_of_months_lt (by omega)).le
    · have early : monthsSince start now = 0 := monthsSince_of_le (not_le.mp begun).le
      rw [early, Nat.min_zero] at isMonth
      exact (keeps start starts stop stops).resolve_left begun period.stop isMonth.2

end Windows

/-- What holds of a subscription between the parts of the calls. -/
structure RowInv (tables : LifecycleTables) (row : Subscription) : Prop where
  known : row.id < tables.nextId
  month : row.HasMonth
  due : row.status = .pastDue → ∀ due ∈ tables.fellDue row.id, ∃ stop ∈ row.currentPeriodEnd, due ≤ stop

/-- The trail of the subscription of an id, with the status that its committed changes have led to. -/
structure Trailed (tables : LifecycleTables) (id : Nat) (last : SubscriptionStatus) : Prop where
  chained : ∃ first, StatusesChained first (tables.committedOf id) last
  current : ∀ row ∈ tables.subscriptions, row.id = id → row.status = last
  quiet : id ∉ tables.uncommitted → tables.trailOf id = tables.committedOf id
  ahead : id ∈ tables.uncommitted → ∃ status, tables.trailOf id = tables.committedOf id ++ [⟨id, last, status⟩]

structure LifecycleInv (graceDays : Nat) (tables : LifecycleTables) : Prop where
  ids : (tables.subscriptions.map (·.id)).Nodup
  rows : ∀ row ∈ tables.subscriptions, RowInv tables row
  trailed : ∀ id, ∃ last, Trailed tables id last
  known : ∀ entry ∈ tables.trail, entry.subscriptionId < tables.nextId
  grace : ∀ entry ∈ tables.dunned, ∀ due ∈ entry.dueEnd, due.stamp + graceDays * microsPerDay ≤ entry.now.stamp

/-- The subscription that a call holds locked. -/
def LifecycleCall.locks : LifecycleCall → Option Subscription
  | .plan ⟨_, _, .locked subscription _ _⟩ => some subscription
  | .tick ⟨_, _, .canceling subscription⟩ => some subscription
  | .tick ⟨_, _, .audited subscription⟩ => some subscription
  | _ => none

/-- The change that a call has audited and not committed. -/
def LifecycleCall.pending : LifecycleCall → Option StatusChange
  | .event ⟨id, previous, status, true⟩ => some ⟨id, previous, status⟩
  | .tick ⟨_, _, .audited subscription⟩ => some ⟨subscription.id, subscription.status, .canceled⟩
  | _ => none

/-- What a call has seen for itself. -/
def LifecycleCall.Facts (graceDays : Nat) : LifecycleCall → Prop
  | .plan ⟨_, now, .locked subscription _ change⟩ => currentPeriod subscription now = some change.period
  | .event call => call.previous ≠ call.status
  | .tick ⟨now, _, .canceling subscription⟩ =>
    subscription.status = .pastDue ∧ Overdue graceDays now subscription.currentPeriodEnd
  | .tick ⟨now, _, .audited subscription⟩ =>
    subscription.status = .pastDue ∧ Overdue graceDays now subscription.currentPeriodEnd
  | _ => True

/-- What a call in flight relies on. -/
structure CallHeld (graceDays : Nat) (tables : LifecycleTables) (call : LifecycleCall) : Prop where
  locks : ∀ row ∈ call.locks, tables.locked ∧ row ∈ tables.subscriptions ∧ row.status ≠ .canceled
  pending : ∀ entry ∈ call.pending, entry.subscriptionId ∈ tables.uncommitted ∧
    tables.trailOf entry.subscriptionId = tables.committedOf entry.subscriptionId ++ [entry]
  facts : call.Facts graceDays

/-- One call at most holds the live subscription locked, and one at most has audited a change of a subscription. -/
structure Apart (first second : LifecycleCall) : Prop where
  locks : first.locks = none ∨ second.locks = none
  pending : ∀ entry ∈ first.pending, ∀ other ∈ second.pending, entry.subscriptionId ≠ other.subscriptionId

/-- A subscription as it is after a write that leaves its status alone. -/
structure Subscription.Renews (row old : Subscription) : Prop where
  id : row.id = old.id
  status : row.status = old.status
  month : row.HasMonth
  keepsEnd : old.status = .pastDue → ∀ stop ∈ old.currentPeriodEnd, ∃ later ∈ row.currentPeriodEnd, stop ≤ later

section Steps

variable {graceDays : Nat} {tables after : LifecycleTables} {call other : LifecycleCall} {entry : StatusChange}
  {row subscription : Subscription} {last status : SubscriptionStatus} {mine : Option LifecycleCall}

theorem Apart.symm {first second : LifecycleCall} (apart : Apart first second) : Apart second first :=
  ⟨apart.locks.symm, fun entry mine other theirs => (apart.pending other theirs entry mine).symm⟩

theorem renews_self (month : row.HasMonth) : row.Renews row := ⟨rfl, rfl, month, fun _ stop stops => ⟨stop, stops, le_rfl⟩⟩

theorem RowInv.renew (inv : RowInv tables row) {later : Subscription} (renews : later.Renews row)
    (nextId : tables.nextId ≤ after.nextId) (fellDue : after.fellDue row.id = tables.fellDue row.id) : RowInv after later := by
  have known := inv.known
  refine ⟨?_, renews.month, fun status due found => ?_⟩
  · rw [renews.id]
    omega
  · rw [renews.status] at status
    rw [renews.id, fellDue] at found
    obtain ⟨stop, stops, before⟩ := inv.due status due found
    obtain ⟨stop', stops', no_earlier⟩ := renews.keepsEnd status stop stops
    exact ⟨stop', stops', before.trans no_earlier⟩

/-- The trail of an id is left alone by what neither audits nor commits a change of it. -/
theorem Trailed.keep {id : Nat} (trailed : Trailed tables id last) (trail : after.trailOf id = tables.trailOf id)
    (committed : after.committedOf id = tables.committedOf id) (uncommitted : id ∈ after.uncommitted ↔ id ∈ tables.uncommitted)
    (current : ∀ row ∈ after.subscriptions, row.id = id → row.status = last) : Trailed after id last := by
  refine ⟨?_, current, fun none => ?_, fun some => ?_⟩
  · rw [committed]
    exact trailed.chained
  · rw [trail, committed]
    exact trailed.quiet (mt uncommitted.mpr none)
  · rw [trail, committed]
    exact trailed.ahead (uncommitted.mp some)

/-- The invariant is kept by what audits and commits nothing, and leaves the statuses alone. -/
theorem LifecycleInv.rewrite (inv : LifecycleInv graceDays tables) (ids : (after.subscriptions.map (·.id)).Nodup)
    (rows : ∀ row ∈ after.subscriptions, ∃ old ∈ tables.subscriptions, row.Renews old) (trail : after.trail = tables.trail)
    (committed : after.committed = tables.committed) (uncommitted : after.uncommitted = tables.uncommitted)
    (fellDue : after.fellDue = tables.fellDue) (dunned : after.dunned = tables.dunned) (nextId : after.nextId = tables.nextId) :
    LifecycleInv graceDays after := by
  constructor
  case ids => exact ids
  case rows =>
    intro row mem
    obtain ⟨old, from_, renews⟩ := rows row mem
    exact (inv.rows old from_).renew renews nextId.ge (by rw [fellDue])
  case trailed =>
    intro id
    obtain ⟨last, trailed⟩ := inv.trailed id
    refine ⟨last, trailed.keep ?_ ?_ (by rw [uncommitted]) fun row mem same => ?_⟩
    · rw [LifecycleTables.trailOf, LifecycleTables.trailOf, trail]
    · rw [LifecycleTables.committedOf, LifecycleTables.committedOf, committed]
    · obtain ⟨old, from_, renews⟩ := rows row mem
      rw [renews.status]
      exact trailed.current old from_ (renews.id.symm.trans same)
  case known =>
    rw [trail, nextId]
    exact inv.known
  case grace =>
    rw [dunned]
    exact inv.grace

/-- The invariant does not see the plans, the settings, the lock and the clock. -/
theorem LifecycleInv.frame (inv : LifecycleInv graceDays tables) (subscriptions : after.subscriptions = tables.subscriptions)
    (trail : after.trail = tables.trail) (committed : after.committed = tables.committed)
    (uncommitted : after.uncommitted = tables.uncommitted) (fellDue : after.fellDue = tables.fellDue)
    (dunned : after.dunned = tables.dunned) (nextId : after.nextId = tables.nextId) : LifecycleInv graceDays after := by
  refine inv.rewrite ?_ ?_ trail committed uncommitted fellDue dunned nextId
  · rw [subscriptions]
    exact inv.ids
  · rw [subscriptions]
    exact fun row mem => ⟨row, mem, renews_self (inv.rows row mem).month⟩

/-- What a call relies on is kept by what leaves the subscription that it locks and the trail of the one that it audits
alone. -/
theorem CallHeld.keep (held : CallHeld graceDays tables call)
    (locks : ∀ row ∈ call.locks, tables.locked → row ∈ tables.subscriptions → row.status ≠ .canceled →
      after.locked ∧ row ∈ after.subscriptions)
    (pending : ∀ entry ∈ call.pending, entry.subscriptionId ∈ tables.uncommitted →
      entry.subscriptionId ∈ after.uncommitted ∧ after.trailOf entry.subscriptionId = tables.trailOf entry.subscriptionId ∧
        after.committedOf entry.subscriptionId = tables.committedOf entry.subscriptionId) :
    CallHeld graceDays after call := by
  refine ⟨fun row locked => ?_, fun entry own => ?_, held.facts⟩
  · obtain ⟨taken, mem, live⟩ := held.locks row locked
    obtain ⟨still, there⟩ := locks row locked taken mem live
    exact ⟨still, there, live⟩
  · obtain ⟨audited, trail⟩ := held.pending entry own
    obtain ⟨still, sameTrail, sameCommitted⟩ := pending entry own audited
    rw [sameTrail, sameCommitted]
    exact ⟨still, trail⟩

/-- What is left alone, but for the lock that some other call holds. -/
theorem CallHeld.frame (held : CallHeld graceDays tables call) (unlocked : call.locks = none ∨
      (tables.locked → after.locked) ∧ ∀ row ∈ tables.subscriptions, row.status ≠ .canceled → row ∈ after.subscriptions)
    (trail : after.trail = tables.trail) (committed : after.committed = tables.committed)
    (uncommitted : after.uncommitted = tables.uncommitted) : CallHeld graceDays after call := by
  refine held.keep (fun row locked taken mem live => ?_) fun entry own audited => ?_
  · rcases unlocked with none | ⟨still, there⟩
    · rw [none] at locked
      cases locked
    · exact ⟨still taken, there row mem live⟩
  · rw [LifecycleTables.trailOf, LifecycleTables.trailOf, LifecycleTables.committedOf, LifecycleTables.committedOf, trail, committed,
      uncommitted]
    exact ⟨audited, rfl, rfl⟩

theorem trailOf_audit (id : Nat) : (tables.audit entry).trailOf id =
    if entry.subscriptionId = id then tables.trailOf id ++ [entry] else tables.trailOf id := by
  rw [LifecycleTables.trailOf, LifecycleTables.trailOf, LifecycleTables.audit, List.filter_append, List.filter_singleton]
  by_cases own : entry.subscriptionId = id <;> simp [own]

/-- An audit row that starts at the status of the subscription keeps the invariant. -/
theorem LifecycleInv.audit (inv : LifecycleInv graceDays tables) (known : entry.subscriptionId < tables.nextId)
    (alone : entry.subscriptionId ∉ tables.uncommitted)
    (starts : ∀ last, Trailed tables entry.subscriptionId last → entry.fromStatus = last) :
    LifecycleInv graceDays (tables.audit entry) := by
  constructor
  case ids => exact inv.ids
  case rows => exact fun row mem => (inv.rows row mem).renew (renews_self (inv.rows row mem).month) le_rfl rfl
  case trailed =>
    intro id
    obtain ⟨last, trailed⟩ := inv.trailed id
    by_cases own : entry.subscriptionId = id
    · subst own
      have from_ := starts last trailed
      refine ⟨last, trailed.chained, trailed.current, fun absent => absurd ?_ absent, fun _ => ⟨entry.toStatus, ?_⟩⟩
      · exact List.mem_append_right _ (List.mem_singleton.mpr rfl)
      · rw [trailOf_audit, if_pos rfl, trailed.quiet alone, ← from_]
        rfl
    · refine ⟨last, trailed.keep ?_ rfl ?_ trailed.current⟩
      · rw [trailOf_audit, if_neg own]
      · have apart : id ≠ entry.subscriptionId := fun same => own same.symm
        simp only [LifecycleTables.audit, List.mem_append, List.mem_singleton, apart, or_false]
  case known =>
    intro row listed
    rcases List.mem_append.mp listed with earlier | new
    · exact inv.known row earlier
    · rw [List.mem_singleton.mp new]
      exact known
  case grace => exact inv.grace

/-- What other calls rely on does not see an audit row of a subscription that has no change on its way. -/
theorem CallHeld.audit (held : CallHeld graceDays tables call) (alone : entry.subscriptionId ∉ tables.uncommitted) :
    CallHeld graceDays (tables.audit entry) call := by
  refine held.keep (fun row _ taken mem _ => ⟨taken, mem⟩) fun mine _ audited => ?_
  have apart : entry.subscriptionId ≠ mine.subscriptionId := fun same => alone (same ▸ audited)
  exact ⟨List.mem_append_left _ audited, by rw [trailOf_audit, if_neg apart], rfl⟩

/-- The audit row is the one that is ahead of the committed changes. -/
theorem ahead_audit (inv : LifecycleInv graceDays tables) (alone : entry.subscriptionId ∉ tables.uncommitted) :
    entry.subscriptionId ∈ (tables.audit entry).uncommitted ∧
      (tables.audit entry).trailOf entry.subscriptionId = (tables.audit entry).committedOf entry.subscriptionId ++ [entry] := by
  obtain ⟨last, trailed⟩ := inv.trailed entry.subscriptionId
  refine ⟨List.mem_append_right _ (List.mem_singleton.mpr rfl), ?_⟩
  rw [trailOf_audit, if_pos rfl, trailed.quiet alone]
  rfl

theorem trailOf_commitStatus (id : Nat) : (tables.commitStatus subscription status).trailOf id = tables.trailOf id := by
  rw [LifecycleTables.commitStatus]
  split <;> rfl

theorem mem_uncommitted_commitStatus {id : Nat} : id ∈ (tables.commitStatus subscription status).uncommitted ↔
    id ∈ tables.uncommitted ∧ id ≠ subscription.id := by
  rw [LifecycleTables.commitStatus]
  split <;> simp [LifecycleTables.giveUp]

theorem committedOf_commitStatus (moves : subscription.status ≠ status) (id : Nat) :
    (tables.commitStatus subscription status).committedOf id =
      if subscription.id = id then tables.committedOf id ++ [⟨subscription.id, subscription.status, status⟩]
      else tables.committedOf id := by
  rw [LifecycleTables.commitStatus, if_neg moves, LifecycleTables.committedOf, LifecycleTables.committedOf, List.filter_append,
    List.filter_singleton]
  by_cases own : subscription.id = id <;> simp [own]

/-- The rows after a commit. -/
theorem mem_commitStatus (moves : subscription.status ≠ status)
    (mem : row ∈ (tables.commitStatus subscription status).subscriptions) :
    ∃ old ∈ tables.subscriptions, old.id = subscription.id ∧ row = { old with status := status } ∨
      old.id ≠ subscription.id ∧ row = old := by
  rw [LifecycleTables.commitStatus, if_neg moves] at mem
  exact mem_changeRow mem

/-- A commit of the change that is audited keeps the invariant, where it makes no subscription past due outside the window
that is recorded on it. -/
theorem LifecycleInv.commitStatus (inv : LifecycleInv graceDays tables) (mem : subscription ∈ tables.subscriptions)
    (moves : subscription.status ≠ status)
    (ahead : tables.trailOf subscription.id =
      tables.committedOf subscription.id ++ [⟨subscription.id, subscription.status, status⟩])
    (within : status = .pastDue → subscription.InWindow tables.clock) :
    LifecycleInv graceDays (tables.commitStatus subscription status) := by
  have unique : ∀ old ∈ tables.subscriptions, old.id = subscription.id → old = subscription := fun old also same =>
    List.inj_on_of_nodup_map inv.ids also mem same
  have nextId : (tables.commitStatus subscription status).nextId = tables.nextId := by
    rw [LifecycleTables.commitStatus, if_neg moves]
    rfl
  have fellDue : (tables.commitStatus subscription status).fellDue = if status = .pastDue then
      Function.update tables.fellDue subscription.id ((currentPeriod subscription tables.clock).map (·.stop))
      else tables.fellDue := by
    rw [LifecycleTables.commitStatus, if_neg moves]
  constructor
  case ids =>
    rw [LifecycleTables.commitStatus, if_neg moves]
    have keeps : ∀ row : Subscription, ({ row with status := status } : Subscription).id = row.id := fun _ => rfl
    rw [map_ident_changeRow keeps]
    exact inv.ids
  case rows =>
    intro row inRows
    obtain ⟨old, from_, ⟨same, rfl⟩ | ⟨other, rfl⟩⟩ := mem_commitStatus moves inRows
    · obtain rfl := unique old from_ same
      have before := inv.rows old from_
      refine ⟨by rw [nextId]; exact before.known, before.month, fun due stop found => ?_⟩
      rw [fellDue, if_pos due, Function.update_self, Option.mem_map] at found
      obtain ⟨period, resolves, rfl⟩ := found
      exact ⟨period.stop, currentPeriod_of_inWindow (within due) resolves, le_rfl⟩
    · have before := inv.rows row from_
      refine before.renew (renews_self before.month) nextId.ge ?_
      rw [fellDue]
      split
      · exact Function.update_of_ne other _ _
      · rfl
  case trailed =>
    intro id
    obtain ⟨last, trailed⟩ := inv.trailed id
    by_cases own : subscription.id = id
    · subst own
      have starts := trailed.current subscription mem rfl
      obtain ⟨first, chained⟩ := trailed.chained
      refine ⟨status, ⟨first, ?_⟩, fun row inRows same => ?_, fun _ => ?_, fun still => ?_⟩
      · rw [committedOf_commitStatus moves, if_pos rfl]
        exact Chained.append chained starts
      · obtain ⟨old, from_, ⟨_, rfl⟩ | ⟨other, rfl⟩⟩ := mem_commitStatus moves inRows
        · rfl
        · exact absurd same other
      · rw [trailOf_commitStatus, committedOf_commitStatus moves, if_pos rfl, ahead]
      · exact absurd rfl (mem_uncommitted_commitStatus.mp still).2
    · refine ⟨last, trailed.keep (trailOf_commitStatus id) ?_ ?_ fun row inRows same => ?_⟩
      · rw [committedOf_commitStatus moves, if_neg own]
      · rw [mem_uncommitted_commitStatus, and_iff_left (Ne.symm own)]
      · obtain ⟨old, from_, ⟨same', rfl⟩ | ⟨_, rfl⟩⟩ := mem_commitStatus moves inRows
        · exact absurd (same'.symm.trans same) own
        · exact trailed.current row from_ same
  case known =>
    rw [nextId, LifecycleTables.commitStatus, if_neg moves]
    exact inv.known
  case grace =>
    rw [LifecycleTables.commitStatus, if_neg moves]
    exact inv.grace

/-- What other calls rely on does not see a commit of a subscription that they neither hold locked nor have audited. -/
theorem CallHeld.commitStatus (held : CallHeld graceDays tables call) (moves : subscription.status ≠ status)
    (unlocked : ∀ row ∈ call.locks, tables.locked → row.status ≠ .canceled → row ∈ tables.subscriptions →
      row.id ≠ subscription.id)
    (apart : ∀ entry ∈ call.pending, entry.subscriptionId ≠ subscription.id) :
    CallHeld graceDays (tables.commitStatus subscription status) call := by
  refine held.keep (fun row locked taken mem live => ?_) fun entry own audited => ?_
  · have other := unlocked row locked taken live mem
    rw [LifecycleTables.commitStatus, if_neg moves]
    exact ⟨taken, mem_changeRow_of_ne mem other⟩
  · have other := apart entry own
    refine ⟨mem_uncommitted_commitStatus.mpr ⟨audited, other⟩, trailOf_commitStatus _, ?_⟩
    rw [committedOf_commitStatus moves, if_neg other.symm]

/-- A call that holds nothing next to the others. -/
theorem respects_bare {next : Option LifecycleCall} (inv : LifecycleInv graceDays after)
    (others : ∀ other, CallHeld graceDays tables other → (∀ own ∈ mine, Apart own other) → CallHeld graceDays after other)
    (bare : ∀ call ∈ next, call.locks = none ∧ call.pending = none) (facts : ∀ call ∈ next, call.Facts graceDays) :
    Service.Respects (LifecycleInv graceDays) (CallHeld graceDays) Apart tables mine (after, next) := by
  refine ⟨inv, others, fun call own => ?_, fun call own other _ _ => ?_⟩
  · obtain ⟨noLock, noPending⟩ := bare call own
    refine ⟨?_, ?_, facts call own⟩
    · rw [noLock]
      simp
    · rw [noPending]
      simp
  · obtain ⟨noLock, noPending⟩ := bare call own
    refine ⟨.inl noLock, ?_⟩
    rw [noPending]
    simp

/-- A call that waits. -/
theorem respects_waits (inv : LifecycleInv graceDays tables) (held : CallHeld graceDays tables call) :
    Service.Respects (LifecycleInv graceDays) (CallHeld graceDays) Apart tables (some call) (tables, some call) := by
  refine ⟨inv, fun _ kept _ => kept, fun own same => ?_, fun own same other _ apart => ?_⟩
  · rw [← Option.some.inj same]
    exact held
  · rw [← Option.some.inj same]
    exact apart call rfl

/-- A call that locks the live subscription. -/
theorem respects_locks (inv : LifecycleInv graceDays tables) (free : tables.locked = false) (locks : call.locks = some row)
    (mem : row ∈ tables.subscriptions) (live : row.status ≠ .canceled) (pending : call.pending = none)
    (facts : call.Facts graceDays) :
    Service.Respects (LifecycleInv graceDays) (CallHeld graceDays) Apart tables mine
      (tables.withBilling { tables.toBillingTables with locked := true }, some call) := by
  have unlocked : ∀ other, CallHeld graceDays tables other → other.locks = none := by
    intro other kept
    refine Option.eq_none_iff_forall_not_mem.mpr fun taken theirs => ?_
    have holds := (kept.locks taken theirs).1
    rw [free] at holds
    cases holds
  refine ⟨inv.frame rfl rfl rfl rfl rfl rfl rfl, fun other kept _ => kept.frame (.inl (unlocked other kept)) rfl rfl rfl, ?_, ?_⟩
  · rintro _ ⟨rfl⟩
    refine ⟨fun own same => ?_, ?_, facts⟩
    · rw [locks] at same
      rw [← Option.some.inj same]
      exact ⟨rfl, mem, live⟩
    · rw [pending]
      simp
  · rintro _ ⟨rfl⟩ other kept _
    refine ⟨.inr (unlocked other kept), ?_⟩
    rw [pending]
    simp

/-- A subscription that is created is live and known from now on. -/
theorem LifecycleInv.ensureSubscription (inv : LifecycleInv graceDays tables) (planCode : String) :
    LifecycleInv graceDays (tables.ensureSubscription planCode) := by
  rw [LifecycleTables.ensureSubscription]
  split
  next => exact inv
  next =>
    split
    next => exact inv
    next plan _ =>
      split
      next => exact inv
      next stop bounds =>
        have kept : ∀ row ∈ (tables.clearStaleCanceledSubscription plan.id).subscriptions, row ∈ tables.subscriptions :=
          fun row mem => (List.mem_filter.mp mem).1
        constructor
        case ids =>
          rw [List.map_append, List.nodup_append]
          refine ⟨inv.ids.sublist (List.filter_sublist.map _), List.nodup_singleton _, fun id old other new => ?_⟩
          obtain ⟨row, mem, rfl⟩ := List.mem_map.mp old
          have known := (inv.rows row (kept row mem)).known
          rw [List.mem_singleton.mp new]
          simp only
          omega
        case rows =>
          intro row mem
          rcases List.mem_append.mp mem with old | new
          · have before := inv.rows row (kept row old)
            exact before.renew (renews_self before.month) (Nat.le_succ _) rfl
          · obtain rfl := List.mem_singleton.mp new
            refine ⟨Nat.lt_succ_self _, ?_, fun due => by cases due⟩
            rintro _ ⟨rfl⟩
            exact ⟨tables.clock, rfl, (addMonths_eq_some.mp bounds).1⟩
        case trailed =>
          intro id
          obtain ⟨last, trailed⟩ := inv.trailed id
          by_cases fresh : id = tables.nextId
          · subst fresh
            have untrailed : tables.trailOf tables.nextId = [] := by
              refine List.filter_eq_nil_iff.mpr fun entry listed => ?_
              have known := inv.known entry listed
              simp only [decide_eq_true_eq]
              omega
            have quiet : tables.nextId ∉ tables.uncommitted := by
              intro audited
              obtain ⟨_, ahead⟩ := trailed.ahead audited
              rw [untrailed] at ahead
              simp at ahead
            have uncommitted : tables.committedOf tables.nextId = [] := (trailed.quiet quiet).symm.trans untrailed
            refine ⟨.active, ⟨.active, ?_⟩, fun row mem same => ?_, fun _ => trailed.quiet quiet, fun audited => absurd audited quiet⟩
            · show StatusesChained _ (tables.committedOf tables.nextId) _
              rw [uncommitted]
              rfl
            · rcases List.mem_append.mp mem with old | new
              · have known := (inv.rows row (kept row old)).known
                omega
              · rw [List.mem_singleton.mp new]
          · refine ⟨last, trailed.keep rfl rfl Iff.rfl fun row mem same => ?_⟩
            rcases List.mem_append.mp mem with old | new
            · exact trailed.current row (kept row old) same
            · rw [List.mem_singleton.mp new] at same
              exact absurd same.symm fresh
        case known => exact fun entry listed => (inv.known entry listed).trans (Nat.lt_succ_self _)
        case grace => exact inv.grace

/-- A subscription is created where none is live, so no call holds one locked. -/
theorem CallHeld.ensureSubscription (held : CallHeld graceDays tables call) (planCode : String) :
    CallHeld graceDays (tables.ensureSubscription planCode) call := by
  rw [LifecycleTables.ensureSubscription]
  split
  next => exact held
  next none =>
    split
    next => exact held
    next =>
      split
      next => exact held
      next =>
        refine held.frame (.inr ⟨id, fun row mem live => ?_⟩) rfl rfl rfl
        have canceled := List.find?_eq_none.mp none row mem
        exact absurd (decide_eq_true live) canceled

theorem LifecycleInv.bindExternal (inv : LifecycleInv graceDays tables) (id : Nat) (external : String) :
    LifecycleInv graceDays (tables.bindExternal id external) := by
  rw [LifecycleTables.bindExternal]
  split
  next => exact inv
  next =>
    have keeps : ∀ row : Subscription, ({ row with externalSubscriptionId := some external } : Subscription).id = row.id :=
      fun _ => rfl
    refine inv.rewrite ?_ (fun row mem => ?_) rfl rfl rfl rfl rfl rfl
    · rw [map_ident_changeRow keeps]
      exact inv.ids
    · obtain ⟨old, from_, ⟨_, rfl⟩ | ⟨_, rfl⟩⟩ := mem_changeRow mem
      · exact ⟨old, from_, rfl, rfl, (inv.rows old from_).month, fun _ stop stops => ⟨stop, stops, le_rfl⟩⟩
      · exact ⟨row, from_, renews_self (inv.rows row from_).month⟩

theorem CallHeld.bindExternal (held : CallHeld graceDays tables call) (id : Nat) (external : String) :
    CallHeld graceDays (tables.bindExternal id external) call := by
  rw [LifecycleTables.bindExternal]
  split
  next => exact held
  next free =>
    refine held.keep (fun row _ taken _ _ => absurd taken free) fun entry _ audited => ⟨audited, rfl, rfl⟩

/-- A plan change only reads until its lock. -/
theorem arrive_reads (billing : BillingTables) (arrival : PlanArrival) :
    (billing.arrive arrival).1 = billing ∧
      ∀ call ∈ (billing.arrive arrival).2, ∃ settings, call.stage = .peeked settings := by
  rw [BillingTables.arrive]
  split
  next => simp
  next =>
    split
    next => simp
    next =>
      split
      next => simp
      next =>
        refine ⟨rfl, ?_⟩
        rintro _ ⟨rfl⟩
        exact ⟨_, rfl⟩

theorem receive_respects (inv : LifecycleInv graceDays tables) (arrival : LifecycleArrival) :
    Service.Respects (LifecycleInv graceDays) (CallHeld graceDays) Apart tables none (tables.receive graceDays arrival) := by
  cases arrival with
  | passTime later =>
    refine .ended (inv.frame rfl rfl rfl rfl rfl rfl rfl) fun other held => ?_
    exact held.frame (.inr ⟨id, fun _ mem _ => mem⟩) rfl rfl rfl
  | ensureSubscription planCode =>
    exact .ended (inv.ensureSubscription planCode) fun _ held => held.ensureSubscription planCode
  | bindExternal id external => exact .ended (inv.bindExternal id external) fun _ held => held.bindExternal id external
  | changePlan newPlanCode =>
    obtain ⟨same, peeks⟩ := arrive_reads tables.toBillingTables ⟨newPlanCode, tables.clock⟩
    simp only [LifecycleTables.receive, same]
    refine respects_bare inv (fun _ held _ => held) (fun call own => ?_) fun call own => ?_
    all_goals
      obtain ⟨⟨newPlan, now, stage⟩, arrived, rfl⟩ := Option.mem_map.mp own
      obtain ⟨settings, rfl : stage = _⟩ := peeks _ arrived
    · exact ⟨rfl, rfl⟩
    · trivial
  | applyBillingEvent event =>
    have unlike : ∀ call ∈ tables.readEvent event, call.previous ≠ call.status ∧ call.audited = false := by
      rw [LifecycleTables.readEvent]
      split
      next =>
        split
        next => simp
        next =>
          split
          next =>
            split
            next => simp
            next moves =>
              rintro _ ⟨rfl⟩
              exact ⟨moves, rfl⟩
          next => simp
      next => simp
    refine respects_bare inv (fun _ held _ => held) (fun call own => ?_) fun call own => ?_
    all_goals
      obtain ⟨⟨id, previous, status, audited⟩, arrived, rfl⟩ := Option.mem_map.mp own
      obtain ⟨moves, rfl : audited = false⟩ := unlike _ arrived
    · exact ⟨rfl, rfl⟩
    · exact moves
  | runDunningOnce =>
    have selects : ∀ tick ∈ tables.selectDue graceDays, tick.stage = .selected := by
      rw [LifecycleTables.selectDue]
      split
      next => simp
      next =>
        rintro _ ⟨rfl⟩
        rfl
    refine respects_bare inv (fun _ held _ => held) (fun call own => ?_) fun call own => ?_
    all_goals
      obtain ⟨⟨now, dueIds, stage⟩, arrived, rfl⟩ := Option.mem_map.mp own
      obtain rfl : stage = .selected := selects _ arrived
    · exact ⟨rfl, rfl⟩
    · trivial

/-- What the locked read of a plan change can do. -/
theorem lock_cases (billing : BillingTables) (call : PlanCall) :
    billing.lock call = (billing, some call) ∨ billing.lock call = (billing, none) ∨
      ∃ subscription currentPlan change, billing.locked = false ∧ billing.live? = some subscription ∧
        currentPeriod subscription call.now = some change.period ∧
        billing.lock call = ({ billing with locked := true }, some { call with stage := .locked subscription currentPlan change }) := by
  rw [BillingTables.lock]
  split
  next => exact .inl rfl
  next free =>
    split
    next => exact .inr (.inl rfl)
    next subscription currentPlan active =>
      split
      next => exact .inr (.inl rfl)
      next =>
        split
        next => exact .inr (.inl rfl)
        next change prices =>
          obtain ⟨period, resolves, made⟩ := Option.bind_eq_some_iff.mp prices
          obtain rfl := Option.some.inj made
          exact .inr (.inr ⟨subscription, currentPlan, _, Bool.eq_false_iff.mpr free, (activeSubscription_eq_some.mp active).1,
            resolves, rfl⟩)

/-- The write of a plan change keeps the statuses, and the end of a past-due subscription. -/
theorem LifecycleInv.writePlan (inv : LifecycleInv graceDays tables) {newPlan : Plan} {change : PlanChange} {now : Datetime}
    (mem : subscription ∈ tables.subscriptions) (resolves : currentPeriod subscription now = some change.period)
    (keepsEnd : subscription.status = .pastDue → subscription.KeepsEnd now) :
    LifecycleInv graceDays
      (tables.withBilling { tables.toBillingTables.write subscription newPlan change with locked := false }) := by
  have keeps : ∀ row : Subscription, (row.repoint change.period newPlan.id).id = row.id := fun _ => rfl
  have kept : ∀ row ∈ (tables.clearStaleCanceledSubscription newPlan.id).subscriptions, row ∈ tables.subscriptions :=
    fun row mem => (List.mem_filter.mp mem).1
  refine inv.rewrite ?_ (fun row inRows => ?_) rfl rfl rfl rfl rfl rfl
  · refine Eq.mpr (congrArg List.Nodup (map_ident_changeRow keeps subscription.id)) ?_
    exact inv.ids.sublist (List.filter_sublist.map _)
  · obtain ⟨old, cleared, ⟨same, rfl⟩ | ⟨_, rfl⟩⟩ := mem_changeRow inRows
    · obtain rfl : old = subscription := List.inj_on_of_nodup_map inv.ids (kept old cleared) mem same
      have month := (inv.rows old mem).month
      refine ⟨old, mem, rfl, rfl, hasMonth_persist month resolves, fun due stop stops => ⟨change.period.stop, rfl, ?_⟩⟩
      exact stop_le_of_currentPeriod month (keepsEnd due) resolves stops
    · exact ⟨row, kept row cleared, renews_self (inv.rows row (kept row cleared)).month⟩

theorem plan_respects (inv : LifecycleInv graceDays tables) {call : PlanCall}
    (held : CallHeld graceDays tables (.plan call)) (inOrder : call.stage.InOrder call.now) (created : Option ProvisionedIds) :
    Service.Respects (LifecycleInv graceDays) (CallHeld graceDays) Apart tables (some (.plan call))
      (tables.proceed graceDays (.plan call) created) := by
  obtain ⟨newPlan, now, stage⟩ := call
  cases stage with
  | peeked settings =>
    cases created with
    | none => exact .refused inv
    | some ids =>
      refine respects_bare (inv.frame rfl rfl rfl rfl rfl rfl rfl) (fun other kept _ => ?_) ?_ ?_
      · exact kept.frame (.inr ⟨id, fun _ mem _ => mem⟩) rfl rfl rfl
      · rintro _ ⟨rfl⟩
        exact ⟨rfl, rfl⟩
      · rintro _ ⟨rfl⟩
        trivial
  | provisioned =>
    simp only [LifecycleTables.proceed, BillingTables.advance]
    obtain waits | ends | ⟨subscription, currentPlan, change, free, live, resolves, locks⟩ :=
      lock_cases tables.toBillingTables ⟨newPlan, now, .provisioned⟩
    · rw [waits]
      exact respects_waits inv held
    · rw [ends]
      exact .refused inv
    · rw [locks]
      have status := List.find?_some live
      exact respects_locks inv free rfl (List.mem_of_find?_eq_some live) (by simpa using status) rfl resolves
  | locked subscription currentPlan change =>
    obtain ⟨_, mem, _⟩ := held.locks subscription rfl
    refine .closed (inv.writePlan mem held.facts inOrder) fun other kept apart => ?_
    have unlocked := (apart _ rfl).locks.resolve_left (by simp [LifecycleCall.locks])
    exact kept.frame (.inl unlocked) rfl rfl rfl

theorem event_respects (inv : LifecycleInv graceDays tables) {call : EventCall}
    (held : CallHeld graceDays tables (.event call)) (inOrder : EventInOrder tables call) :
    Service.Respects (LifecycleInv graceDays) (CallHeld graceDays) Apart tables (some (.event call))
      ((tables.advanceEvent call).1, (tables.advanceEvent call).2.map .event) := by
  obtain ⟨id, previous, status, audited⟩ := call
  cases audited with
  | false =>
    obtain ⟨alone, reads⟩ : id ∉ tables.uncommitted ∧ (tables.subscription? id).map (·.status) = some previous := inOrder
    obtain ⟨subscription, found, same⟩ := Option.map_eq_some_iff.mp reads
    obtain ⟨mem, here⟩ := getRow_some found
    have starts : ∀ last, Trailed tables id last → previous = last := fun last trailed =>
      same.symm.trans (trailed.current subscription mem here)
    have known : id < tables.nextId := here ▸ (inv.rows subscription mem).known
    refine ⟨inv.audit known alone starts, fun other kept _ => kept.audit alone, ?_, ?_⟩
    · rintro _ ⟨rfl⟩
      refine ⟨by simp [LifecycleCall.locks], ?_, held.facts⟩
      rintro _ ⟨rfl⟩
      exact ahead_audit inv alone
    · rintro _ ⟨rfl⟩ other kept _
      refine ⟨.inl rfl, ?_⟩
      rintro _ ⟨rfl⟩ entry theirs (same : id = entry.subscriptionId)
      exact alone (same ▸ (kept.pending entry theirs).1)
  | true =>
    obtain ⟨subscription, found, orders⟩ : ∃ subscription ∈ tables.subscription? id, tables.Waits subscription ∨
      ¬tables.Collides subscription.id status ∧ (status = .pastDue → subscription.InWindow tables.clock) := inOrder
    obtain ⟨mem, rfl : subscription.id = id⟩ := getRow_some found
    obtain ⟨_, ahead⟩ := held.pending ⟨subscription.id, previous, status⟩ rfl
    obtain ⟨last, trailed⟩ := inv.trailed subscription.id
    have starts : previous = subscription.status := by
      obtain ⟨to_, also⟩ := trailed.ahead (held.pending _ rfl).1
      rw [ahead] at also
      have same := List.append_cancel_left also
      simp only [List.cons.injEq, StatusChange.mk.injEq, and_true, true_and] at same
      rw [same.1, trailed.current subscription mem rfl]
    have found' : tables.subscription? subscription.id = some subscription := found
    simp only [LifecycleTables.advanceEvent, found', not_true_eq_false, if_false]
    by_cases waits : tables.Waits subscription
    · rw [if_pos waits]
      exact respects_waits inv held
    · obtain ⟨single, within⟩ := orders.resolve_left waits
      have moves : subscription.status ≠ status := starts ▸ held.facts
      rw [if_neg waits, if_neg single]
      rw [starts] at ahead
      refine .closed (inv.commitStatus mem moves ahead within) fun other kept apart => ?_
      refine kept.commitStatus moves (fun row locked taken live theirs same => ?_) fun entry theirs => ?_
      · have same' : row = subscription := List.inj_on_of_nodup_map inv.ids theirs mem same
        exact waits ⟨taken, same' ▸ live⟩
      · exact ((apart _ rfl).pending _ rfl entry theirs).symm

/-- A cancellation is recorded, and the lock is let go. -/
theorem LifecycleInv.dun (inv : LifecycleInv graceDays tables) {dunned : List DunningCancellation}
    (grace : ∀ entry ∈ dunned, ∀ due ∈ entry.dueEnd, due.stamp + graceDays * microsPerDay ≤ entry.now.stamp) :
    LifecycleInv graceDays { tables with locked := false, dunned := dunned } := by
  refine ⟨inv.ids, fun row mem => ?_, fun id => ?_, inv.known, grace⟩
  · exact (inv.rows row mem).renew (renews_self (inv.rows row mem).month) le_rfl rfl
  · obtain ⟨last, trailed⟩ := inv.trailed id
    exact ⟨last, trailed.keep rfl rfl Iff.rfl trailed.current⟩

/-- What is overdue has been due for the grace days. -/
theorem grace_of_overdue (rowInv : RowInv tables row) (due : row.status = .pastDue) {now : Datetime}
    (overdue : Overdue graceDays now row.currentPeriodEnd) :
    ∀ dueEnd ∈ tables.fellDue row.id, dueEnd.stamp + graceDays * microsPerDay ≤ now.stamp := by
  intro dueEnd fell
  obtain ⟨stop, stops, before⟩ := rowInv.due due dueEnd fell
  have ended := overdue stop stops
  have earlier := Datetime.stamp_le.mpr before
  omega

theorem tick_respects (inv : LifecycleInv graceDays tables) {tick : DunningTick}
    (held : CallHeld graceDays tables (.tick tick)) (inOrder : tick.stage.InOrder tables) :
    Service.Respects (LifecycleInv graceDays) (CallHeld graceDays) Apart tables (some (.tick tick))
      ((tables.advanceTick graceDays tick).1, (tables.advanceTick graceDays tick).2.map .tick) := by
  obtain ⟨now, dueIds, stage⟩ := tick
  cases stage with
  | selected =>
    cases dueIds with
    | nil => exact .refused inv
    | cons id rest =>
      have skips : Service.Respects (LifecycleInv graceDays) (CallHeld graceDays) Apart tables
          (some (.tick ⟨now, id :: rest, .selected⟩)) (tables, some (.tick ⟨now, rest, .selected⟩)) := by
        refine respects_bare inv (fun _ kept _ => kept) ?_ ?_
        · rintro _ ⟨rfl⟩
          exact ⟨rfl, rfl⟩
        · rintro _ ⟨rfl⟩
          trivial
      cases found : tables.subscription? id with
      | none =>
        simp only [LifecycleTables.advanceTick, found]
        exact skips
      | some subscription =>
        simp only [LifecycleTables.advanceTick, found]
        by_cases due : subscription.status = .pastDue
        · rw [if_neg (not_not.mpr due)]
          by_cases locked : tables.locked
          · rw [if_pos locked]
            exact respects_waits inv held
          · rw [if_neg locked]
            by_cases overdue : Overdue graceDays now subscription.currentPeriodEnd
            · rw [if_neg (not_not.mpr overdue)]
              have live : subscription.status ≠ .canceled := by simp [due]
              exact respects_locks inv (Bool.eq_false_iff.mpr locked) rfl (getRow_some found).1 live rfl ⟨due, overdue⟩
            · rw [if_pos overdue]
              exact skips
        · rw [if_pos due]
          exact skips
  | canceling subscription =>
    obtain ⟨taken, mem, live⟩ := held.locks subscription rfl
    have starts : ∀ last, Trailed tables subscription.id last → subscription.status = last := fun last trailed =>
      trailed.current subscription mem rfl
    have known := (inv.rows subscription mem).known
    refine ⟨inv.audit known inOrder starts, fun other kept _ => kept.audit inOrder, ?_, ?_⟩
    · rintro _ ⟨rfl⟩
      refine ⟨?_, ?_, held.facts⟩
      · rintro _ ⟨rfl⟩
        exact ⟨taken, mem, live⟩
      · rintro _ ⟨rfl⟩
        exact ahead_audit inv inOrder
    · rintro _ ⟨rfl⟩ other kept apart
      refine ⟨.inr ((apart _ rfl).locks.resolve_left (by simp [LifecycleCall.locks])), ?_⟩
      rintro _ ⟨rfl⟩ entry theirs (same : subscription.id = entry.subscriptionId)
      exact inOrder (same ▸ (kept.pending entry theirs).1)
  | audited subscription =>
    obtain ⟨taken, mem, live⟩ := held.locks subscription rfl
    obtain ⟨_, ahead⟩ := held.pending _ rfl
    obtain ⟨due, overdue⟩ := held.facts
    have commits := inv.commitStatus mem live ahead fun pastDue => by cases pastDue
    have late := grace_of_overdue (inv.rows subscription mem) due overdue
    refine ⟨commits.dun fun entry listed => ?_, fun other kept apart => ?_, ?_, ?_⟩
    · rcases List.mem_append.mp listed with earlier | new
      · exact inv.grace entry earlier
      · rw [List.mem_singleton.mp new]
        exact late
    · have unlocked := (apart _ rfl).locks.resolve_left (by simp [LifecycleCall.locks])
      have keeps : CallHeld graceDays (tables.commitStatus subscription .canceled) other := by
        refine kept.commitStatus live (fun row theirs => ?_) fun entry theirs => ((apart _ rfl).pending _ rfl entry theirs).symm
        rw [unlocked] at theirs
        cases theirs
      exact keeps.frame (.inl unlocked) rfl rfl rfl
    · rintro _ ⟨rfl⟩
      exact ⟨by simp [LifecycleCall.locks], by simp [LifecycleCall.pending], trivial⟩
    · rintro _ ⟨rfl⟩ other _ _
      exact ⟨.inl rfl, by simp [LifecycleCall.pending]⟩

theorem proceed_respects (inv : LifecycleInv graceDays tables) (held : CallHeld graceDays tables call)
    (inOrder : CallInOrder tables call) (created : Option ProvisionedIds) :
    Service.Respects (LifecycleInv graceDays) (CallHeld graceDays) Apart tables (some call)
      (tables.proceed graceDays call created) := by
  cases call with
  | plan call => exact plan_respects inv held inOrder created
  | event call => exact event_respects inv held inOrder
  | tick tick => exact tick_respects inv held inOrder

end Steps

theorem Opened.inv {graceDays : Nat} {tables : LifecycleTables} (opened : Opened tables) : LifecycleInv graceDays tables := by
  obtain ⟨noTrail, noneCommitted, noneUncommitted⟩ := opened.untrailed
  obtain ⟨noneDunned, noneDue⟩ := opened.undunned
  have noRows : ∀ id, tables.trailOf id = [] ∧ tables.committedOf id = [] := by
    intro id
    rw [LifecycleTables.trailOf, LifecycleTables.committedOf, noTrail, noneCommitted]
    exact ⟨rfl, rfl⟩
  constructor
  case ids => exact opened.ids
  case rows =>
    intro row mem
    refine ⟨opened.fresh row mem, opened.windows row mem, fun _ due fell => ?_⟩
    rw [noneDue] at fell
    cases fell
  case trailed =>
    intro id
    have quiet : id ∉ tables.uncommitted := by simp [noneUncommitted]
    have none := noRows id
    have status : ∃ last, ∀ row ∈ tables.subscriptions, row.id = id → row.status = last := by
      cases found : tables.subscription? id with
      | none =>
        refine ⟨.active, fun row mem same => ?_⟩
        have absent := List.find?_eq_none.mp found row mem
        exact absurd (decide_eq_true same) absent
      | some row =>
        obtain ⟨mem, here⟩ := getRow_some found
        refine ⟨row.status, fun other also same => ?_⟩
        rw [List.inj_on_of_nodup_map opened.ids also mem (same.trans here.symm)]
    obtain ⟨last, current⟩ := status
    refine ⟨last, ⟨last, ?_⟩, current, fun _ => none.1.trans none.2.symm, fun audited => absurd audited quiet⟩
    rw [none.2]
    rfl
  case known =>
    rw [noTrail]
    simp
  case grace =>
    rw [noneDunned]
    simp

theorem LifecycleInv.graceHonoured {graceDays : Nat} {tables : LifecycleTables} (inv : LifecycleInv graceDays tables) :
    GraceHonoured graceDays tables := by
  refine ⟨inv.grace, fun id quiet => ?_, fun id audited => ?_, fun id => ?_, fun row mem => ?_⟩
  · obtain ⟨_, trailed⟩ := inv.trailed id
    exact trailed.quiet quiet
  · obtain ⟨_, trailed⟩ := inv.trailed id
    obtain ⟨_, ahead⟩ := trailed.ahead audited
    exact ⟨_, ahead⟩
  · obtain ⟨last, trailed⟩ := inv.trailed id
    obtain ⟨first, chained⟩ := trailed.chained
    by_cases audited : id ∈ tables.uncommitted
    · obtain ⟨status, ahead⟩ := trailed.ahead audited
      rw [ahead]
      exact ⟨first, status, Chained.append chained rfl⟩
    · rw [trailed.quiet audited]
      exact ⟨first, last, chained⟩
  · obtain ⟨last, trailed⟩ := inv.trailed row.id
    rw [trailed.current row mem rfl]
    exact trailed.chained

/-- In a run whose parts are all in order, the grace window is honoured and the trail is faithful in every state. -/
theorem grace_honoured {graceDays : Nat} {state : Served LifecycleTables LifecycleCall}
    (reach : (lifecycleMachine graceDays).Reach InOrder state) : GraceHonoured graceDays state.tables := by
  have symm : ∀ first second : LifecycleCall, Apart first second → Apart second first := fun _ _ => Apart.symm
  have start : ∀ state, (lifecycleMachine graceDays).init state →
      Service.Keeps (LifecycleInv graceDays) (CallHeld graceDays) Apart state := fun _ first => .idle first.1.inv first.2
  have step : ∀ state part, Service.Keeps (LifecycleInv graceDays) (CallHeld graceDays) Apart state → InOrder state part →
      Service.Keeps (LifecycleInv graceDays) (CallHeld graceDays) Apart ((lifecycleMachine graceDays).step state part) := by
    intro state part keeps inOrder
    cases part with
    | arrive number arrival =>
      have keeps' : Service.Keeps _ _ _ ((lifecycleService graceDays).step state (.arrive number arrival)) :=
        keeps.arrive symm (receive_respects keeps.tables arrival)
      exact keeps'
    | advance number created =>
      have keeps' : Service.Keeps _ _ _ ((lifecycleService graceDays).step state (.advance number created)) :=
        keeps.advance symm fun call found held => proceed_respects keeps.tables held (inOrder call found) created
      exact keeps'
  exact (reach.invariant start step).tables.graceHonoured

def twentiethOfApril : Datetime := { firstOfApril with date := (CalendarDate.of? 2028 4 20).get (by decide) }

/-- A tenant without a subscription, on the first of March. -/
def unsubscribed : LifecycleTables where
  plans := [freePlan, growthPlan, scalePlan]
  subscriptions := []
  settings := ⟨none, []⟩
  changes := []
  locked := false
  nextId := 0
  clock := firstOfMarch
  trail := []
  committed := []
  uncommitted := []
  fellDue := fun _ => none
  dunned := []

theorem opened_unsubscribed : Opened unsubscribed where
  ids := List.nodup_nil
  fresh := by simp [unsubscribed]
  oneLive := by simp [unsubscribed]
  windows := by simp [unsubscribed]
  unlocked := rfl
  untrailed := ⟨rfl, rfl, rfl⟩
  undunned := ⟨rfl, rfl⟩

/-- A subscription of the first of March that the provider knows. -/
def subscribes : List LifecyclePart := [.arrive 0 (.ensureSubscription "free"), .arrive 0 (.bindExternal 0 "sub")]

/-- An event that is applied in one go. -/
def appliesEvent (status : String) : List LifecyclePart :=
  [.arrive 0 (.applyBillingEvent ⟨some "sub", some status⟩), .advance 0 none, .advance 0 none]

/-- A tick that cancels the subscription. -/
def dunsOnce : List LifecyclePart :=
  [.arrive 2 .runDunningOnce, .advance 2 none, .advance 2 none, .advance 2 none, .advance 2 none]

/-- Past due in its first month, and on another plan meanwhile. -/
def dunnedInTime : List LifecyclePart :=
  subscribes ++ [.arrive 0 (.passTime midOfMarch)] ++ appliesEvent "past_due" ++
    [.arrive 1 (.changePlan "growth"), .advance 1 (some ⟨"cus", "p1"⟩), .advance 1 none, .advance 1 none,
      .arrive 0 (.passTime twentiethOfApril)] ++ dunsOnce

theorem grace_honoured_in_time :
    ((lifecycleMachine 14).exec (Service.begun unsubscribed) dunnedInTime).tables.dunned =
        [⟨0, twentiethOfApril, some firstOfApril⟩] ∧
      GraceHonoured 14 ((lifecycleMachine 14).exec (Service.begun unsubscribed) dunnedInTime).tables := by
  have begins : (lifecycleMachine 14).init (Service.begun unsubscribed) := Service.init_begun opened_unsubscribed
  have inOrder : (lifecycleMachine 14).Permits InOrder (Service.begun unsubscribed) dunnedInTime := by decide
  exact ⟨by decide, grace_honoured ((Machine.Reach.start begins).exec inOrder)⟩

/-- Past due in its second month, whose start nobody has recorded. -/
def dunnedAtOnce : List LifecyclePart :=
  subscribes ++ [.arrive 0 (.passTime twentiethOfApril)] ++ appliesEvent "past_due" ++ dunsOnce

/-- Two events that read the subscription at once. -/
def eventsAtOnce : List LifecyclePart :=
  subscribes ++ [.arrive 0 (.applyBillingEvent ⟨some "sub", some "past_due"⟩),
    .arrive 1 (.applyBillingEvent ⟨some "sub", some "canceled"⟩), .advance 0 none, .advance 0 none, .advance 1 none,
    .advance 1 none]

/-- A subscription that falls due after its first month is cancelled at the next tick, ten days before its period ends. Of
two events that have read the same status, the second one is audited as a change from it. -/
theorem grace_dishonoured :
    ¬GraceHonoured 14 ((lifecycleMachine 14).exec (Service.begun unsubscribed) dunnedAtOnce).tables ∧
      ¬GraceHonoured 14 ((lifecycleMachine 14).exec (Service.begun unsubscribed) eventsAtOnce).tables := by
  constructor
  · intro honoured
    have cancelled : ((lifecycleMachine 14).exec (Service.begun unsubscribed) dunnedAtOnce).tables.dunned =
        [⟨0, twentiethOfApril, addMonths firstOfMarch 2⟩] := by decide
    have grace := honoured.grace
    rw [cancelled] at grace
    revert grace
    decide
  · intro honoured
    have trail : ((lifecycleMachine 14).exec (Service.begun unsubscribed) eventsAtOnce).tables.trailOf 0 =
        [⟨0, .active, .pastDue⟩, ⟨0, .active, .canceled⟩] := by decide
    obtain ⟨first, last, chained⟩ := honoured.chained 0
    rw [trail] at chained
    obtain ⟨_, from_, _⟩ := chained
    cases from_

end Payables.Billing
