import Payables.Billing.PlanChanges
import Payables.Lib.Trail

namespace Payables.Billing
open Lib

/-- The code of the plan in force. -/
def BillingTables.planInForce (tables : BillingTables) : Option String := tables.activeSubscription.map (·.2.code)

/-- The changes are a chain from the plan at the start to the one in force. -/
def BillingTables.ChangesChained (tables : BillingTables) (first : Option String) : Prop :=
  Chained (fun change : PlanChange => some change.fromPlan) (fun change => some change.toPlan) first tables.changes
    tables.planInForce

/-- A change from one plan to another, at the prices of both. -/
def PlanChange.Priced (change : PlanChange) (plans : List Plan) : Prop :=
  ∃ old ∈ plans, ∃ new ∈ plans, old.code = change.fromPlan ∧ new.code = change.toPlan ∧
    change.proration =
      computeProration old.monthlyPrice new.monthlyPrice change.period.start change.period.stop change.changeAt

/-- A proration is no more than the difference of the prices, and has its sign. -/
def ProrationResult.Bounded (proration : ProrationResult) : Prop :=
  |proration.amount| ≤ |proration.newMonthly - proration.oldMonthly| ∧
    (proration.oldMonthly ≤ proration.newMonthly → 0 ≤ proration.amount) ∧
    (proration.newMonthly ≤ proration.oldMonthly → proration.amount ≤ 0)

/-- A change back from `change`, in the same window and at the same instant. -/
def PlanChange.Reverses (other change : PlanChange) : Prop :=
  other.fromPlan = change.toPlan ∧ other.toPlan = change.fromPlan ∧ other.period = change.period ∧
    other.changeAt = change.changeAt

/-- What the committed changes are after a run. -/
structure ChangesKept (first tables : BillingTables) : Prop where
  chained : tables.ChangesChained first.planInForce
  moves : ∀ change ∈ tables.changes, change.fromPlan ≠ change.toPlan
  priced : ∀ change ∈ tables.changes, change.Priced first.plans
  bounded : ∀ change ∈ tables.changes, change.proration.Bounded
  reversed : ∀ change ∈ tables.changes, ∀ other ∈ tables.changes, other.Reverses change →
    other.proration.amount = -change.proration.amount

section Proration

variable {old new : ℚ} {periodStart periodEnd changeAt : Datetime}

theorem quantizeMoney_zero : quantizeMoney 0 = 0 := OnCents.zero.quantizeMoney_eq

/-- All changes at an instant of a window are prorated by the same days. -/
theorem computeProration_amount (periodStart periodEnd changeAt : Datetime) :
    ∃ unused days : Nat, unused ≤ days ∧ ∀ old new : ℚ,
      (computeProration old new periodStart periodEnd changeAt).amount = quantizeMoney ((new - old) * unused / days) := by
  by_cases degenerate : periodEnd ≤ periodStart
  · refine ⟨0, 0, le_rfl, fun old new => ?_⟩
    rw [computeProration, if_pos degenerate, Nat.cast_zero, mul_zero, zero_div, quantizeMoney_zero]
  · generalize atWindow : (if changeAt < periodStart then periodStart
      else if periodEnd < changeAt then periodEnd else changeAt) = effective
    generalize counted : (if wholeDays periodStart periodEnd < wholeDays effective periodEnd then
      wholeDays periodStart periodEnd else wholeDays effective periodEnd) = unused
    have within : unused ≤ wholeDays periodStart periodEnd := by
      rw [← counted]
      split
      · exact le_rfl
      · omega
    refine ⟨unused, wholeDays periodStart periodEnd, within, fun old new => ?_⟩
    rw [computeProration, if_neg degenerate]
    simp only [atWindow, counted]
    split
    next none =>
      rcases none with same | noDays | noneLeft
      · rw [same, zero_mul, zero_div, quantizeMoney_zero]
      · rw [noDays, Nat.cast_zero, div_zero, quantizeMoney_zero]
      · rw [noneLeft, Nat.cast_zero, mul_zero, zero_div, quantizeMoney_zero]
    next => rfl

theorem computeProration_prices (old new : ℚ) (periodStart periodEnd changeAt : Datetime) :
    (computeProration old new periodStart periodEnd changeAt).oldMonthly = old ∧
      (computeProration old new periodStart periodEnd changeAt).newMonthly = new := by
  simp only [computeProration]
  split_ifs <;> exact ⟨rfl, rfl⟩

theorem bounded_computeProration (oldCents : OnCents old) (newCents : OnCents new) :
    (computeProration old new periodStart periodEnd changeAt).Bounded := by
  obtain ⟨unused, days, within, formula⟩ := computeProration_amount periodStart periodEnd changeAt
  obtain ⟨oldPrice, newPrice⟩ := computeProration_prices old new periodStart periodEnd changeAt
  have part : (unused : ℚ) / days ≤ 1 := div_le_one_of_le₀ (by exact_mod_cast within) (by positivity)
  have share : (0 : ℚ) ≤ unused / days := by positivity
  rw [ProrationResult.Bounded, oldPrice, newPrice, formula, mul_div_assoc]
  refine ⟨abs_quantizeMoney_le (newCents.sub oldCents).abs ?_, fun dearer => ?_, fun cheaper => ?_⟩
  · rw [abs_mul, abs_of_nonneg share]
    exact mul_le_of_le_one_right (abs_nonneg _) part
  · exact quantizeMoney_nonneg (mul_nonneg (by linarith) share)
  · have credit : 0 ≤ quantizeMoney (-((new - old) * (unused / days))) := by
      refine quantizeMoney_nonneg ?_
      rw [← neg_mul]
      exact mul_nonneg (by linarith) share
    rw [quantizeMoney_neg] at credit
    linarith

/-- The proration back is the opposite of the one there. -/
theorem computeProration_reverse (old new : ℚ) (periodStart periodEnd changeAt : Datetime) :
    (computeProration new old periodStart periodEnd changeAt).amount =
      -(computeProration old new periodStart periodEnd changeAt).amount := by
  obtain ⟨unused, days, _, formula⟩ := computeProration_amount periodStart periodEnd changeAt
  have flipped : (old - new) * unused / days = -((new - old) * unused / days) := by ring
  rw [formula, formula, flipped, quantizeMoney_neg]

end Proration

/-- What holds of the tables between the parts of the calls. -/
structure PlanInv (first tables : BillingTables) : Prop where
  plans : tables.plans = first.plans
  chained : tables.ChangesChained first.planInForce
  moves : ∀ change ∈ tables.changes, change.fromPlan ≠ change.toPlan
  priced : ∀ change ∈ tables.changes, change.Priced first.plans

/-- What holds of a call at its stage. Nothing of it changes while the call has the subscription locked. -/
def StageHeld (tables : BillingTables) (call : PlanCall) : Prop :=
  match call.stage with
  | .peeked _ => True
  | .provisioned => True
  | .locked subscription currentPlan change =>
    tables.locked ∧ tables.activeSubscription = some (subscription, currentPlan) ∧ currentPlan.id ≠ call.newPlan.id ∧
      BillingTables.priceChange subscription currentPlan call.newPlan call.now = some change

/-- What holds of a call in flight. -/
structure PlanHeld (first tables : BillingTables) (call : PlanCall) : Prop where
  newPlan : call.newPlan ∈ first.plans
  stage : StageHeld tables call

def PlanCall.IsLocked (call : PlanCall) : Prop := ∃ subscription currentPlan change, call.stage = .locked subscription currentPlan change

/-- Two calls do not both have the subscription locked. -/
def NotBothLocked (one other : PlanCall) : Prop := ¬(one.IsLocked ∧ other.IsLocked)

section Steps

variable {first tables : BillingTables} {call other : PlanCall} {subscription : Subscription} {currentPlan newPlan : Plan}
  {change : PlanChange}

theorem activeSubscription_eq_some : tables.activeSubscription = some (subscription, currentPlan) ↔
    tables.live? = some subscription ∧ tables.plan? subscription.planId = some currentPlan := by
  rw [BillingTables.activeSubscription]
  constructor
  · intro found
    obtain ⟨row, live, rest⟩ := Option.bind_eq_some_iff.mp found
    obtain ⟨plan, bound, made⟩ := Option.bind_eq_some_iff.mp rest
    obtain ⟨rfl, rfl⟩ := Prod.mk.inj (Option.some.inj made)
    exact ⟨live, bound⟩
  · rintro ⟨live, bound⟩
    rw [live, Option.bind_eq_bind, Option.bind_some, bound]
    rfl

theorem mem_of_plan? {id : PlanId} (found : tables.plan? id = some newPlan) : newPlan ∈ tables.plans ∧ newPlan.id = id := by
  have same := List.find?_some found
  exact ⟨List.mem_of_find?_eq_some found, by simpa using same⟩

theorem plan?_of_mem (unique : ∀ plan ∈ tables.plans, ∀ other ∈ tables.plans, plan.id = other.id → plan = other)
    (mem : newPlan ∈ tables.plans) : tables.plan? newPlan.id = some newPlan := by
  cases found : tables.plan? newPlan.id with
  | none =>
    have absent := List.find?_eq_none.mp found newPlan mem
    simp at absent
  | some plan =>
    obtain ⟨also, same⟩ := mem_of_plan? found
    rw [unique plan also newPlan mem same]

/-- The live subscription after a change. -/
theorem live?_write (live : tables.live? = some subscription) :
    (tables.write subscription newPlan change).live? = some (subscription.repoint change.period newPlan.id) := by
  have cleared : (tables.clearStaleCanceledSubscription newPlan.id).subscriptions.find? (fun row => row.status ≠ .canceled) =
      some subscription := by
    rw [BillingTables.clearStaleCanceledSubscription, List.find?_filter]
    refine Eq.trans (congrArg (List.find? · tables.subscriptions) (funext fun row => ?_)) live
    by_cases status : row.status = .canceled <;> simp [status]
  have status : ∀ row : Subscription, decide ((row.repoint change.period newPlan.id).status ≠ .canceled) =
      decide (row.status ≠ .canceled) := fun _ => rfl
  rw [BillingTables.live?, BillingTables.write, find?_changeRow status, cleared, Option.map_some, if_pos rfl]

theorem activeSubscription_write (unique : ∀ plan ∈ tables.plans, ∀ other ∈ tables.plans, plan.id = other.id → plan = other)
    (mem : newPlan ∈ tables.plans) (active : tables.activeSubscription = some (subscription, currentPlan)) :
    (tables.write subscription newPlan change).activeSubscription =
      some (subscription.repoint change.period newPlan.id, newPlan) :=
  activeSubscription_eq_some.mpr ⟨live?_write (activeSubscription_eq_some.mp active).1, plan?_of_mem unique mem⟩

theorem planInForce_of_active (active : tables.activeSubscription = some (subscription, currentPlan)) :
    tables.planInForce = some currentPlan.code := by
  rw [BillingTables.planInForce, active]
  rfl

/-- A priced change keeps the invariant. -/
theorem PlanInv.write (inv : PlanInv first tables) (begins : Subscribed first) (mem : newPlan ∈ first.plans)
    (active : tables.activeSubscription = some (subscription, currentPlan)) (moves : currentPlan.id ≠ newPlan.id)
    {now : Datetime} (prices : BillingTables.priceChange subscription currentPlan newPlan now = some change) :
    PlanInv first (tables.write subscription newPlan change) := by
  obtain ⟨period, _, made⟩ := Option.bind_eq_some_iff.mp prices
  have current : currentPlan ∈ first.plans := by
    rw [← inv.plans]
    exact (mem_of_plan? (activeSubscription_eq_some.mp active).2).1
  have unique : ∀ plan ∈ tables.plans, ∀ other ∈ tables.plans, plan.id = other.id → plan = other := by
    rw [inv.plans]
    exact begins.planIds
  have inTables : newPlan ∈ tables.plans := inv.plans ▸ mem
  have codes : currentPlan.code ≠ newPlan.code := by
    intro same
    rw [begins.codes currentPlan current newPlan mem same] at moves
    exact moves rfl
  obtain rfl := Option.some.inj made
  refine ⟨inv.plans, ?_, ?_, ?_⟩
  · have chained := inv.chained
    rw [BillingTables.ChangesChained, planInForce_of_active active] at chained
    rw [BillingTables.ChangesChained, planInForce_of_active (activeSubscription_write unique inTables active)]
    exact chained.append rfl
  · intro entry listed
    rcases List.mem_append.mp listed with earlier | new
    · exact inv.moves entry earlier
    · rw [List.mem_singleton.mp new]
      exact codes
  · intro entry listed
    rcases List.mem_append.mp listed with earlier | new
    · exact inv.priced entry earlier
    · rw [List.mem_singleton.mp new]
      exact ⟨currentPlan, current, newPlan, mem, rfl, rfl, rfl⟩

theorem activeSubscription_frame {after : BillingTables} (plans : after.plans = tables.plans)
    (subscriptions : after.subscriptions = tables.subscriptions) : after.activeSubscription = tables.activeSubscription := by
  rw [BillingTables.activeSubscription, BillingTables.activeSubscription, BillingTables.live?, BillingTables.live?, subscriptions]
  simp only [BillingTables.plan?, plans]

/-- What leaves the changes and the subscriptions alone keeps the invariant. -/
theorem PlanInv.frame {after : BillingTables} (inv : PlanInv first tables) (plans : after.plans = tables.plans)
    (subscriptions : after.subscriptions = tables.subscriptions) (changes : after.changes = tables.changes) :
    PlanInv first after := by
  have active := activeSubscription_frame plans subscriptions
  refine ⟨plans.trans inv.plans, ?_, ?_, ?_⟩
  · have chained := inv.chained
    have inForce : after.planInForce = tables.planInForce := by rw [BillingTables.planInForce, active, BillingTables.planInForce]
    rw [BillingTables.ChangesChained] at chained ⊢
    rw [inForce, changes]
    exact chained
  · rw [changes]
    exact inv.moves
  · rw [changes]
    exact inv.priced

/-- A call that holds nothing locked is left alone by what it does not read. -/
theorem PlanHeld.frame {after : BillingTables} (held : PlanHeld first tables call) (unlocked : ¬call.IsLocked) :
    PlanHeld first after call := by
  refine ⟨held.newPlan, ?_⟩
  rw [StageHeld]
  split
  · trivial
  · trivial
  next subscription currentPlan change stage => exact absurd ⟨subscription, currentPlan, change, stage⟩ unlocked

theorem PlanHeld.locked (held : PlanHeld first tables call) (locked : call.IsLocked) : tables.locked := by
  obtain ⟨subscription, currentPlan, change, stage⟩ := locked
  have holds := held.stage
  rw [StageHeld, stage] at holds
  exact holds.1

theorem not_locked_of_stage {stage : PlanStage} (at_ : call.stage = stage)
    (other : ∀ subscription currentPlan change, stage ≠ .locked subscription currentPlan change) : ¬call.IsLocked := by
  rintro ⟨subscription, currentPlan, change, locked⟩
  exact other subscription currentPlan change (at_.symm.trans locked)

/-- A call keeps what it relies on where the subscriptions and the lock are left alone. -/
theorem PlanHeld.keep {after : BillingTables} (held : PlanHeld first tables call) (plans : after.plans = tables.plans)
    (subscriptions : after.subscriptions = tables.subscriptions) (locked : tables.locked → after.locked) :
    PlanHeld first after call := by
  have active := activeSubscription_frame plans subscriptions
  have holds := held.stage
  refine ⟨held.newPlan, ?_⟩
  rw [StageHeld] at holds ⊢
  split
  · trivial
  · trivial
  next subscription currentPlan change stage =>
    rw [stage] at holds
    obtain ⟨taken, reads, moves, prices⟩ := holds
    exact ⟨locked taken, active.trans reads, moves, prices⟩

theorem arrive_respects (inv : PlanInv first tables) (arrival : PlanArrival) :
    Service.Respects (PlanInv first) (PlanHeld first) NotBothLocked tables none (tables.arrive arrival) := by
  rw [BillingTables.arrive]
  split
  next => exact .refused inv
  next newPlan found =>
    split
    next => exact .refused inv
    next =>
      split
      next => exact .refused inv
      next =>
        refine ⟨inv, fun _ held _ => held, ?_, ?_⟩
        · rintro _ ⟨rfl⟩
          refine ⟨?_, trivial⟩
          rw [← inv.plans]
          exact List.mem_of_find?_eq_some found
        · rintro _ ⟨rfl⟩ other _ _ ⟨⟨_, _, _, stage⟩, _⟩
          cases stage

theorem lock_respects (inv : PlanInv first tables) (held : PlanHeld first tables call) (stage : call.stage = .provisioned) :
    Service.Respects (PlanInv first) (PlanHeld first) NotBothLocked tables (some call) (tables.lock call) := by
  have unlocked : ¬call.IsLocked := not_locked_of_stage stage (by simp)
  rw [BillingTables.lock]
  split
  next =>
    refine ⟨inv, fun _ kept _ => kept, ?_, ?_⟩
    · rintro _ ⟨rfl⟩
      exact held
    · rintro _ ⟨rfl⟩ other _ _ ⟨mine, _⟩
      exact unlocked mine
  next free =>
    split
    next => exact .refused inv
    next subscription currentPlan active =>
      split
      next => exact .refused inv
      next moves =>
        split
        next => exact .refused inv
        next change prices =>
          refine ⟨inv.frame rfl rfl rfl, fun other kept _ => kept.keep rfl rfl fun _ => rfl, ?_, ?_⟩
          · rintro _ ⟨rfl⟩
            exact ⟨held.newPlan, rfl, active, moves, prices⟩
          · rintro _ ⟨rfl⟩ other kept _ ⟨_, theirs⟩
            exact free (kept.locked theirs)

theorem advance_respects (begins : Subscribed first) (inv : PlanInv first tables) (held : PlanHeld first tables call)
    (created : Option ProvisionedIds) :
    Service.Respects (PlanInv first) (PlanHeld first) NotBothLocked tables (some call) (tables.advance call created) := by
  rw [BillingTables.advance]
  split
  next settings stage =>
    split
    next => exact .refused inv
    next ids =>
      refine ⟨inv.frame rfl rfl rfl, fun other kept _ => kept.keep rfl rfl id, ?_, ?_⟩
      · rintro _ ⟨rfl⟩
        exact ⟨held.newPlan, trivial⟩
      · rintro _ ⟨rfl⟩ other _ _ ⟨⟨_, _, _, locked⟩, _⟩
        cases locked
  next stage => exact lock_respects inv held stage
  next subscription currentPlan change stage =>
    have holds := held.stage
    rw [StageHeld, stage] at holds
    obtain ⟨_, active, moves, prices⟩ := holds
    have written := inv.write begins held.newPlan active moves prices
    refine ⟨written.frame rfl rfl rfl, fun other kept apart => kept.frame fun theirs => ?_, by simp, by simp⟩
    exact apart call rfl ⟨⟨subscription, currentPlan, change, stage⟩, theirs⟩

theorem abort_respects (inv : PlanInv first tables) :
    Service.Respects (PlanInv first) (PlanHeld first) NotBothLocked tables (some call) (tables.abort call, none) := by
  rw [BillingTables.abort]
  split
  next subscription currentPlan change stage =>
    refine ⟨inv.frame rfl rfl rfl, fun other kept apart => kept.frame fun theirs => ?_, by simp, by simp⟩
    exact apart call rfl ⟨⟨subscription, currentPlan, change, stage⟩, theirs⟩
  next => exact .refused inv

end Steps

theorem plan_sustains {first : BillingTables} (begins : Subscribed first) :
    Service.Sustains { planService with init := (· = first) } (fun _ _ => True) (fun _ _ _ => True) (PlanInv first)
      (PlanHeld first) NotBothLocked where
  symm _ _ apart both := apart ⟨both.2, both.1⟩
  start := by
    rintro _ rfl
    refine ⟨rfl, ?_, ?_, ?_⟩
    · rw [BillingTables.ChangesChained, begins.fresh]
      rfl
    · simp [begins.fresh]
    · simp [begins.fresh]
  arrive _ arrival inv _ := arrive_respects inv arrival
  advance _ _ created inv held _ := advance_respects begins inv held created
  abort _ _ inv _ := abort_respects inv

theorem PlanInv.changesKept {first tables : BillingTables} (inv : PlanInv first tables) (begins : Subscribed first) :
    ChangesKept first tables := by
  refine ⟨inv.chained, inv.moves, inv.priced, fun change mem => ?_, fun change mem other otherMem reverses => ?_⟩
  · obtain ⟨old, _, new, _, _, _, prices⟩ := inv.priced change mem
    rw [prices]
    exact bounded_computeProration old.cents new.cents
  · obtain ⟨old, oldMem, new, newMem, from_, to_, prices⟩ := inv.priced change mem
    obtain ⟨otherOld, otherOldMem, otherNew, otherNewMem, otherFrom, otherTo, otherPrices⟩ := inv.priced other otherMem
    obtain ⟨toFirst, fromLast, window, instant⟩ := reverses
    have there : otherOld = new := begins.codes otherOld otherOldMem new newMem (otherFrom.trans (toFirst.trans to_.symm))
    have back : otherNew = old := begins.codes otherNew otherNewMem old oldMem (otherTo.trans (fromLast.trans from_.symm))
    rw [prices, otherPrices, there, back, window, instant]
    exact computeProration_reverse _ _ _ _ _

/-- No plan change is lost: after any interleaving of the parts of any calls the committed changes are a chain of priced
changes to the plan in force. -/
theorem plan_changes_kept {first : Served BillingTables PlanCall} (begins : planService.machine.init first)
    (parts : List (Part PlanArrival (Option ProvisionedIds))) :
    ChangesKept first.tables (planService.machine.exec first parts).tables := by
  obtain ⟨subscribed, idle⟩ := begins
  have sustains := plan_sustains subscribed
  have start : Service.Keeps (PlanInv first.tables) (PlanHeld first.tables) NotBothLocked first := sustains.init ⟨rfl, idle⟩
  have step : ∀ state part, Service.Keeps (PlanInv first.tables) (PlanHeld first.tables) NotBothLocked state →
      Service.Keeps (PlanInv first.tables) (PlanHeld first.tables) NotBothLocked (planService.machine.step state part) := by
    intro state part keeps
    have allowed : Service.Guarded (fun _ _ => True) (fun _ _ _ => True) state part := by
      cases part with
      | arrive number arrival => trivial
      | advance number created => exact fun _ _ => trivial
      | die number => trivial
    exact sustains.step keeps allowed
  exact (Machine.exec_invariant step start parts).tables.changesKept subscribed

def freePlan : Plan := ⟨0, "free", 0, true, ⟨0, by norm_num⟩⟩

def growthPlan : Plan := ⟨1, "growth", 49, true, ⟨4900, by norm_num⟩⟩

def scalePlan : Plan := ⟨2, "scale", 199, true, ⟨19900, by norm_num⟩⟩

/-- The first of March 2028. -/
def firstOfMarch : Datetime := ⟨(CalendarDate.of? 2028 3 1).get (by decide), 0, by decide⟩

def firstOfApril : Datetime := ⟨(CalendarDate.of? 2028 4 1).get (by decide), 0, by decide⟩

def midOfMarch : Datetime := ⟨(CalendarDate.of? 2028 3 16).get (by decide), 0, by decide⟩

/-- A tenant on the free plan, in March. -/
def onFreePlan : BillingTables where
  plans := [freePlan, growthPlan, scalePlan]
  subscriptions := [⟨0, 0, .active, some firstOfMarch, some firstOfApril, firstOfMarch, none⟩]
  settings := ⟨none, []⟩
  changes := []
  locked := false

theorem subscribed_onFreePlan : Subscribed onFreePlan where
  planIds := by simp [onFreePlan, freePlan, growthPlan, scalePlan]
  codes := by simp [onFreePlan, freePlan, growthPlan, scalePlan]
  ids := by decide
  oneLive := by decide
  unlocked := rfl
  fresh := rfl

/-- Two upgrades from the free plan at once, of which the second waits for the first, and one of them taken back. -/
def upgradesAtOnce : List (Part PlanArrival (Option ProvisionedIds)) :=
  [.arrive 0 ⟨"growth", midOfMarch⟩, .arrive 1 ⟨"scale", midOfMarch⟩, .advance 0 (some ⟨"cus", "p1"⟩),
    .advance 1 (some ⟨"cus", "p2"⟩), .advance 0 none, .advance 1 none, .advance 0 none, .advance 1 none, .advance 1 none,
    .arrive 0 ⟨"growth", midOfMarch⟩, .advance 0 (some ⟨"cus", "p1"⟩), .advance 0 none, .advance 0 none]

theorem plan_changes_kept_at_once :
    (planService.machine.exec (Service.begun onFreePlan) upgradesAtOnce).tables.changes.map
        (fun change => (change.fromPlan, change.toPlan, change.proration.amount)) =
        [("free", "growth", 2529 / 100), ("growth", "scale", 7742 / 100), ("scale", "growth", -7742 / 100)] ∧
      ChangesKept onFreePlan (planService.machine.exec (Service.begun onFreePlan) upgradesAtOnce).tables := by
  have begins : planService.machine.init (Service.begun onFreePlan) := Service.init_begun subscribed_onFreePlan
  exact ⟨by decide +kernel, plan_changes_kept begins upgradesAtOnce⟩

end Payables.Billing
