import Payables.Approval.LevelApprovals

namespace Payables
open Lib

/-- The leg of the escalation sweep for one instance: the users it tells, and the state it leaves. -/
def escalateInstance (now : Time) (stateData : Option StateData) : List UserId × Option StateData :=
  let (mutated, after) := applyEscalation now stateData
  if mutated then
    (((currentLevelOf after).bind (levelAt after)).elim []
      fun level => (level.escalations.getLast?.map (·.addedUserIds)).getD [], after)
  else ([], stateData)

/-- The escalation targets that the level does not list. -/
def LevelState.newTargets (level : LevelState) : List UserId :=
  level.escalationToUserIds.filter (! level.approverIds.contains ·)

/-- Every escalation target that an `all` level lists has approved it. -/
def LevelState.ListedTargetsApproved (level : LevelState) : Prop :=
  level.parallelMode = .all → ∀ target ∈ level.escalationToUserIds, target ∈ level.approverIds → target ∈ level.distinct

/-- Everyone whom the escalation of an `all` level leaves to wait for may approve it still, and someone may. -/
def TargetsMayApprove (chain : ChainState) (level : LevelState) : Prop :=
  level.parallelMode = .all →
    (∀ target ∈ level.newTargets, target ∈ level.distinct ∨ approvedElsewhere chain.levels chain.currentLevel target = false) ∧
    ∃ user, (user ∈ level.approverIds ∧ user ∈ level.distinct ∨ user ∈ level.newTargets) ∧
      approvedElsewhere chain.levels chain.currentLevel user = false

section Escalated

variable {now later : Time} {level escalated : LevelState} {stateData : Option StateData} {chain : ChainState}

/-- When `apply_escalation` changes a level, and what it makes of it. -/
theorem escalateLevel_eq_some : escalateLevel now level = some escalated ↔ ∃ hours enteredAt,
    level.escalationHours = some hours ∧ level.enteredAt = some enteredAt ∧ hours ≠ 0 ∧ ¬now - enteredAt < hoursToTime hours ∧
      level.approverIds ≠ [] ∧ level.newTargets ≠ [] ∧
      escalated = { level with
        approverIds := escalatedApprovers level level.newTargets
        escalations := level.escalations ++ [⟨now, level.newTargets, hours⟩] } := by
  simp only [escalateLevel, Option.bind_eq_bind, Option.bind_eq_some_iff, Option.pure_def, Option.some.injEq]
  constructor
  · rintro ⟨hours, set, enteredAt, entered, _, due, _, age, _, restricted, _, more, rfl⟩
    rw [Option.guard_eq_some'] at due age restricted more
    exact ⟨hours, enteredAt, set, entered, due.1, age, restricted, more, rfl⟩
  · rintro ⟨hours, enteredAt, set, entered, nonzero, age, restricted, more, rfl⟩
    have targets : level.escalationToUserIds ≠ [] := by
      intro none
      rw [LevelState.newTargets, none] at more
      exact more rfl
    refine ⟨hours, set, enteredAt, entered, (), ?_, (), ?_, (), ?_, (), ?_, rfl⟩ <;> rw [Option.guard_eq_some']
    · exact ⟨nonzero, targets⟩
    · exact age
    · exact restricted
    · exact more

theorem mem_newTargets {user : UserId} :
    user ∈ level.newTargets ↔ user ∈ level.escalationToUserIds ∧ user ∉ level.approverIds := by
  simp [LevelState.newTargets]

/-- Whom a level waits for after its escalation. -/
theorem mem_escalatedApprovers {user : UserId} : user ∈ escalatedApprovers level level.newTargets ↔
    (user ∈ level.approverIds ∧ (level.parallelMode = .all → user ∈ level.distinct)) ∨ user ∈ level.newTargets := by
  rw [escalatedApprovers]
  cases mode : level.parallelMode with
  | any => simp
  | all =>
    simp only [List.mem_append, List.mem_filter, decide_eq_true_eq, Bool.not_eq_eq_eq_not, Bool.not_true, true_implies]
    constructor
    · rintro (kept | ⟨new, _⟩)
      · exact .inl kept
      · exact .inr new
    · rintro (kept | new)
      · exact .inl kept
      · refine .inr ⟨new, ?_⟩
        have unlisted := (mem_newTargets.mp new).2
        simp [unlisted]

/-- The targets are all listed after an escalation exactly when the ones listed before have approved. -/
theorem newTargets_escalated_eq_nil_iff (raised : escalateLevel now level = some escalated) :
    escalated.newTargets = [] ↔ level.ListedTargetsApproved := by
  obtain ⟨hours, enteredAt, _, _, _, _, _, _, rfl⟩ := (escalateLevel_eq_some).mp raised
  rw [LevelState.newTargets, List.filter_eq_nil_iff]
  simp only [Bool.not_eq_true', List.contains_eq_mem, decide_eq_false_iff_not, not_not, mem_escalatedApprovers]
  constructor
  · intro listed mode target isTarget before
    rcases listed target isTarget with kept | new
    · exact kept.2 mode
    · exact absurd before (mem_newTargets.mp new).2
  · intro approved target isTarget
    by_cases before : target ∈ level.approverIds
    · exact .inl ⟨before, fun mode => approved mode target isTarget before⟩
    · exact .inr (mem_newTargets.mpr ⟨isTarget, before⟩)

/-- A level that was escalated is not escalated again exactly when there is nobody new to add. -/
theorem escalateLevel_again_iff (ordered : now ≤ later) (raised : escalateLevel now level = some escalated) :
    escalateLevel later escalated = none ↔ level.ListedTargetsApproved := by
  rw [← newTargets_escalated_eq_nil_iff raised]
  obtain ⟨hours, enteredAt, set, entered, nonzero, age, _, more, made⟩ := (escalateLevel_eq_some).mp raised
  have sameHours : escalated.escalationHours = some hours := by rw [made]; exact set
  have sameEntry : escalated.enteredAt = some enteredAt := by rw [made]; exact entered
  have waits : escalated.approverIds ≠ [] := by
    obtain ⟨target, new⟩ := List.exists_mem_of_ne_nil _ more
    have listed : target ∈ escalated.approverIds := by
      rw [made]
      exact (mem_escalatedApprovers).mpr (.inr new)
    exact List.ne_nil_of_mem listed
  constructor
  · intro none
    by_contra some_
    have still : ¬later - enteredAt < hoursToTime hours :=
      not_lt.mpr ((not_lt.mp age).trans (sub_le_sub_right ordered enteredAt))
    have again := (escalateLevel_eq_some).mpr ⟨hours, enteredAt, sameHours, sameEntry, nonzero, still, waits, some_, rfl⟩
    rw [none] at again
    cases again
  · intro empty
    cases again : escalateLevel later escalated with
    | none => rfl
    | some next =>
      obtain ⟨_, _, _, _, _, _, _, some_, _⟩ := (escalateLevel_eq_some).mp again
      exact absurd empty some_

end Escalated

section Sweep

variable {now later : Time} {level escalated : LevelState} {stateData : Option StateData} {chain : ChainState}

/-- An escalation of an instance, on its chain. -/
theorem applyEscalation_eq_true (escalates : (applyEscalation now stateData).1 = true) : ∃ chain level escalated,
    chainStateOf stateData = some chain ∧ chain.levels[chain.currentLevel]? = some level ∧
      escalateLevel now level = some escalated ∧ applyEscalation now stateData = (true, some (withChainState stateData
        ⟨chain.levels.set chain.currentLevel escalated, chain.currentLevel⟩)) := by
  rcases applyEscalation_cases now stateData with unchanged | found
  · rw [unchanged] at escalates
    cases escalates
  · exact found

/-- A second sweep finds nothing left to escalate exactly when the listed targets of an `all` level have approved it. -/
theorem escalates_once_iff (ordered : now ≤ later) (escalates : (applyEscalation now stateData).1 = true) :
    escalateInstance later (escalateInstance now stateData).2 = ([], (escalateInstance now stateData).2) ↔
      ∀ chain level, chainStateOf stateData = some chain → chain.levels[chain.currentLevel]? = some level →
        level.ListedTargetsApproved := by
  obtain ⟨chain, level, escalated, stored, atCurrent, raised, applied⟩ := applyEscalation_eq_true escalates
  have after : (escalateInstance now stateData).2 =
      some (withChainState stateData ⟨chain.levels.set chain.currentLevel escalated, chain.currentLevel⟩) := by
    rw [escalateInstance, applied]
    rfl
  have condition : (∀ chain level, chainStateOf stateData = some chain → chain.levels[chain.currentLevel]? = some level →
      level.ListedTargetsApproved) ↔ level.ListedTargetsApproved := by
    constructor
    · exact fun always => always chain level stored atCurrent
    · intro holds other found same atFound
      obtain rfl := Option.some.inj (stored.symm.trans same)
      obtain rfl := Option.some.inj (atCurrent.symm.trans atFound)
      exact holds
  have within := (List.getElem?_eq_some_iff.mp atCurrent).1
  rw [condition, after, ← escalateLevel_again_iff ordered raised]
  generalize state : withChainState stateData ⟨chain.levels.set chain.currentLevel escalated, chain.currentLevel⟩ = written
  have restored : chainStateOf (some written) = some ⟨chain.levels.set chain.currentLevel escalated, chain.currentLevel⟩ := by
    rw [← state, chainStateOf_withChainState]
  have current : (chain.levels.set chain.currentLevel escalated)[chain.currentLevel]? = some escalated :=
    List.getElem?_set_self within
  constructor
  · intro same
    cases again : escalateLevel later escalated with
    | none => rfl
    | some next =>
      obtain ⟨_, _, _, _, _, _, _, _, made⟩ := (escalateLevel_eq_some).mp again
      have moved := congrArg (fun result => (chainStateOf result.2).map (·.levels[chain.currentLevel]?)) same
      simp only [escalateInstance, applyEscalation, restored, current, Option.bind_some, again, if_true,
        chainStateOf_withChainState, Option.map_some, List.set_set, List.getElem?_set_self within, Option.some.injEq] at moved
      rw [made] at moved
      have count := congrArg (fun level => level.escalations.length) moved
      simp at count
  · intro none
    simp only [escalateInstance, applyEscalation, restored, current, Option.bind_some, none, Bool.false_eq_true, if_false]

/-- An `all` level with a listed and a new target. -/
def dueLevel (approvals : List LevelApproval) : LevelState :=
  ⟨0, "Level 1", 1, ["ana", "bo"], approvals, .all, some 24, ["bo", "cy"], some 0, []⟩

/-- Bo has approved before the sweep. -/
def boHasApproved : Option StateData := some (withChainState none ⟨[dueLevel [⟨"bo", 5⟩]], 0⟩)

theorem escalates_once_approved :
    escalateInstance (hoursToTime 48) (escalateInstance (hoursToTime 24) boHasApproved).2 =
      ([], (escalateInstance (hoursToTime 24) boHasApproved).2) := by
  refine (escalates_once_iff (by decide) (by decide)).mpr fun chain level stored atCurrent => ?_
  obtain rfl := Option.some.inj stored
  obtain rfl := Option.some.inj atCurrent
  intro _
  decide

/-- Nobody has approved before the sweep: it drops Bo, and the next one puts Bo back for Cy. -/
theorem escalates_twice : ¬∀ (now later : Time) (stateData : Option StateData), now ≤ later →
    (applyEscalation now stateData).1 = true →
    escalateInstance later (escalateInstance now stateData).2 = ([], (escalateInstance now stateData).2) := by
  intro always
  have twice := always (hoursToTime 24) (hoursToTime 48) (some (withChainState none ⟨[dueLevel []], 0⟩)) (by decide)
    (by decide)
  have told := congrArg Prod.fst twice
  revert told
  decide

theorem admitted_iff {approverIds : List UserId} (restricted : approverIds ≠ []) {user : UserId} :
    Admitted (fun _ => none) approverIds user ↔ user ∈ approverIds := by
  have nobody : approverIds.filterMap (fun _ => (none : Option UserId)) = [] := by simp
  rw [Admitted, nobody]
  simp [restricted]

/-- An `all` level with an allow-list is completable exactly when whom it waits for may approve it. -/
theorem completable_all_iff {barred : UserId → Bool} {i : Nat} (standing : AtLevel stateData i level barred)
    (all : level.parallelMode = .all) (restricted : level.approverIds ≠ []) : Completable stateData ↔
      (∀ user ∈ level.approverIds, user ∈ level.distinct ∨ barred user = false) ∧
        ∃ user ∈ level.approverIds, barred user = false := by
  have satisfied : ∀ approvals, levelSatisfied (level.recordAll approvals) ↔
      ∀ user ∈ level.approverIds, user ∈ (level.recordAll approvals).distinct := by
    intro approvals
    have mode : (level.recordAll approvals).parallelMode = .all := all
    rw [levelSatisfied_iff]
    simp only [LevelState.accepts, mode]
    rfl
  rw [completable_iff standing]
  simp only [admitted_iff restricted, satisfied, mem_distinct_recordAll]
  constructor
  · rintro ⟨approvals, some_, may, everyone⟩
    refine ⟨fun user listed => ?_, ?_⟩
    · rcases everyone user listed with approved | ⟨approval, mem, rfl⟩
      · exact .inl approved
      · exact .inr (may approval mem).2
    · obtain ⟨approval, mem⟩ := List.exists_mem_of_ne_nil _ some_
      exact ⟨approval.1, may approval mem⟩
  · rintro ⟨everyone, user, listed, free⟩
    -- all who may approve do so, at any time
    refine ⟨(level.approverIds.filter fun user => barred user = false).map fun user => (user, 0), ?_, ?_, ?_⟩
    · refine List.ne_nil_of_mem (a := (user, 0)) (List.mem_map_of_mem (List.mem_filter.mpr ⟨listed, ?_⟩))
      simpa using free
    · intro approval mem
      obtain ⟨approver, kept, rfl⟩ := List.mem_map.mp mem
      obtain ⟨inList, unbarred⟩ := List.mem_filter.mp kept
      exact ⟨inList, by simpa using unbarred⟩
    · intro approver inList
      rcases everyone approver inList with approved | unbarred
      · exact .inl approved
      · exact .inr ⟨(approver, 0), List.mem_map_of_mem (List.mem_filter.mpr ⟨inList, by simpa using unbarred⟩), rfl⟩

/-- A level with more approvers to choose from is completable still. -/
theorem completable_any {barred : UserId → Bool} {i : Nat} {after : Option StateData} (any : level.parallelMode = .any)
    (restricted : level.approverIds ≠ []) (raised : escalateLevel now level = some escalated)
    (before : AtLevel stateData i level barred) (standing : AtLevel after i escalated barred) (completable : Completable stateData) :
    Completable after := by
  obtain ⟨_, _, _, _, _, _, _, _, made⟩ := (escalateLevel_eq_some).mp raised
  obtain ⟨approvals, some_, may, met⟩ := (completable_iff before).mp completable
  have wider : ∀ user ∈ level.approverIds, user ∈ escalated.approverIds := by
    intro user listed
    rw [made]
    refine (mem_escalatedApprovers).mpr (.inl ⟨listed, fun all => ?_⟩)
    rw [any] at all
    cases all
  obtain ⟨first, listed⟩ := List.exists_mem_of_ne_nil _ restricted
  have stillRestricted : escalated.approverIds ≠ [] := List.ne_nil_of_mem (wider first listed)
  refine (completable_iff standing).mpr ⟨approvals, some_, fun approval mem => ?_, ?_⟩
  · obtain ⟨admitted, free⟩ := may approval mem
    exact ⟨(admitted_iff stillRestricted).mpr (wider _ ((admitted_iff restricted).mp admitted)), free⟩
  · have mode : (level.recordAll approvals).parallelMode = .any := any
    have modeAfter : (escalated.recordAll approvals).parallelMode = .any := by rw [made]; exact any
    rw [levelSatisfied_iff] at met ⊢
    simp only [LevelState.accepts, mode] at met
    simp only [LevelState.accepts, modeAfter]
    rw [made]
    exact met

/-- After its escalation the current level is completable exactly when whom it waits for may approve it. -/
theorem escalation_keeps_completable_iff (completable : Completable stateData)
    (escalates : (applyEscalation now stateData).1 = true) :
    Completable (applyEscalation now stateData).2 ↔
      ∀ chain level, chainStateOf stateData = some chain → chain.levels[chain.currentLevel]? = some level →
        TargetsMayApprove chain level := by
  obtain ⟨chain, level, escalated, stored, atCurrent, raised, applied⟩ := applyEscalation_eq_true escalates
  have within := (List.getElem?_eq_some_iff.mp atCurrent).1
  have condition : (∀ chain level, chainStateOf stateData = some chain → chain.levels[chain.currentLevel]? = some level →
      TargetsMayApprove chain level) ↔ TargetsMayApprove chain level := by
    constructor
    · exact fun always => always chain level stored atCurrent
    · intro holds other found same atFound
      obtain rfl := Option.some.inj (stored.symm.trans same)
      obtain rfl := Option.some.inj (atCurrent.symm.trans atFound)
      exact holds
  have before : AtLevel stateData chain.currentLevel level (approvedElsewhere chain.levels chain.currentLevel) :=
    ⟨chain, stored, rfl, atCurrent, fun _ => rfl⟩
  have after : AtLevel (applyEscalation now stateData).2 chain.currentLevel escalated
      (approvedElsewhere chain.levels chain.currentLevel) := by
    rw [applied]
    exact ⟨_, rfl, rfl, List.getElem?_set_self within, fun user => approvedElsewhere_set escalated⟩
  obtain ⟨hours, enteredAt, _, _, _, _, restricted, more, made⟩ := (escalateLevel_eq_some).mp raised
  rw [condition]
  cases mode : level.parallelMode with
  | any =>
    have stays := completable_any mode restricted raised before after completable
    refine ⟨fun _ all => ?_, fun _ => stays⟩
    rw [mode] at all
    cases all
  | all =>
    have modeAfter : escalated.parallelMode = .all := by rw [made]; exact mode
    have sameDistinct : escalated.distinct = level.distinct := by rw [made]; rfl
    have listed : ∀ user, user ∈ escalated.approverIds ↔
        user ∈ level.approverIds ∧ user ∈ level.distinct ∨ user ∈ level.newTargets := by
      intro user
      rw [made]
      show user ∈ escalatedApprovers level level.newTargets ↔ _
      rw [mem_escalatedApprovers, mode]
      simp
    have waits : escalated.approverIds ≠ [] := by
      obtain ⟨target, new⟩ := List.exists_mem_of_ne_nil _ more
      exact List.ne_nil_of_mem ((listed target).mpr (.inr new))
    rw [completable_all_iff after modeAfter waits, TargetsMayApprove, mode, sameDistinct]
    simp only [listed, true_implies]
    refine and_congr_left fun _ => ⟨fun everyone target new => everyone target (.inr new), fun targets user waited => ?_⟩
    rcases waited with ⟨_, approved⟩ | new
    · exact .inl approved
    · exact targets user new

/-- Cy is new and has not approved any level. -/
theorem escalation_keeps_completable_new :
    Completable (applyEscalation (hoursToTime 24) (some (withChainState none ⟨[dueLevel []], 0⟩))).2 := by
  have completable : Completable (some (withChainState none ⟨[dueLevel []], 0⟩)) := by
    refine ⟨[("ana", 1), ("bo", 2)], 0, some (withChainState none ⟨[dueLevel [⟨"ana", 1⟩, ⟨"bo", 2⟩]], 1⟩), rfl, ?_, rfl⟩
    decide
  refine (escalation_keeps_completable_iff completable (by decide)).mpr fun chain level stored atCurrent _ => ?_
  obtain rfl := Option.some.inj stored
  obtain rfl := Option.some.inj atCurrent
  exact ⟨by decide, "cy", by decide, by decide⟩

/-- Cy has approved the first level, and is whom the second one waits for after its escalation. -/
def cyApprovedFirst : Option StateData :=
  some (withChainState none ⟨[⟨0, "Level 1", 1, ["cy"], [⟨"cy", 0⟩], .any, none, [], some 0, []⟩, dueLevel []], 1⟩)

theorem escalation_strands_level : ¬∀ (now : Time) (stateData : Option StateData), Completable stateData →
    Completable (applyEscalation now stateData).2 := by
  intro always
  have completable : Completable cyApprovedFirst := by
    refine ⟨[("ana", 1), ("bo", 2)], 1, some (withChainState none
      ⟨[⟨0, "Level 1", 1, ["cy"], [⟨"cy", 0⟩], .any, none, [], some 0, []⟩, dueLevel [⟨"ana", 1⟩, ⟨"bo", 2⟩]], 2⟩), rfl, ?_, rfl⟩
    decide
  have standing : AtLevel (applyEscalation (hoursToTime 24) cyApprovedFirst).2 1
      { dueLevel [] with approverIds := ["cy"], escalations := [⟨hoursToTime 24, ["cy"], 24⟩] } (fun user => user == "cy") := by
    refine ⟨⟨[⟨0, "Level 1", 1, ["cy"], [⟨"cy", 0⟩], .any, none, [], some 0, []⟩,
      { dueLevel [] with approverIds := ["cy"], escalations := [⟨hoursToTime 24, ["cy"], 24⟩] }], 1⟩, by decide, rfl, rfl, ?_⟩
    intro user
    simp [approvedElsewhere, dueLevel, eq_comm]
  have after := always (hoursToTime 24) cyApprovedFirst completable
  obtain ⟨_, user, listed, free⟩ := (completable_all_iff standing rfl (by simp)).mp after
  rw [List.mem_singleton.mp listed] at free
  cases free

end Sweep

end Payables
