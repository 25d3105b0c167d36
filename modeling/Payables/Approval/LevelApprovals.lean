import Payables.Approval.ChainRuns
import Payables.Approval.Gates

namespace Payables
open Lib

/-- An approval that `check_level_approver` and `advance_approval_chain` accept. -/
def acceptApproval (delegateOf : UserId → Option UserId) (stateData : Option StateData) (approval : UserId × Time) :
    Option (Option StateData) :=
  match (chainStateOf stateData).bind fun chain => chain.levels[chain.currentLevel]? with
  | none => none
  | some level =>
    match checkLevelApprover delegateOf level.approverIds approval.1, advanceApprovalChain approval.2 stateData approval.1 with
    | .ok _, (.ok _, after) => some after
    | _, _ => none

/-- The index of the current level. -/
def currentLevelOf (stateData : Option StateData) : Option Nat := (chainStateOf stateData).map (·.currentLevel)

/-- Approvals one after the other, each of them of the level at index `i`. -/
def acceptAll (delegateOf : UserId → Option UserId) (i : Nat) : Option StateData → List (UserId × Time) → Option (Option StateData)
  | stateData, [] => some stateData
  | stateData, approval :: later =>
    if currentLevelOf stateData = some i then (acceptApproval delegateOf stateData approval).bind (acceptAll delegateOf i · later)
    else none

/-- The level at index `i` is the current one, with the users whom the four-eyes rule keeps from it. -/
def AtLevel (stateData : Option StateData) (i : Nat) (level : LevelState) (barred : UserId → Bool) : Prop :=
  ∃ chain, chainStateOf stateData = some chain ∧ chain.currentLevel = i ∧ chain.levels[i]? = some level ∧
    ∀ user, approvedElsewhere chain.levels i user = barred user

/-- The chain has moved past the level at index `i`, which it leaves as `level`. -/
def PastLevel (stateData : Option StateData) (i : Nat) (level : LevelState) : Prop :=
  ∃ chain, chainStateOf stateData = some chain ∧ chain.currentLevel = i + 1 ∧ chain.levels[i]? = some level

/-- Who `check_level_approver` lets through. -/
def Admitted (delegateOf : UserId → Option UserId) (approverIds : List UserId) (user : UserId) : Prop :=
  approverIds = [] ∨ user ∈ approverIds ∨ user ∈ approverIds.filterMap delegateOf

/-- The level with approvals appended. -/
def LevelState.recordAll (level : LevelState) (approvals : List (UserId × Time)) : LevelState :=
  { level with approvals := level.approvals ++ approvals.map fun approval => ⟨approval.1, approval.2⟩ }

section Level

variable {delegateOf : UserId → Option UserId} {stateData after : Option StateData} {i : Nat} {level : LevelState}
  {barred : UserId → Bool} {user : UserId} {now : Time} {approval : UserId × Time}

theorem checkLevelApprover_eq_ok {approverIds : List UserId} :
    checkLevelApprover delegateOf approverIds user = .ok () ↔ Admitted delegateOf approverIds user := by
  rw [checkLevelApprover, Admitted]
  split
  next holds => exact ⟨fun _ => holds, fun _ => rfl⟩
  next fails => exact ⟨fun ok => absurd ok (by simp), fun holds => absurd holds fails⟩

theorem mem_distinct_recordAll {approvals : List (UserId × Time)} :
    user ∈ (level.recordAll approvals).distinct ↔ user ∈ level.distinct ∨ ∃ approval ∈ approvals, approval.1 = user := by
  simp only [LevelState.distinct, LevelState.recordAll, List.mem_toFinset, List.map_append, List.map_map, List.mem_append,
    List.mem_map, Function.comp_apply]

theorem recordAll_cons (later : List (UserId × Time)) :
    (level.record approval.1 approval.2).recordAll later = level.recordAll (approval :: later) := by
  simp only [LevelState.record, LevelState.recordAll, List.map_cons, List.append_assoc, List.singleton_append]

theorem approvedElsewhere_iff {levels : List LevelState} : approvedElsewhere levels i user = true ↔
    ∃ j other, j ≠ i ∧ levels[j]? = some other ∧ ∃ approval ∈ other.approvals, approval.userId = user := by
  rw [approvedElsewhere, List.any_eq_true]
  constructor
  · rintro ⟨⟨other, j⟩, mem, acted⟩
    rw [Bool.and_eq_true, bne_iff_ne, List.any_eq_true] at acted
    obtain ⟨different, approval, listed, same⟩ := acted
    exact ⟨j, other, different, List.mem_zipIdx_iff_getElem?.mp mem, approval, listed, beq_iff_eq.mp same⟩
  · rintro ⟨j, other, different, atJ, approval, listed, same⟩
    refine ⟨(other, j), List.mem_zipIdx_iff_getElem?.mpr atJ, ?_⟩
    rw [Bool.and_eq_true, bne_iff_ne, List.any_eq_true]
    exact ⟨different, approval, listed, beq_iff_eq.mpr same⟩

/-- The approvals of the other levels are all that counts. -/
theorem approvedElsewhere_congr {levels others : List LevelState}
    (same : ∀ j, j ≠ i → (others[j]?).map (·.approvals) = (levels[j]?).map (·.approvals)) :
    approvedElsewhere others i user = approvedElsewhere levels i user := by
  have onward : ∀ {one two : List LevelState}, (∀ j, j ≠ i → (two[j]?).map (·.approvals) = (one[j]?).map (·.approvals)) →
      approvedElsewhere one i user = true → approvedElsewhere two i user = true := by
    intro one two agree acted
    obtain ⟨j, level, different, atJ, listed⟩ := (approvedElsewhere_iff).mp acted
    have approvals := agree j different
    rw [atJ] at approvals
    obtain ⟨other, atOther, equal⟩ := Option.map_eq_some_iff.mp approvals
    refine (approvedElsewhere_iff).mpr ⟨j, other, different, atOther, ?_⟩
    rw [equal]
    exact listed
  exact Bool.eq_iff_iff.mpr ⟨onward fun j different => (same j different).symm, onward same⟩

theorem approvedElsewhere_set {levels : List LevelState} (new : LevelState) :
    approvedElsewhere (levels.set i new) i user = approvedElsewhere levels i user := by
  refine approvedElsewhere_congr fun j different => ?_
  rw [List.getElem?_set_ne (Ne.symm different)]

/-- What an accepted approval of the level at index `i` has met, and where it leaves the chain. -/
theorem acceptApproval_eq_some (standing : AtLevel stateData i level barred)
    (accepted : acceptApproval delegateOf stateData approval = some after) :
    Admitted delegateOf level.approverIds approval.1 ∧ barred approval.1 = false ∧
      if levelSatisfied (level.record approval.1 approval.2) then PastLevel after i (level.record approval.1 approval.2)
      else AtLevel after i (level.record approval.1 approval.2) barred := by
  obtain ⟨chain, stored, rfl, atCurrent, elsewhere⟩ := standing
  rw [acceptApproval, stored, Option.bind_some, atCurrent] at accepted
  simp only at accepted
  cases check : checkLevelApprover delegateOf level.approverIds approval.1 with
  | error raised => simp [check] at accepted
  | ok _ =>
    have within := (List.getElem?_eq_some_iff.mp atCurrent).1
    rw [check] at accepted
    rcases advanceApprovalChain_cases approval.2 stateData approval.1 with ⟨_, finished⟩ | refused | ⟨other, last, answer, same, advanced, result⟩
    · have short := finished chain stored
      omega
    · simp [refused] at accepted
    · obtain rfl := Option.some.inj (stored.symm.trans same)
      rw [result] at accepted
      obtain rfl := Option.some.inj accepted
      refine ⟨(checkLevelApprover_eq_ok).mp check, ?_⟩
      cases advanced with
      | recorded atLevel fresh unmet =>
        obtain rfl := Option.some.inj (atCurrent.symm.trans atLevel)
        rw [elsewhere] at fresh
        rw [unmet]
        refine ⟨fresh, _, rfl, rfl, List.getElem?_set_self within, fun user => ?_⟩
        rw [approvedElsewhere_set, elsewhere]
      | completed atLevel fresh met _ =>
        obtain rfl := Option.some.inj (atCurrent.symm.trans atLevel)
        rw [elsewhere] at fresh
        rw [met]
        exact ⟨fresh, _, rfl, rfl, List.getElem?_set_self within⟩
      | moved atLevel fresh met atNext =>
        obtain rfl := Option.some.inj (atCurrent.symm.trans atLevel)
        rw [elsewhere] at fresh
        rw [met]
        refine ⟨fresh, _, rfl, rfl, ?_⟩
        rw [List.getElem?_set_ne (Nat.succ_ne_self _), List.getElem?_set_self within]

/-- Whoever is admitted and not kept away can approve. -/
theorem acceptApproval_exists (standing : AtLevel stateData i level barred)
    (admitted : Admitted delegateOf level.approverIds approval.1) (free : barred approval.1 = false) :
    ∃ after, acceptApproval delegateOf stateData approval = some after := by
  obtain ⟨chain, stored, rfl, atCurrent, elsewhere⟩ := standing
  have within := (List.getElem?_eq_some_iff.mp atCurrent).1
  rw [acceptApproval, stored, Option.bind_some, atCurrent]
  simp only [(checkLevelApprover_eq_ok).mpr admitted]
  rcases advanceApprovalChain_cases approval.2 stateData approval.1 with ⟨_, finished⟩ | refused | ⟨_, last, answer, _, _, result⟩
  · have short := finished chain stored
    omega
  · have fresh : approvedElsewhere chain.levels chain.currentLevel approval.1 = false := (elsewhere approval.1).trans free
    exfalso
    rw [advanceApprovalChain, stored] at refused
    simp only [atCurrent, fresh, Bool.false_eq_true, if_false] at refused
    split at refused
    · split at refused <;> cases refused
    · cases refused
  · rw [result]
    exact ⟨_, rfl⟩

theorem AtLevel.currentLevelOf (standing : AtLevel stateData i level barred) : currentLevelOf stateData = some i := by
  obtain ⟨chain, stored, current, _⟩ := standing
  rw [Payables.currentLevelOf, stored, Option.map_some, current]

theorem PastLevel.currentLevelOf (past : PastLevel stateData i level) : currentLevelOf stateData = some (i + 1) := by
  obtain ⟨chain, stored, current, _⟩ := past
  rw [Payables.currentLevelOf, stored, Option.map_some, current]

theorem recordAll_nil (level : LevelState) : level.recordAll [] = level := by
  rw [LevelState.recordAll, List.map_nil, List.append_nil]

/-- What the accepted approvals of a level have met, and where they leave the chain. -/
theorem acceptAll_eq_some {approvals : List (UserId × Time)} (standing : AtLevel stateData i level barred)
    (accepted : acceptAll delegateOf i stateData approvals = some after) :
    (∀ approval ∈ approvals, Admitted delegateOf level.approverIds approval.1 ∧ barred approval.1 = false) ∧
      if approvals ≠ [] ∧ levelSatisfied (level.recordAll approvals) then PastLevel after i (level.recordAll approvals)
      else AtLevel after i (level.recordAll approvals) barred := by
  induction approvals generalizing stateData level with
  | nil =>
    obtain rfl := Option.some.inj accepted
    refine ⟨by simp, ?_⟩
    rw [recordAll_nil, if_neg (by simp)]
    exact standing
  | cons approval later ih =>
    rw [acceptAll, if_pos standing.currentLevelOf] at accepted
    obtain ⟨next, first, rest⟩ := Option.bind_eq_some_iff.mp accepted
    obtain ⟨admitted, free, outcome⟩ := acceptApproval_eq_some standing first
    rw [← recordAll_cons, List.forall_mem_cons]
    by_cases met : levelSatisfied (level.record approval.1 approval.2) = true
    · rw [if_pos met] at outcome
      cases later with
      | nil =>
        obtain rfl := Option.some.inj rest
        rw [recordAll_nil]
        refine ⟨⟨⟨admitted, free⟩, by simp⟩, ?_⟩
        rw [if_pos ⟨List.cons_ne_nil _ _, met⟩]
        exact outcome
      | cons other others =>
        rw [acceptAll, outcome.currentLevelOf, if_neg (by simp)] at rest
        cases rest
    · rw [if_neg met] at outcome
      obtain ⟨others, last⟩ := ih outcome rest
      refine ⟨⟨⟨admitted, free⟩, others⟩, ?_⟩
      by_cases empty : later = []
      · rw [empty, recordAll_nil] at last ⊢
        rw [if_neg (by simp)] at last
        rw [if_neg fun both => met both.2]
        exact last
      · by_cases done : levelSatisfied ((level.record approval.1 approval.2).recordAll later) = true
        · rw [if_pos ⟨empty, done⟩] at last
          rw [if_pos ⟨List.cons_ne_nil _ _, done⟩]
          exact last
        · rw [if_neg fun both => done both.2] at last
          rw [if_neg fun both => done both.2]
          exact last

end Level

/-- Approvals without delegations that complete the current level. -/
def Completes (stateData : Option StateData) (approvals : List (UserId × Time)) : Prop :=
  ∃ i after, currentLevelOf stateData = some i ∧ acceptAll (fun _ => none) i stateData approvals = some after ∧
    currentLevelOf after = some (i + 1)

/-- The current level can still be completed. -/
def Completable (stateData : Option StateData) : Prop := ∃ approvals, Completes stateData approvals

section Completion

variable {stateData : Option StateData} {i : Nat} {level : LevelState} {barred : UserId → Bool}
  {approvals : List (UserId × Time)}

/-- Approvals that would satisfy the level complete it, some of the first of them. -/
theorem completes_of_satisfied (standing : AtLevel stateData i level barred) (some_ : approvals ≠ [])
    (may : ∀ approval ∈ approvals, Admitted (fun _ => none) level.approverIds approval.1 ∧ barred approval.1 = false)
    (met : levelSatisfied (level.recordAll approvals)) :
    ∃ few after, acceptAll (fun _ => none) i stateData few = some after ∧ currentLevelOf after = some (i + 1) := by
  induction approvals generalizing stateData level with
  | nil => exact absurd rfl some_
  | cons approval later ih =>
    obtain ⟨⟨admitted, free⟩, others⟩ := List.forall_mem_cons.mp may
    obtain ⟨next, first⟩ := acceptApproval_exists standing admitted free
    obtain ⟨_, _, outcome⟩ := acceptApproval_eq_some standing first
    by_cases enough : levelSatisfied (level.record approval.1 approval.2) = true
    · rw [if_pos enough] at outcome
      refine ⟨[approval], next, ?_, outcome.currentLevelOf⟩
      rw [acceptAll, if_pos standing.currentLevelOf, first]
      rfl
    · rw [if_neg enough] at outcome
      rw [← recordAll_cons] at met
      have more : later ≠ [] := by
        rintro rfl
        rw [recordAll_nil] at met
        exact enough met
      obtain ⟨few, after, accepts, past⟩ := ih outcome more others met
      refine ⟨approval :: few, after, ?_, past⟩
      rw [acceptAll, if_pos standing.currentLevelOf, first, Option.bind_some, accepts]

theorem completable_iff (standing : AtLevel stateData i level barred) : Completable stateData ↔ ∃ approvals ≠ [],
    (∀ approval ∈ approvals, Admitted (fun _ => none) level.approverIds approval.1 ∧ barred approval.1 = false) ∧
      levelSatisfied (level.recordAll approvals) := by
  constructor
  · rintro ⟨approvals, j, after, current, accepts, past⟩
    obtain rfl := Option.some.inj (standing.currentLevelOf.symm.trans current)
    obtain ⟨may, outcome⟩ := acceptAll_eq_some standing accepts
    split at outcome
    next done => exact ⟨approvals, done.1, may, done.2⟩
    next =>
      have still := outcome.currentLevelOf.symm.trans past
      have absurd_ := Option.some.inj still
      omega
  · rintro ⟨approvals, some_, may, met⟩
    obtain ⟨few, after, accepts, past⟩ := completes_of_satisfied standing some_ may met
    exact ⟨few, i, after, standing.currentLevelOf, accepts, past⟩

end Completion

def levelAt (stateData : Option StateData) (i : Nat) : Option LevelState := (chainStateOf stateData).bind (·.levels[i]?)

/-- Every listed approver has approved, or their active delegate has. -/
def EveryoneStoodFor (delegateOf : UserId → Option UserId) (level : LevelState) (approvals : List (UserId × Time)) : Prop :=
  ∀ approver ∈ level.approverIds, ∃ approval ∈ approvals, approval.1 = approver ∨ delegateOf approver = some approval.1

/-- Every listed approver has approved. -/
def EveryoneInPerson (level : LevelState) (approvals : List (UserId × Time)) : Prop :=
  ∀ approver ∈ level.approverIds, ∃ approval ∈ approvals, approval.1 = approver

section Delegates

variable {delegateOf : UserId → Option UserId} {stateData after : Option StateData} {i : Nat} {level : LevelState}
  {approvals : List (UserId × Time)}

theorem atLevel_of_levelAt (current : currentLevelOf stateData = some i) (stands : levelAt stateData i = some level) :
    ∃ barred, AtLevel stateData i level barred := by
  obtain ⟨chain, stored, same⟩ := Option.map_eq_some_iff.mp current
  rw [levelAt, stored, Option.bind_some] at stands
  exact ⟨approvedElsewhere chain.levels i, chain, stored, same, stands, fun _ => rfl⟩

theorem AtLevel.levelAt {barred : UserId → Bool} (standing : AtLevel stateData i level barred) :
    levelAt stateData i = some level := by
  obtain ⟨chain, stored, _, atI, _⟩ := standing
  rw [Payables.levelAt, stored, Option.bind_some, atI]

theorem PastLevel.levelAt (past : PastLevel stateData i level) : levelAt stateData i = some level := by
  obtain ⟨chain, stored, _, atI⟩ := past
  rw [Payables.levelAt, stored, Option.bind_some, atI]

/-- The approvals accepted on a level are all recorded on it. -/
theorem levelAt_of_acceptAll {barred : UserId → Bool} (standing : AtLevel stateData i level barred)
    (accepted : acceptAll delegateOf i stateData approvals = some after) :
    levelAt after i = some (level.recordAll approvals) := by
  obtain ⟨_, outcome⟩ := acceptAll_eq_some standing accepted
  split at outcome
  · exact outcome.levelAt
  · exact outcome.levelAt

/-- An `all` level that everyone has stood for is satisfied exactly when everyone has approved in person. -/
theorem delegates_satisfy_iff (current : currentLevelOf stateData = some i) (stands : levelAt stateData i = some level)
    (all : level.parallelMode = .all) (fresh : level.approvals = [])
    (accepted : acceptAll delegateOf i stateData approvals = some after) :
    (EveryoneStoodFor delegateOf level approvals → (levelAt after i).any levelSatisfied) ↔
      (EveryoneStoodFor delegateOf level approvals → EveryoneInPerson level approvals) := by
  obtain ⟨barred, standing⟩ := atLevel_of_levelAt current stands
  have satisfied : (levelAt after i).any levelSatisfied = true ↔ EveryoneInPerson level approvals := by
    have nobody : level.distinct = ∅ := by rw [LevelState.distinct, fresh, List.map_nil, List.toFinset_nil]
    have mode : (level.recordAll approvals).parallelMode = .all := all
    rw [levelAt_of_acceptAll standing accepted, Option.any_some, levelSatisfied_iff]
    simp only [LevelState.accepts, mode]
    refine forall₂_congr fun approver _ => ?_
    rw [mem_distinct_recordAll, nobody]
    simp
  rw [satisfied]

/-- A chain with one `all` level for two approvers. -/
def bothApprove : Option StateData :=
  some (withChainState none ⟨[⟨0, "Level 1", 1, ["ana", "bo"], [], .all, none, [], some 0, []⟩], 0⟩)

/-- Bo's delegate approves as well, and then Bo does. -/
theorem delegates_satisfy_in_person :
    ((acceptAll (fun user => if user = "bo" then some "dee" else none) 0 bothApprove
      [("ana", 1), ("dee", 2), ("bo", 3)]).bind (levelAt · 0)).any levelSatisfied := by
  have accepted : acceptAll (fun user => if user = "bo" then some "dee" else none) 0 bothApprove
      [("ana", 1), ("dee", 2), ("bo", 3)] = some (some (withChainState none ⟨[⟨0, "Level 1", 1, ["ana", "bo"],
        [⟨"ana", 1⟩, ⟨"dee", 2⟩, ⟨"bo", 3⟩], .all, none, [], some 0, []⟩], 1⟩)) := by decide
  have satisfied := (delegates_satisfy_iff rfl rfl rfl rfl accepted).mpr fun _ approver listed => by
    rcases List.mem_pair.mp listed with rfl | rfl
    · exact ⟨("ana", 1), by simp, rfl⟩
    · exact ⟨("bo", 3), by simp, rfl⟩
  rw [accepted]
  refine satisfied fun approver listed => ?_
  rcases List.mem_pair.mp listed with rfl | rfl
  · exact ⟨("ana", 1), by simp, .inl rfl⟩
  · exact ⟨("bo", 3), by simp, .inl rfl⟩

/-- Ana and the delegate of Bo approve, and the level still waits for Bo. -/
theorem delegate_does_not_count : ¬∀ (delegateOf : UserId → Option UserId) (stateData after : Option StateData) (i : Nat)
    (level : LevelState) (approvals : List (UserId × Time)), currentLevelOf stateData = some i → levelAt stateData i = some level →
    level.parallelMode = .all → level.approvals = [] → acceptAll delegateOf i stateData approvals = some after →
    EveryoneStoodFor delegateOf level approvals → (levelAt after i).any levelSatisfied := by
  intro always
  have accepted : acceptAll (fun user => if user = "bo" then some "dee" else none) 0 bothApprove [("ana", 1), ("dee", 2)] =
      some (some (withChainState none ⟨[⟨0, "Level 1", 1, ["ana", "bo"], [⟨"ana", 1⟩, ⟨"dee", 2⟩], .all, none, [], some 0, []⟩],
        0⟩)) := by decide
  have satisfied := always _ _ _ 0 _ _ rfl rfl rfl rfl accepted fun approver listed => by
    rcases List.mem_pair.mp listed with rfl | rfl
    · exact ⟨("ana", 1), by simp, .inl rfl⟩
    · exact ⟨("dee", 2), by simp, .inr rfl⟩
  revert satisfied
  decide

end Delegates

end Payables
