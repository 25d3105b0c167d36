import Mathlib.Algebra.BigOperators.Group.List.Basic
import Mathlib.Data.List.Dedup
import Mathlib.Data.List.DropRight
import Mathlib.Data.List.ReduceOption
import Mathlib.Data.List.Sort

namespace Payables.Lib.Sql

variable {α β κ M : Type*}

/-- A truth value of a query, `NULL` being `none`. -/
abbrev Truth := Option Bool

/-- A row is kept where its predicate is true, not where it is `NULL`. -/
def holds (truth : Truth) : Bool := truth == some true

def eq [DecidableEq α] : Option α → Option α → Truth
  | some a, some b => some (a = b)
  | _, _ => none

def le [LE α] [DecidableLE α] : Option α → Option α → Truth
  | some a, some b => some (a ≤ b)
  | _, _ => none

def isNotNull (value : Option α) : Truth := some value.isSome

def not (truth : Truth) : Truth := truth.map Bool.not

def and : Truth → Truth → Truth
  | some false, _ => some false
  | some true, b => b
  | none, some false => some false
  | none, _ => none

def or : Truth → Truth → Truth
  | some true, _ => some true
  | some false, b => b
  | none, some true => some true
  | none, _ => none

/-- `x IN (...)`, a disjunction of equalities. -/
def isIn [DecidableEq α] (x : Option α) (values : List (Option α)) : Truth :=
  values.foldr (fun value truth => or (eq x value) truth) (some false)

/-- The conjunction of the clauses of a `WHERE`. -/
def all (clauses : List Truth) : Truth := clauses.foldr and (some true)

/-- The rows a `WHERE` keeps. -/
def select (rows : List α) (clause : α → Truth) : List α := rows.filter fun row => holds (clause row)

/-- `EXISTS (SELECT ... WHERE ...)`, which is never `NULL`. -/
def existsRow (rows : List α) (clause : α → Truth) : Truth := some (rows.any fun row => holds (clause row))

/-- `SUM`, which is `NULL` over no row. -/
def sum [AddMonoid M] (values : List (Option M)) : Option M :=
  if values.reduceOption = [] then none else some values.reduceOption.sum

/-- `CASE WHEN ... THEN ... ELSE ... END`. -/
def caseWhen (truth : Truth) (value otherwise : α) : α := if holds truth then value else otherwise

/-- `BTRIM`. -/
def btrim (text : String) : String := String.ofList ((text.toList.dropWhile (· == ' ')).rdropWhile (· == ' '))

/-- A row with each of the rows it is joined with, or alone. -/
def joined (a : α) : List β → List (α × Option β)
  | [] => [(a, none)]
  | b :: rest => (b :: rest).map fun b => (a, some b)

/-- `LEFT OUTER JOIN`. -/
def leftJoin (lefts : List α) (rights : List β) (on : α → β → Truth) : List (α × Option β) :=
  lefts.flatMap fun a => joined a (select rights (on a))

@[simp]
theorem holds_some (b : Bool) : holds (some b) = b := by cases b <;> rfl

@[simp]
theorem holds_and (a b : Truth) : holds (and a b) = (holds a && holds b) := by
  cases a with
  | none => cases b with
    | none => rfl
    | some b => cases b <;> rfl
  | some a => cases a with
    | false => rfl
    | true => simp [and]

@[simp]
theorem holds_or (a b : Truth) : holds (or a b) = (holds a || holds b) := by
  cases a with
  | none => cases b with
    | none => rfl
    | some b => cases b <;> rfl
  | some a => cases a with
    | false => simp [or]
    | true => rfl

/-- Negation of a clause that is not `NULL`. -/
theorem holds_not_some (b : Bool) : holds (not (some b)) = !b := by cases b <;> rfl

theorem holds_all (clauses : List Truth) : holds (all clauses) = clauses.all holds := by
  induction clauses with
  | nil => rfl
  | cons clause rest ih =>
    rw [List.all_cons, ← ih]
    exact holds_and clause (all rest)

theorem holds_eq [DecidableEq α] (x : Option α) (b : α) : holds (eq x (some b)) = decide (x = some b) := by
  cases x with
  | none => rfl
  | some a => simp [eq]

section Membership

variable [DecidableEq α]

/-- Against constants, membership is only `NULL` for a `NULL`. -/
theorem isIn_some (a : α) (values : List α) : isIn (some a) (values.map some) = some (values.contains a) := by
  induction values with
  | nil => rfl
  | cons value rest ih =>
    rw [List.map_cons, isIn, List.foldr_cons, ← isIn, ih]
    by_cases same : a = value
    · simp [eq, or, same]
    · simp [eq, or, same]

theorem holds_notIn (a : α) (values : List α) : holds (not (isIn (some a) (values.map some))) = !values.contains a := by
  rw [isIn_some, holds_not_some]

theorem holds_isIn (x : Option α) (values : List α) : holds (isIn x (values.map some)) = x.any values.contains := by
  cases x with
  | some a => rw [isIn_some, holds_some, Option.any_some]
  | none =>
    induction values with
    | nil => rfl
    | cons value rest ih =>
      rw [List.map_cons, isIn, List.foldr_cons, ← isIn, holds_or, ih]
      rfl

end Membership

@[simp]
theorem existsRow_eq (rows : List α) (clause : α → Truth) :
    existsRow rows clause = some (rows.any fun row => holds (clause row)) := rfl

theorem mem_select {rows : List α} {clause : α → Truth} {row : α} :
    row ∈ select rows clause ↔ row ∈ rows ∧ holds (clause row) := List.mem_filter

/-- `COALESCE(SUM(...), 0)` over values that are not `NULL`. -/
theorem coalesce_sum [AddMonoid M] (values : List M) : (sum (values.map some)).getD 0 = values.sum := by
  have present : (values.map some).reduceOption = values := by
    induction values with
    | nil => rfl
    | cons value rest ih => rw [List.map_cons, List.reduceOption_cons_of_some, ih]
  unfold sum
  rw [present]
  split
  next empty => simp [empty]
  next => rfl

/-- `COALESCE(SUM(...), 0)`, where `NULL` adds nothing. -/
theorem getD_sum [AddMonoid M] (values : List (Option M)) : (sum values).getD 0 = (values.map fun value => value.getD 0).sum := by
  have present : values.reduceOption.sum = (values.map fun value => value.getD 0).sum := by
    induction values with
    | nil => rfl
    | cons value rest ih =>
      cases value with
      | none =>
        rw [List.reduceOption_cons_of_none, ih, List.map_cons, List.sum_cons]
        exact (zero_add _).symm
      | some value => rw [List.reduceOption_cons_of_some, List.sum_cons, ih, List.map_cons, List.sum_cons, Option.getD_some]
  unfold sum
  split
  next empty => rw [← present, empty, List.sum_nil, Option.getD_none]
  next => rw [Option.getD_some, present]

/-- What is chosen of a list, added up. -/
theorem sum_filter [AddMonoid M] (chosen : α → Bool) (measure : α → M) (rows : List α) :
    ((rows.filter chosen).map measure).sum = (rows.map fun row => if chosen row then measure row else 0).sum := by
  induction rows with
  | nil => rfl
  | cons row rest ih =>
    rw [List.map_cons, List.sum_cons, ← ih]
    by_cases here : chosen row = true
    · rw [List.filter_cons_of_pos here, List.map_cons, List.sum_cons, if_pos here]
    · rw [List.filter_cons_of_neg here, if_neg here, zero_add]

theorem sum_filter_cons [AddMonoid M] (chosen : α → Bool) (measure : α → M) (row : α) (rest : List α) :
    (((row :: rest).filter chosen).map measure).sum =
      (if chosen row then measure row else 0) + ((rest.filter chosen).map measure).sum := by
  rw [sum_filter, sum_filter, List.map_cons, List.sum_cons]

/-- What is chosen of a list and what is not, added up. -/
theorem sum_filter_not [AddCommMonoid M] (chosen : α → Bool) (measure : α → M) (rows : List α) :
    ((rows.filter chosen).map measure).sum + ((rows.filter fun row => !chosen row).map measure).sum =
      (rows.map measure).sum := by
  induction rows with
  | nil => exact add_zero 0
  | cons row rest ih =>
    rw [List.map_cons, List.sum_cons, ← ih]
    cases here : chosen row with
    | true => simp [here, add_assoc]
    | false => simp [here, add_left_comm]

theorem sum_filterMap [AddMonoid M] (pick : α → Option β) (measure : β → M) (rows : List α) :
    ((rows.filterMap pick).map measure).sum = (rows.map fun row => ((pick row).map measure).getD 0).sum := by
  induction rows with
  | nil => rfl
  | cons row rest ih =>
    rw [List.map_cons, List.sum_cons, ← ih]
    cases picked : pick row with
    | none =>
      rw [List.filterMap_cons_none picked]
      exact (zero_add _).symm
    | some b =>
      rw [List.filterMap_cons_some picked, List.map_cons, List.sum_cons]
      rfl

theorem mem_joined {a : α} {matches' : List β} {row : α × Option β} (member : row ∈ joined a matches') : row.1 = a := by
  cases matches' with
  | nil => rw [List.mem_singleton.mp member]
  | cons b rest =>
    obtain ⟨_, _, rfl⟩ := List.mem_map.mp member
    rfl

/-- An outer join has the rows of its left side, each at least once, and no others. -/
theorem mem_leftJoin_left {lefts : List α} {rights : List β} {on : α → β → Truth} {a : α} :
    (∃ b, (a, b) ∈ leftJoin lefts rights on) ↔ a ∈ lefts := by
  constructor
  · rintro ⟨b, member⟩
    obtain ⟨left, inLefts, paired⟩ := List.mem_flatMap.mp member
    rw [show a = left from mem_joined paired]
    exact inLefts
  · intro member
    cases found : select rights (on a) with
    | nil =>
      refine ⟨none, List.mem_flatMap.mpr ⟨a, member, ?_⟩⟩
      rw [found]
      exact List.mem_singleton_self _
    | cons b rest =>
      refine ⟨some b, List.mem_flatMap.mpr ⟨a, member, ?_⟩⟩
      rw [found]
      exact List.mem_cons_self

section Joins

variable [AddCommMonoid M]

theorem sum_flatMap (f : α → List β) (measure : β → M) (rows : List α) :
    ((rows.flatMap f).map measure).sum = (rows.map fun row => ((f row).map measure).sum).sum := by
  induction rows with
  | nil => rfl
  | cons row rest ih => rw [List.flatMap_cons, List.map_append, List.sum_append, ih, List.map_cons, List.sum_cons]

/-- Where a row without a partner adds nothing, an outer join adds up like an inner one. -/
theorem sum_leftJoin (lefts : List α) (rights : List β) (on : α → β → Truth) (measure : α × Option β → M)
    (alone : ∀ a, measure (a, none) = 0) :
    ((leftJoin lefts rights on).map measure).sum =
      (lefts.map fun a => ((select rights (on a)).map fun b => measure (a, some b)).sum).sum := by
  rw [leftJoin, sum_flatMap]
  refine congrArg List.sum (List.map_congr_left fun a _ => ?_)
  cases select rights (on a) with
  | nil => simp [joined, alone]
  | cons b rest => rw [joined, List.map_map]; rfl

theorem sum_comm (lefts : List α) (rights : List β) (measure : α → β → M) :
    (lefts.map fun a => (rights.map (measure a)).sum).sum = (rights.map fun b => (lefts.map (measure · b)).sum).sum := by
  induction rights with
  | nil => simp
  | cons b rest ih => simp only [List.map_cons, List.sum_cons, List.sum_map_add, ih]

end Joins

/-- `ORDER BY key DESC LIMIT count`, with ties in the order of the rows. -/
def newest [LinearOrder κ] (key : α → κ) (count : Nat) (rows : List α) : List α :=
  (rows.insertionSort fun one other => key other ≤ key one).take count

/-- A row is within the limit where fewer others are as new. -/
theorem mem_newest [LinearOrder κ] [DecidableEq β] {key : α → κ} {ident : α → β} {count : Nat} {rows : List α}
    (ids : (rows.map ident).Nodup) {row : α} (member : row ∈ rows)
    (few : (rows.filter fun other => key row ≤ key other && ident other ≠ ident row).length < count) :
    row ∈ newest key count rows := by
  have perm := List.perm_insertionSort (fun one other : α => key other ≤ key one) rows
  have sorted := List.pairwise_insertionSort (fun one other : α => key other ≤ key one) rows
  have distinct := ((perm.map ident).nodup_iff).mpr ids
  obtain ⟨newer, older, parts⟩ := List.append_of_mem (perm.mem_iff.mpr member)
  rw [newest]
  have counted : newer.length ≤ (rows.filter fun other => key row ≤ key other && ident other ≠ ident row).length := by
    rw [← (perm.filter _).length_eq, parts, List.filter_append, List.length_append]
    have all : newer.filter (fun other => key row ≤ key other && ident other ≠ ident row) = newer := by
      refine List.filter_eq_self.mpr fun other inside => ?_
      rw [parts] at sorted distinct
      have before := (List.pairwise_append.mp sorted).2.2 other inside row List.mem_cons_self
      rw [List.map_append, List.map_cons] at distinct
      have apart := List.disjoint_of_nodup_append distinct (List.mem_map_of_mem inside)
      simp only [Bool.and_eq_true, decide_eq_true_eq]
      exact ⟨before, fun same => apart (same ▸ List.mem_cons_self)⟩
    rw [all]
    exact Nat.le_add_right _ _
  rw [parts, List.take_append]
  obtain ⟨more, room⟩ : ∃ more, count - newer.length = more + 1 := ⟨count - newer.length - 1, by omega⟩
  rw [room, List.take_succ_cons]
  exact List.mem_append_right _ List.mem_cons_self

/-- `GROUP BY`: each key with its rows. -/
def groupBy [DecidableEq κ] (key : α → κ) (rows : List α) : List (κ × List α) :=
  (rows.map key).dedup.map fun k => (k, rows.filter fun row => key row = k)

/-- What a dictionary built from the groups with a key holds for one of them. -/
theorem lookup_groupBy [DecidableEq κ] (key : α → Option κ) (aggregate : List α → β) (rows : List α) (k : κ) :
    ((groupBy key rows).filterMap fun group => group.1.map fun k => (k, aggregate group.2)).lookup k =
      if some k ∈ rows.map key then some (aggregate (rows.filter fun row => key row = some k)) else none := by
  simp only [groupBy, List.filterMap_map, ← List.mem_dedup (l := rows.map key)]
  induction (rows.map key).dedup with
  | nil => rfl
  | cons first keys ih =>
    cases first with
    | none => simpa using ih
    | some first =>
      by_cases same : k = first
      · simp [same]
      · have apart : (k == first) = false := by simpa using same
        simpa [List.lookup_cons, apart, same] using ih

section GroupBy

variable [DecidableEq κ] [AddCommMonoid M]

/-- The rows of any keys, counted group by group. -/
theorem sum_groups (key : α → κ) (measure : α → M) (rows : List α) (keys : List κ) (distinct : keys.Nodup) :
    (keys.map fun k => ((rows.filter fun row => key row = k).map measure).sum).sum =
      ((rows.filter fun row => key row ∈ keys).map measure).sum := by
  induction keys with
  | nil => simp
  | cons k keys ih =>
    obtain ⟨fresh, distinct⟩ := List.nodup_cons.mp distinct
    rw [List.map_cons, List.sum_cons, ih distinct]
    clear ih
    simp only [List.mem_cons]
    induction rows with
    | nil => simp
    | cons row rows ih =>
      by_cases first : key row = k
      · have later : key row ∉ keys := by rwa [first]
        simp only [List.filter_cons, first, decide_true, if_true, List.map_cons, List.sum_cons, true_or]
        rw [first] at later
        rw [if_neg (by simpa using later), add_assoc, ih]
      · by_cases later : key row ∈ keys
        · simp only [List.filter_cons, first, later, decide_true, decide_false, if_true, Bool.false_eq_true, if_false,
            List.map_cons, List.sum_cons, false_or]
          rw [← ih, add_left_comm]
        · simpa only [List.filter_cons, first, later, decide_false, Bool.false_eq_true, if_false, false_or] using ih

/-- What the groups with a chosen key add up to. -/
theorem sum_groupBy (key : α → κ) (measure : α → M) (chosen : κ → Bool) (rows : List α) :
    (((groupBy key rows).filter fun group => chosen group.1).map fun group => (group.2.map measure).sum).sum =
      ((rows.filter fun row => chosen (key row)).map measure).sum := by
  have keys : ((groupBy key rows).filter fun group => chosen group.1).map (fun group => (group.2.map measure).sum) =
      ((rows.map key).dedup.filter chosen).map fun k => ((rows.filter fun row => key row = k).map measure).sum := by
    unfold groupBy
    rw [List.filter_map, List.map_map]
    rfl
  rw [keys, sum_groups key measure rows _ ((List.nodup_dedup _).filter _)]
  congr 2
  refine List.filter_congr fun row member => ?_
  simp [List.mem_filter, List.mem_dedup, List.mem_map_of_mem member]

end GroupBy

end Payables.Lib.Sql
