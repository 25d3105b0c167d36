import Mathlib.Algebra.BigOperators.Group.List.Basic
import Mathlib.Data.List.Nodup
import Mathlib.Tactic.Abel

namespace Payables.Lib

/-- Overwriting the row of a table that has the identifier of the new one. -/
def putRow {ρ ι : Type*} [DecidableEq ι] (ident : ρ → ι) (row : ρ) (rows : List ρ) : List ρ :=
  rows.map fun other => if ident other = ident row then row else other

/-- The row with the given identifier. -/
def getRow {ρ ι : Type*} [DecidableEq ι] (ident : ρ → ι) (id : ι) (rows : List ρ) : Option ρ :=
  rows.find? fun row => ident row = id

section
variable {ρ ι : Type*} [DecidableEq ι] {ident : ρ → ι} {rows : List ρ} {row : ρ}

theorem getRow_some {id : ι} (found : getRow ident id rows = some row) : row ∈ rows ∧ ident row = id := by
  have matched := List.find?_some found
  exact ⟨List.mem_of_find?_eq_some found, by simpa only [decide_eq_true_eq] using matched⟩

theorem getRow_of_mem (keys : (rows.map ident).Nodup) (member : row ∈ rows) : getRow ident (ident row) rows = some row := by
  cases found : getRow ident (ident row) rows with
  | none =>
    have absent := List.find?_eq_none.mp found row member
    exact absurd (decide_eq_true rfl) absent
  | some other =>
    obtain ⟨also, same⟩ := getRow_some found
    rw [List.inj_on_of_nodup_map keys also member same]

/-- A change of rows that keeps their identifiers. -/
theorem getRow_map {change : ρ → ρ} (keeps : ∀ row, ident (change row) = ident row) (id : ι) :
    getRow ident id (rows.map change) = (getRow ident id rows).map change := by
  rw [getRow, List.find?_map, getRow]
  refine congrArg _ (congrArg (List.find? · rows) (funext fun row => ?_))
  simp only [Function.comp_apply, keeps]

/-- Changing the row of a table that has the given identifier. -/
def changeRow {ρ ι : Type*} [DecidableEq ι] (ident : ρ → ι) (id : ι) (change : ρ → ρ) (rows : List ρ) : List ρ :=
  rows.map fun row => if ident row = id then change row else row

theorem getRow_changeRow_self {change : ρ → ρ} (keeps : ∀ row, ident (change row) = ident row) (id : ι) :
    getRow ident id (changeRow ident id change rows) = (getRow ident id rows).map change := by
  rw [changeRow, getRow_map fun row => by split <;> simp only [keeps]]
  cases found : getRow ident id rows with
  | none => rfl
  | some row => rw [Option.map_some, Option.map_some, if_pos (getRow_some found).2]

theorem getRow_changeRow_of_ne {change : ρ → ρ} (keeps : ∀ row, ident (change row) = ident row) {id other : ι}
    (different : other ≠ id) : getRow ident other (changeRow ident id change rows) = getRow ident other rows := by
  rw [changeRow, getRow_map fun row => by split <;> simp only [keeps]]
  cases found : getRow ident other rows with
  | none => rfl
  | some row => rw [Option.map_some, if_neg fun same => different ((getRow_some found).2.symm.trans same)]

theorem map_ident_changeRow {change : ρ → ρ} (keeps : ∀ row, ident (change row) = ident row) (id : ι) :
    (changeRow ident id change rows).map ident = rows.map ident := by
  rw [changeRow, List.map_map]
  refine List.map_congr_left fun row _ => ?_
  simp only [Function.comp_apply]
  split
  · exact keeps row
  · rfl

theorem mem_changeRow {change : ρ → ρ} {id : ι} {other : ρ} (member : other ∈ changeRow ident id change rows) :
    ∃ source ∈ rows, ident source = id ∧ other = change source ∨ ident source ≠ id ∧ other = source := by
  obtain ⟨source, inRows, rfl⟩ := List.mem_map.mp member
  refine ⟨source, inRows, ?_⟩
  by_cases here : ident source = id
  · exact .inl ⟨here, if_pos here⟩
  · exact .inr ⟨here, if_neg here⟩

theorem mem_changeRow_of_ne {change : ρ → ρ} {id : ι} (member : row ∈ rows) (different : ident row ≠ id) :
    row ∈ changeRow ident id change rows :=
  List.mem_map.mpr ⟨row, member, if_neg different⟩

/-- A change that a search does not see. -/
theorem find?_changeRow {change : ρ → ρ} {keep : ρ → Bool} (agree : ∀ row, keep (change row) = keep row) (id : ι) :
    (changeRow ident id change rows).find? keep =
      (rows.find? keep).map fun row => if ident row = id then change row else row := by
  rw [changeRow, List.find?_map]
  refine congrArg _ (congrArg (List.find? · rows) (funext fun row => ?_))
  simp only [Function.comp_apply]
  split
  · exact agree row
  · rfl

/-- A row that is overwritten is read as the new one. -/
theorem getRow_putRow (id : ι) :
    getRow ident id (putRow ident row rows) = (getRow ident id rows).map fun other => if ident other = ident row then row else other := by
  rw [getRow, putRow, List.find?_map, getRow]
  refine congrArg _ (congrArg (List.find? · rows) (funext fun other => ?_))
  simp only [Function.comp_apply]
  split
  · next same => rw [same]
  · rfl

theorem map_ident_putRow : (putRow ident row rows).map ident = rows.map ident := by
  rw [putRow, List.map_map]
  refine List.map_congr_left fun other _ => ?_
  simp only [Function.comp_apply]
  split
  · next same => exact same.symm
  · rfl

theorem mem_putRow {other : ρ} (member : other ∈ putRow ident row rows) :
    other = row ∨ other ∈ rows ∧ ident other ≠ ident row := by
  obtain ⟨source, inRows, rfl⟩ := List.mem_map.mp member
  split
  · exact .inl rfl
  · next different => exact .inr ⟨inRows, different⟩

theorem mem_putRow_of_ne {other : ρ} (member : other ∈ rows) (different : ident other ≠ ident row) :
    other ∈ putRow ident row rows :=
  List.mem_map.mpr ⟨other, member, if_neg different⟩

theorem mem_putRow_self {other : ρ} (member : other ∈ rows) (same : ident other = ident row) :
    row ∈ putRow ident row rows :=
  List.mem_map.mpr ⟨other, member, if_pos same⟩

/-- A table keeps the rows of a group together with what the group is about. -/
theorem filter_putRow {keep : ρ → Bool} (agree : ∀ other ∈ rows, ident other = ident row → keep row = keep other) :
    (putRow ident row rows).filter keep = putRow ident row (rows.filter keep) := by
  rw [putRow, List.filter_map, putRow]
  refine congrArg _ (List.filter_congr fun other member => ?_)
  simp only [Function.comp_apply]
  split
  · next same => exact agree other member same
  · rfl

/-- A group of rows is the same after deletions and changes of others that move none into it. -/
theorem filter_map_filter {keep stays : ρ → Bool} {change : ρ → ρ}
    (inside : ∀ row ∈ rows, keep row → stays row ∧ change row = row)
    (outside : ∀ row ∈ rows, ¬keep row → ¬keep (change row)) :
    ((rows.filter stays).map change).filter keep = rows.filter keep := by
  induction rows with
  | nil => rfl
  | cons row rest ih =>
    have rest' := ih (fun other member => inside other (List.mem_cons_of_mem row member))
      fun other member => outside other (List.mem_cons_of_mem row member)
    by_cases here : keep row
    · obtain ⟨present, same⟩ := inside row List.mem_cons_self here
      rw [List.filter_cons_of_pos present, List.map_cons, same, List.filter_cons_of_pos here,
        List.filter_cons_of_pos here, rest']
    · have off := outside row List.mem_cons_self here
      rw [List.filter_cons_of_neg here, ← rest']
      by_cases present : stays row
      · rw [List.filter_cons_of_pos present, List.map_cons, List.filter_cons_of_neg off]
      · rw [List.filter_cons_of_neg present]

/-- What the rows with an identifier add up to, where there is at most one. -/
theorem sum_getRow {M : Type*} [AddCommMonoid M] (measure : ρ → M) (keys : (rows.map ident).Nodup) (id : ι) :
    (rows.map fun other => if ident other = id then measure other else 0).sum = ((getRow ident id rows).map measure).getD 0 := by
  induction rows with
  | nil => rfl
  | cons first rest ih =>
    obtain ⟨fresh, keys⟩ := List.nodup_cons.mp keys
    rw [List.map_cons, List.sum_cons, ih keys]
    by_cases here : ident first = id
    · have absent : getRow ident id rest = none := by
        refine List.find?_eq_none.mpr fun other inRest => ?_
        have apart : ident other ≠ id := fun same => fresh (List.mem_map.mpr ⟨other, inRest, same.trans here.symm⟩)
        simpa using apart
      rw [if_pos here, absent, getRow, List.find?_cons_of_pos (by simpa using here)]
      exact add_zero _
    · rw [if_neg here, zero_add, getRow, getRow, List.find?_cons_of_neg (by simpa using here)]

/-- Overwriting a row changes a total by what the row changes. -/
theorem sum_putRow {M : Type*} [AddCommGroup M] (measure : ρ → M) (keys : (rows.map ident).Nodup) {old : ρ} (member : old ∈ rows)
    (same : ident old = ident row) :
    ((putRow ident row rows).map measure).sum = (rows.map measure).sum - measure old + measure row := by
  induction rows with
  | nil => cases member
  | cons first rest ih =>
    obtain ⟨fresh, keys⟩ := List.nodup_cons.mp keys
    rcases List.mem_cons.mp member with rfl | later
    · have others : putRow ident row rest = rest := by
        refine (List.map_congr_left fun other inRest => if_neg fun clash => fresh ?_).trans (List.map_id rest)
        exact List.mem_map.mpr ⟨other, inRest, clash.trans same.symm⟩
      simp only [putRow] at others ⊢
      rw [List.map_cons, if_pos same, others, List.map_cons, List.map_cons, List.sum_cons, List.sum_cons]
      abel
    · have apart : ident first ≠ ident row := fun clash =>
        fresh (List.mem_map.mpr ⟨old, later, same.trans clash.symm⟩)
      have rest' := ih keys later
      simp only [putRow] at rest' ⊢
      rw [List.map_cons, if_neg apart, List.map_cons, List.map_cons, List.sum_cons, List.sum_cons, rest']
      abel

/-- Changing a row that is stored overwrites it. -/
theorem changeRow_eq_putRow {change : ρ → ρ} (keys : (rows.map ident).Nodup) {old : ρ} (member : old ∈ rows)
    (keeps : ident (change old) = ident old) : changeRow ident (ident old) change rows = putRow ident (change old) rows := by
  refine List.map_congr_left fun other inRows => ?_
  rw [keeps]
  split
  next same => rw [List.inj_on_of_nodup_map keys inRows member same]
  next => rfl

/-- Changing a row changes a total by what the row changes. -/
theorem sum_changeRow {M : Type*} [AddCommGroup M] {change : ρ → ρ} (measure : ρ → M) (keys : (rows.map ident).Nodup) {old : ρ}
    (member : old ∈ rows) (keeps : ident (change old) = ident old) :
    ((changeRow ident (ident old) change rows).map measure).sum =
      (rows.map measure).sum - measure old + measure (change old) := by
  rw [changeRow_eq_putRow keys member keeps]
  exact sum_putRow measure keys member keeps.symm

/-- A total without one row. -/
theorem sum_others {M : Type*} [AddCommGroup M] (measure : ρ → M) (keys : (rows.map ident).Nodup) {old : ρ} (member : old ∈ rows) :
    ((rows.filter fun other => ident other ≠ ident old).map measure).sum = (rows.map measure).sum - measure old := by
  induction rows with
  | nil => cases member
  | cons first rest ih =>
    obtain ⟨fresh, keys⟩ := List.nodup_cons.mp keys
    rcases List.mem_cons.mp member with rfl | later
    · have others : rest.filter (fun other => ident other ≠ ident old) = rest := by
        refine List.filter_eq_self.mpr fun other inRest => decide_eq_true fun clash => fresh ?_
        exact List.mem_map.mpr ⟨other, inRest, clash⟩
      rw [List.filter_cons, if_neg (by simp), others, List.map_cons, List.sum_cons]
      abel
    · have apart : ident first ≠ ident old := fun clash => fresh (List.mem_map.mpr ⟨old, later, clash.symm⟩)
      rw [List.filter_cons, if_pos (by simpa using apart), List.map_cons, List.sum_cons, List.map_cons, List.sum_cons,
        ih keys later]
      abel

end

end Payables.Lib
