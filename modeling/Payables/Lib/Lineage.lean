import Mathlib.Data.List.Nodup

namespace Payables.Lib

/-- Rows that replace earlier rows. `prev` names the row a row replaces, and `key` is what the rows
of one line of replacements have in common. -/
structure Lineage (ρ ι κ : Type*) where
  ident : ρ → ι
  prev : ρ → Option ι
  key : ρ → κ

namespace Lineage

variable {ρ ι κ : Type*} (L : Lineage ρ ι κ)

/-- The identifiers that a later row replaced. -/
def superseded (rows : List ρ) : List ι := rows.filterMap L.prev

/-- The rows nothing has replaced. -/
def active [DecidableEq ι] (rows : List ρ) : List ρ :=
  rows.filter fun row => !(L.superseded rows).contains (L.ident row)

/-- Identifiers are unique, a row replaces an existing row of its own key, and every key has exactly
one row that is not replaced. -/
structure Linear [DecidableEq ι] (rows : List ρ) : Prop where
  distinct : (rows.map L.ident).Nodup
  grounded : ∀ row ∈ rows, ∀ earlier, L.prev row = some earlier →
    ∃ other ∈ rows, L.ident other = earlier ∧ L.key other = L.key row
  single : ((L.active rows).map L.key).Nodup
  headed : ∀ row ∈ rows, ∃ head ∈ L.active rows, L.key head = L.key row

variable [DecidableEq ι] {L} {rows : List ρ}

theorem mem_active {row : ρ} : row ∈ L.active rows ↔ row ∈ rows ∧ ∀ other ∈ rows, L.prev other ≠ some (L.ident row) := by
  simp only [active, superseded, List.mem_filter, Bool.not_eq_true', List.contains_eq_mem, decide_eq_false_iff_not,
    List.mem_filterMap, not_exists, not_and, ne_eq]

theorem active_sublist : (L.active rows).Sublist rows := List.filter_sublist

theorem linear_nil : L.Linear [] where
  distinct := List.nodup_nil
  grounded := fun _ member => nomatch member
  single := List.nodup_nil
  headed := fun _ member => nomatch member

theorem Linear.eq_of_ident (linear : L.Linear rows) {row other : ρ} (member : row ∈ rows) (also : other ∈ rows)
    (same : L.ident row = L.ident other) : row = other :=
  List.inj_on_of_nodup_map linear.distinct member also same

/-- Each key that has a row has exactly one active row. -/
theorem Linear.existsUnique_active (linear : L.Linear rows) {row : ρ} (member : row ∈ rows) :
    ∃ head, (head ∈ L.active rows ∧ L.key head = L.key row) ∧
      ∀ other, other ∈ L.active rows ∧ L.key other = L.key row → other = head := by
  obtain ⟨head, inActive, sameKey⟩ := linear.headed row member
  refine ⟨head, ⟨inActive, sameKey⟩, fun other here => ?_⟩
  exact List.inj_on_of_nodup_map linear.single here.1 inActive (here.2.trans sameKey.symm)

theorem active_map_update {update : ρ → ρ} (sameIdent : ∀ row ∈ rows, L.ident (update row) = L.ident row)
    (samePrev : ∀ row ∈ rows, L.prev (update row) = L.prev row) :
    L.active (rows.map update) = (L.active rows).map update := by
  have replaced : L.superseded (rows.map update) = L.superseded rows := by
    rw [superseded, List.filterMap_map]
    exact List.filterMap_congr samePrev
  rw [active, active, replaced, List.filter_map]
  refine congrArg _ (List.filter_congr fun row member => ?_)
  simp only [Function.comp_apply, sameIdent row member]

/-- Rewriting rows in anything but identifier, predecessor and key keeps the lines. -/
theorem Linear.map_update (linear : L.Linear rows) {update : ρ → ρ}
    (sameIdent : ∀ row ∈ rows, L.ident (update row) = L.ident row)
    (samePrev : ∀ row ∈ rows, L.prev (update row) = L.prev row) (sameKey : ∀ row ∈ rows, L.key (update row) = L.key row) :
    L.Linear (rows.map update) where
  distinct := by
    have same : (rows.map update).map L.ident = rows.map L.ident := by
      rw [List.map_map]
      exact List.map_congr_left sameIdent
    rw [same]
    exact linear.distinct
  grounded := by
    intro row member earlier replaces
    obtain ⟨source, inRows, rfl⟩ := List.mem_map.mp member
    obtain ⟨other, otherIn, ident, key⟩ := linear.grounded source inRows earlier (by rw [← samePrev source inRows, replaces])
    exact ⟨update other, List.mem_map_of_mem otherIn, by rw [sameIdent other otherIn, ident],
      by rw [sameKey other otherIn, sameKey source inRows, key]⟩
  single := by
    have same : ((L.active rows).map update).map L.key = (L.active rows).map L.key := by
      rw [List.map_map]
      exact List.map_congr_left fun row member => sameKey row (active_sublist.subset member)
    rw [active_map_update sameIdent samePrev, same]
    exact linear.single
  headed := by
    intro row member
    obtain ⟨source, inRows, rfl⟩ := List.mem_map.mp member
    obtain ⟨head, inActive, key⟩ := linear.headed source inRows
    rw [active_map_update sameIdent samePrev]
    exact ⟨update head, List.mem_map_of_mem inActive, by
      rw [sameKey head (active_sublist.subset inActive), sameKey source inRows, key]⟩

theorem Linear.not_named (linear : L.Linear rows) {row : ρ} (unused : ∀ other ∈ rows, L.ident other ≠ L.ident row) :
    ∀ other ∈ rows, L.prev other ≠ some (L.ident row) := by
  intro other member replaces
  obtain ⟨named, inRows, ident, _⟩ := linear.grounded other member _ replaces
  exact unused named inRows ident

/-- A new row that replaces nothing starts a line of its own, if its key is new. -/
theorem Linear.append_root (linear : L.Linear rows) {row : ρ} (unused : ∀ other ∈ rows, L.ident other ≠ L.ident row)
    (root : L.prev row = none) (fresh : ∀ other ∈ rows, L.key other ≠ L.key row) : L.Linear (rows ++ [row]) := by
  have notNamed := linear.not_named unused
  have grown : L.active (rows ++ [row]) = L.active rows ++ [row] := by
    have same : L.superseded (rows ++ [row]) = L.superseded rows := by
      simp only [superseded, List.filterMap_append, List.filterMap_cons, root, List.filterMap_nil, List.append_nil]
    have free : (L.superseded rows).contains (L.ident row) = false := by
      simp only [superseded, List.contains_eq_mem, decide_eq_false_iff_not, List.mem_filterMap, not_exists, not_and]
      exact notNamed
    simp only [active, same, List.filter_append, List.filter_cons, free, Bool.not_false, if_true, List.filter_nil]
  refine ⟨?_, ?_, ?_, ?_⟩
  · rw [List.map_append, List.nodup_append]
    refine ⟨linear.distinct, List.nodup_singleton _, ?_⟩
    intro ident member other single same
    obtain ⟨source, inRows, rfl⟩ := List.mem_map.mp member
    exact unused source inRows (same.trans (List.mem_singleton.mp single))
  · intro other member earlier replaces
    rcases List.mem_append.mp member with old | new
    · obtain ⟨named, inRows, facts⟩ := linear.grounded other old earlier replaces
      exact ⟨named, List.mem_append_left _ inRows, facts⟩
    · rw [List.mem_singleton.mp new, root] at replaces
      cases replaces
  · rw [grown, List.map_append, List.nodup_append]
    refine ⟨linear.single, List.nodup_singleton _, ?_⟩
    intro key member other single same
    obtain ⟨source, inActive, rfl⟩ := List.mem_map.mp member
    exact fresh source (active_sublist.subset inActive) (same.trans (List.mem_singleton.mp single))
  · intro other member
    rw [grown]
    rcases List.mem_append.mp member with old | new
    · obtain ⟨head, inActive, key⟩ := linear.headed other old
      exact ⟨head, List.mem_append_left _ inActive, key⟩
    · exact ⟨other, List.mem_append_right _ new, rfl⟩

/-- A new row that replaces an active one is active, and so is every other row that was. -/
theorem Linear.mem_active_append_successor (linear : L.Linear rows) {row earlier : ρ}
    (unused : ∀ other ∈ rows, L.ident other ≠ L.ident row) (replaced : earlier ∈ L.active rows)
    (replaces : L.prev row = some (L.ident earlier)) (other : ρ) : other ∈ L.active (rows ++ [row]) ↔
      (other ∈ L.active rows ∧ L.ident other ≠ L.ident earlier) ∨ other = row := by
  have earlierIn := active_sublist.subset replaced
  simp only [mem_active, List.mem_append, List.mem_singleton]
  constructor
  · rintro ⟨old | rfl, free⟩
    · refine .inl ⟨⟨old, fun third inRows => free third (.inl inRows)⟩, fun same => ?_⟩
      exact free row (.inr rfl) (by rw [replaces, same])
    · exact .inr rfl
  · rintro (⟨⟨old, free⟩, other⟩ | rfl)
    · refine ⟨.inl old, ?_⟩
      rintro third (inRows | rfl)
      · exact free third inRows
      · rw [replaces]
        exact fun same => other (Option.some.inj same).symm
    · refine ⟨.inr rfl, ?_⟩
      rintro third (inRows | rfl)
      · exact linear.not_named unused third inRows
      · rw [replaces]
        exact fun same => unused earlier earlierIn (Option.some.inj same)

/-- A new row that replaces an active row takes its place. -/
theorem Linear.append_successor (linear : L.Linear rows) {row earlier : ρ}
    (unused : ∀ other ∈ rows, L.ident other ≠ L.ident row) (replaced : earlier ∈ L.active rows)
    (replaces : L.prev row = some (L.ident earlier)) (sameKey : L.key row = L.key earlier) : L.Linear (rows ++ [row]) := by
  have earlierIn := active_sublist.subset replaced
  have grown := linear.mem_active_append_successor unused replaced replaces
  have split : L.active (rows ++ [row]) =
      (L.active rows).filter (fun other => L.ident other ≠ L.ident earlier) ++ [row] := by
    have free : (L.superseded (rows ++ [row])).contains (L.ident row) = false := by
      simp only [superseded, List.contains_eq_mem, decide_eq_false_iff_not, List.mem_filterMap, not_exists, not_and]
      exact (mem_active.mp ((grown row).mpr (.inr rfl))).2
    have whole : L.superseded (rows ++ [row]) = L.superseded rows ++ [L.ident earlier] := by
      simp only [superseded, List.filterMap_append, List.filterMap_cons, replaces, List.filterMap_nil]
    rw [active, List.filter_append, List.filter_cons, free, active, List.filter_filter, whole]
    simp only [Bool.not_false, if_true, List.filter_nil, List.contains_eq_mem, List.mem_append, List.mem_singleton,
      Bool.decide_or, Bool.not_or, ne_eq, decide_not, Bool.and_comm]
  refine ⟨?_, ?_, ?_, ?_⟩
  · rw [List.map_append, List.nodup_append]
    refine ⟨linear.distinct, List.nodup_singleton _, ?_⟩
    intro ident member other single same
    obtain ⟨source, inRows, rfl⟩ := List.mem_map.mp member
    exact unused source inRows (same.trans (List.mem_singleton.mp single))
  · intro other member named names
    rcases List.mem_append.mp member with old | new
    · obtain ⟨target, inRows, facts⟩ := linear.grounded other old named names
      exact ⟨target, List.mem_append_left _ inRows, facts⟩
    · cases List.mem_singleton.mp new
      cases Option.some.inj (replaces.symm.trans names)
      exact ⟨earlier, List.mem_append_left _ earlierIn, rfl, sameKey.symm⟩
  · rw [split, List.map_append, List.nodup_append]
    refine ⟨linear.single.sublist (List.filter_sublist.map _), List.nodup_singleton _, ?_⟩
    intro key member other single same
    obtain ⟨source, kept, rfl⟩ := List.mem_map.mp member
    obtain ⟨inActive, different⟩ := List.mem_filter.mp kept
    have shared : L.key source = L.key earlier := (same.trans (List.mem_singleton.mp single)).trans sameKey
    have one := List.inj_on_of_nodup_map linear.single inActive replaced shared
    simp only [one, ne_eq, not_true_eq_false, decide_false, Bool.false_eq_true] at different
  · intro other member
    have current : row ∈ L.active (rows ++ [row]) := (grown row).mpr (.inr rfl)
    rcases List.mem_append.mp member with old | new
    · obtain ⟨head, inActive, key⟩ := linear.headed other old
      by_cases same : L.ident head = L.ident earlier
      · have one := linear.eq_of_ident (active_sublist.subset inActive) earlierIn same
        exact ⟨row, current, by rw [sameKey, ← one, key]⟩
      · exact ⟨head, (grown head).mpr (.inl ⟨inActive, same⟩), key⟩
    · cases List.mem_singleton.mp new
      exact ⟨row, current, rfl⟩

end Lineage

end Payables.Lib
