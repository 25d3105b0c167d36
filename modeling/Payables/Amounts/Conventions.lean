import Payables.Lib.Spelling

namespace Payables
open Lib

/-- Which separator is the decimal point: `us` writes `1,234.56`, `eu` writes `1.234,56`. -/
inductive AmountConvention
  | us
  | eu
  deriving DecidableEq

/-- The separator between thousands. -/
def AmountConvention.group : AmountConvention → Char
  | us => ','
  | eu => '.'

/-- The decimal separator. -/
def AmountConvention.point : AmountConvention → Char
  | us => '.'
  | eu => ','

/-- `str.rfind` of a character. -/
def rfind (c : Char) (text : List Char) : ℤ :=
  if c ∈ text then (text.length : ℤ) - 1 - text.reverse.idxOf c else -1

/-- `_is_group`. -/
def isGroup (part : List Char) : Bool := part.length == 3 && part.all isAnyDigit

/-- `convention_proved_by`. -/
def conventionProvedBy (core : List Char) : Option AmountConvention :=
  if ',' ∈ core ∧ '.' ∈ core then
    if rfind ',' core < rfind '.' core then some .us else some .eu
  else if ',' ∉ core ∧ '.' ∉ core then none
  else
    let sep := if ',' ∈ core then ',' else '.'
    let parts := core.splitOn sep
    if 2 < parts.length then
      if (parts.drop 1).all isGroup then (if sep = ',' then some .us else some .eu) else none
    else if ((parts.drop 1).headD []).length = 1 ∨ ((parts.drop 1).headD []).length = 2 then
      if sep = ',' then some .eu else some .us
    else none

/-- `detect_convention`: the one convention that is voted for, where no token votes for another. -/
def detectConvention (cores : List (List Char)) : Option AmountConvention :=
  let votes := cores.filterMap conventionProvedBy
  votes.head?.filter fun vote => votes.all (· == vote)

/-- The convention that `apply_convention` reads a token in. -/
def conventionRead (core : List Char) (convention : Option AmountConvention) : AmountConvention :=
  ((conventionProvedBy core).or convention).getD .us

/-- A token without the separators of thousands, and with a period for the decimal separator. -/
def rewriteAs (convention : AmountConvention) (core : List Char) : List Char :=
  match convention with
  | .us => core.filter (· != ',')
  | .eu => (core.filter (· != '.')).map fun c => if c = ',' then '.' else c

/-- `apply_convention`. -/
def applyConvention (core : List Char) (convention : Option AmountConvention) : List Char :=
  let reading :=
    match conventionProvedBy core with
    | some proved => some proved
    | none => if ',' ∈ core ∨ '.' ∈ core then some (convention.getD .us) else none
  if reading = some .eu then (core.filter (· != '.')).map fun c => if c = ',' then '.' else c
  else core.filter (· != ',')

section Proofs

variable {core : List Char}

/-- The other convention. -/
def AmountConvention.other : AmountConvention → AmountConvention
  | us => eu
  | eu => us

theorem conventionProvedBy_plain (plain : ',' ∉ core ∧ '.' ∉ core) : conventionProvedBy core = none := by
  rw [conventionProvedBy, if_neg (fun both => plain.1 both.1), if_pos plain]

/-- What the separator of thousands proves alone. -/
theorem conventionProvedBy_group {convention : AmountConvention} (grouped : convention.group ∈ core)
    (whole : convention.point ∉ core) : conventionProvedBy core =
      let parts := core.splitOn convention.group
      if 2 < parts.length then (if (parts.drop 1).all isGroup then some convention else none)
      else if ((parts.drop 1).headD []).length = 1 ∨ ((parts.drop 1).headD []).length = 2 then some convention.other
      else none := by
  cases convention with
  | us =>
    have comma : ',' ∈ core := grouped
    have period : '.' ∉ core := whole
    simp [conventionProvedBy, comma, period, AmountConvention.group, AmountConvention.other]
  | eu =>
    have comma : ',' ∉ core := whole
    have period : '.' ∈ core := grouped
    simp [conventionProvedBy, comma, period, AmountConvention.group, AmountConvention.other]

/-- What the decimal separator proves alone. -/
theorem conventionProvedBy_point {convention : AmountConvention} (pointed : convention.point ∈ core)
    (ungrouped : convention.group ∉ core) : conventionProvedBy core =
      let parts := core.splitOn convention.point
      if 2 < parts.length then (if (parts.drop 1).all isGroup then some convention.other else none)
      else if ((parts.drop 1).headD []).length = 1 ∨ ((parts.drop 1).headD []).length = 2 then some convention
      else none := by
  cases convention with
  | us => exact @conventionProvedBy_group core .eu pointed ungrouped
  | eu => exact @conventionProvedBy_group core .us pointed ungrouped

theorem rfind_lt_iff {a b : Char} (first : a ∈ core) (second : b ∈ core) :
    rfind a core < rfind b core ↔ core.reverse.idxOf b < core.reverse.idxOf a := by
  rw [rfind, rfind, if_pos first, if_pos second]
  omega

theorem rfind_ne {a b : Char} (apart : a ≠ b) (first : a ∈ core) (second : b ∈ core) : rfind a core ≠ rfind b core := by
  intro same
  rw [rfind, rfind, if_pos first, if_pos second] at same
  have equal : core.reverse.idxOf a = core.reverse.idxOf b := by omega
  have left := List.getElem_idxOf (List.idxOf_lt_length_of_mem (List.mem_reverse.mpr first))
  have right := List.getElem_idxOf (List.idxOf_lt_length_of_mem (List.mem_reverse.mpr second))
  simp only [equal] at left
  exact apart (left.symm.trans right)

/-- Both separators prove the convention whose decimal separator comes last. -/
theorem conventionProvedBy_both {convention : AmountConvention} (grouped : convention.group ∈ core)
    (pointed : convention.point ∈ core) (last : rfind convention.group core < rfind convention.point core) :
    conventionProvedBy core = some convention := by
  cases convention with
  | us =>
    rw [conventionProvedBy, if_pos ⟨grouped, pointed⟩]
    exact if_pos last
  | eu =>
    rw [conventionProvedBy, if_pos ⟨pointed, grouped⟩]
    exact if_neg (not_lt.mpr (le_of_lt last))

/-- The decimal separator comes last where no separator of thousands follows it. -/
theorem rfind_lt_of_tail {a b : Char} {front tail : List Char} (apart : a ≠ b) (before : a ∈ front) (clear : a ∉ tail) :
    rfind a (front ++ b :: tail) < rfind b (front ++ b :: tail) := by
  rw [rfind_lt_iff (List.mem_append_left _ before) (List.mem_append_right _ List.mem_cons_self)]
  rw [List.reverse_append, List.reverse_cons, List.append_assoc, List.singleton_append]
  have reached : (tail.reverse ++ b :: front.reverse).idxOf b ≤ tail.length := by
    by_cases earlier : b ∈ tail.reverse
    · rw [List.idxOf_append, if_pos earlier]
      have bound := List.idxOf_lt_length_of_mem earlier
      rw [List.length_reverse] at bound
      omega
    · rw [List.idxOf_append, if_neg earlier, List.idxOf_cons_self, List.length_reverse]
      omega
  have passed : tail.length < (tail.reverse ++ b :: front.reverse).idxOf a := by
    have other : (b == a) = false := beq_eq_false_iff_ne.mpr apart.symm
    rw [List.idxOf_append, if_neg (by rwa [List.mem_reverse]), List.idxOf_cons, other, List.length_reverse]
    simp only [Bool.cond_false]
    omega
  omega

end Proofs

section Readings

variable {core : List Char} {convention : Option AmountConvention}

/-- Without a separator every convention reads a token alike. -/
theorem rewriteAs_plain (plain : ',' ∉ core ∧ '.' ∉ core) (reading : AmountConvention) : rewriteAs reading core = core := by
  have comma : ∀ c ∈ core, c ≠ ',' := fun c member same => plain.1 (same ▸ member)
  have period : ∀ c ∈ core, c ≠ '.' := fun c member same => plain.2 (same ▸ member)
  cases reading with
  | us =>
    rw [rewriteAs, List.filter_eq_self]
    exact fun c member => bne_iff_ne.mpr (comma c member)
  | eu =>
    have kept : core.filter (· != '.') = core := List.filter_eq_self.mpr fun c member => bne_iff_ne.mpr (period c member)
    rw [rewriteAs, kept]
    exact (List.map_congr_left fun c member => if_neg (comma c member)).trans (List.map_id' core)

/-- A convention is read by dropping its separators of thousands and putting a period for its decimal separator. -/
theorem rewriteAs_eq (reading : AmountConvention) (core : List Char) : rewriteAs reading core =
    (core.filter (· != reading.group)).map fun c => if c = reading.point then '.' else c := by
  cases reading with
  | us =>
    have same : (fun c : Char => if c = '.' then '.' else c) = id := by
      funext c
      by_cases period : c = '.'
      · rw [if_pos period, period, id]
      · rw [if_neg period, id]
    rw [rewriteAs, AmountConvention.group, AmountConvention.point, same, List.map_id]
  | eu => rfl

theorem applyConvention_eq : applyConvention core convention = rewriteAs (conventionRead core convention) core := by
  simp only [applyConvention, conventionRead]
  cases conventionProvedBy core with
  | some proved => cases proved <;> simp [rewriteAs]
  | none =>
    by_cases separated : ',' ∈ core ∨ '.' ∈ core
    · cases convention with
      | none => simp [separated, rewriteAs]
      | some read => cases read <;> simp [separated, rewriteAs]
    · rw [not_or] at separated
      have plain := rewriteAs_plain separated
      rw [Option.none_or, plain, if_neg (not_or.mpr separated), if_neg (by simp)]
      exact plain .us

section Pieces

variable {reading : AmountConvention}

theorem rewriteAs_append (a b : List Char) : rewriteAs reading (a ++ b) = rewriteAs reading a ++ rewriteAs reading b := by
  simp only [rewriteAs_eq, List.filter_append, List.map_append]

/-- Rewriting leaves a sign alone. -/
theorem rewriteAs_signText (sign : Option Bool) : rewriteAs reading (signText sign) = signText sign := by
  cases reading <;> cases sign with
  | none => rfl
  | some negative => cases negative <;> rfl

/-- Rewriting leaves a minus alone. -/
theorem rewriteAs_minus (negative : Bool) :
    rewriteAs reading (if negative then ['-'] else []) = if negative then ['-'] else [] := by
  cases reading <;> cases negative <;> rfl

end Pieces

/-- A token that proves a convention is read in it, whatever the document is written in. -/
theorem conventionRead_of_proved {proved : AmountConvention} (proves : conventionProvedBy core = some proved) :
    conventionRead core convention = proved := by
  rw [conventionRead, proves, Option.some_or, Option.getD_some]

/-- Tokens that prove no other convention, and of which one proves it, detect it. -/
theorem detectConvention_eq {cores : List (List Char)} {vote : AmountConvention}
    (unanimous : ∀ core ∈ cores, conventionProvedBy core = none ∨ conventionProvedBy core = some vote)
    (proved : ∃ core ∈ cores, conventionProvedBy core ≠ none) : detectConvention cores = some vote := by
  have same : ∀ cast ∈ cores.filterMap conventionProvedBy, cast = vote := by
    intro cast member
    obtain ⟨core, source, proves⟩ := List.mem_filterMap.mp member
    rcases unanimous core source with nothing | only
    · rw [nothing] at proves
      cases proves
    · exact Option.some.inj (proves.symm.trans only)
  obtain ⟨core, member, proves⟩ := proved
  have cast : vote ∈ cores.filterMap conventionProvedBy :=
    List.mem_filterMap.mpr ⟨core, member, (unanimous core member).resolve_left proves⟩
  cases votes : cores.filterMap conventionProvedBy with
  | nil =>
    rw [votes] at cast
    cases cast
  | cons first rest =>
    rw [votes] at same
    have all : (first :: rest).all (· == vote) = true :=
      List.all_eq_true.mpr fun c member => beq_iff_eq.mpr (same c member)
    have head := same first List.mem_cons_self
    simp only [detectConvention, votes, List.head?_cons, Option.filter_some]
    rw [head] at all ⊢
    rw [if_pos all]

end Readings

end Payables
