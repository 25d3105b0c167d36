import Mathlib.Data.List.DropRight
import Mathlib.Data.List.Infix

namespace Payables.Lib

section Framing

variable {α : Type} [DecidableEq α] {a b : α} {text rest : List α} {records : List (List α)}

/-- What stands between the pairs of separators in a text. -/
def cutAtPairs (a b : α) : List α → List (List α)
  | [] => [[]]
  | [c] => [[c]]
  | c :: d :: rest =>
    if c = a ∧ d = b then [] :: cutAtPairs a b rest
    else
      match cutAtPairs a b (d :: rest) with
      | [] => [[c]]
      | line :: lines => (c :: line) :: lines

/-- Records one after the other, each closed by the pair of separators. -/
def framed (a b : α) (records : List (List α)) : List α := records.flatMap (· ++ [a, b])

theorem cutAtPairs_cons {c : α} (apart : ¬(c = a ∧ (text ++ a :: b :: rest).head? = some b)) {line : List α}
    {lines : List (List α)} (cut : cutAtPairs a b (text ++ a :: b :: rest) = line :: lines) :
    cutAtPairs a b (c :: (text ++ a :: b :: rest)) = (c :: line) :: lines := by
  cases parts : text ++ a :: b :: rest with
  | nil => simp at parts
  | cons d others =>
    rw [parts] at cut apart
    have other : ¬(c = a ∧ d = b) := fun both => apart ⟨both.1, congrArg some both.2⟩
    rw [cutAtPairs, if_neg other, cut]

/-- A text without the pair of separators is cut off at the first pair behind it. -/
theorem cutAtPairs_append (apart : a ≠ b) (free : ¬[a, b] <:+: text) :
    cutAtPairs a b (text ++ a :: b :: rest) = text :: cutAtPairs a b rest := by
  induction text with
  | nil => rw [List.nil_append, cutAtPairs, if_pos ⟨rfl, rfl⟩]
  | cons c text ih =>
    have tail : ¬[a, b] <:+: text := fun inside => free (inside.trans (List.suffix_cons c text).isInfix)
    rw [List.cons_append]
    refine cutAtPairs_cons ?_ (ih tail)
    rintro ⟨rfl, head⟩
    cases text with
    | nil => exact apart (Option.some.inj head)
    | cons d others =>
      have same : d = b := Option.some.inj head
      exact free ⟨[], others, by rw [same]; rfl⟩

/-- Framed records are found again, with nothing behind the last. -/
theorem cutAtPairs_framed (apart : a ≠ b) (free : ∀ record ∈ records, ¬[a, b] <:+: record) :
    cutAtPairs a b (framed a b records) = records ++ [[]] := by
  induction records with
  | nil => rfl
  | cons record records ih =>
    have first := free record List.mem_cons_self
    have others := ih fun other member => free other (List.mem_cons_of_mem _ member)
    have parts : framed a b (record :: records) = record ++ a :: b :: framed a b records := by
      rw [framed, List.flatMap_cons, List.append_assoc]
      rfl
    rw [parts, cutAtPairs_append apart first, others]
    rfl

omit [DecidableEq α] in
/-- Joining records by the pair, with one more behind the last, frames them. -/
theorem framed_eq_intercalate (a b : α) (records : List (List α)) :
    framed a b records = [a, b].intercalate records ++ if records = [] then [] else [a, b] := by
  induction records with
  | nil => rfl
  | cons record records ih =>
    have step : framed a b (record :: records) = record ++ ([a, b] ++ framed a b records) := by
      rw [framed, List.flatMap_cons, List.append_assoc]
      rfl
    cases records with
    | nil => simp [framed]
    | cons next others =>
      rw [step, ih, if_neg (List.cons_ne_nil _ _), if_neg (List.cons_ne_nil _ _), List.intercalate_cons_cons]
      simp only [List.append_assoc]

end Framing

section Columns

variable {α : Type} {fields : List (List α)}

/-- The columns of the given widths in a record. -/
def cutColumns : List Nat → List α → List (List α)
  | [], _ => []
  | width :: widths, record => record.take width :: cutColumns widths (record.drop width)

/-- Cutting at the widths of the fields recovers them. -/
theorem cutColumns_flatten (fields : List (List α)) : cutColumns (fields.map List.length) fields.flatten = fields := by
  induction fields with
  | nil => rfl
  | cons field fields ih =>
    rw [List.map_cons, List.flatten_cons, cutColumns, List.take_left, List.drop_left, ih]

end Columns

section Justification

variable {fill : Char} {text : List Char} {width : Nat}

/-- `str.ljust`. -/
def leftJustify (fill : Char) (width : Nat) (text : List Char) : List Char :=
  text ++ List.replicate (width - text.length) fill

/-- `str.rjust`. -/
def rightJustify (fill : Char) (width : Nat) (text : List Char) : List Char :=
  List.replicate (width - text.length) fill ++ text

theorem length_leftJustify (fits : text.length ≤ width) : (leftJustify fill width text).length = width := by
  rw [leftJustify, List.length_append, List.length_replicate]
  omega

theorem length_rightJustify (fits : text.length ≤ width) : (rightJustify fill width text).length = width := by
  rw [rightJustify, List.length_append, List.length_replicate]
  omega

/-- A padded text is known up to what it ends with itself. -/
theorem rdropWhile_leftJustify : (leftJustify fill width text).rdropWhile (· == fill) = text.rdropWhile (· == fill) := by
  rw [leftJustify, List.rdropWhile, List.reverse_append, List.reverse_replicate, List.dropWhile_append_of_pos,
    List.rdropWhile]
  intro c member
  rw [(List.mem_replicate.mp member).2]
  exact beq_self_eq_true fill

end Justification

end Payables.Lib
