import Mathlib.Data.List.DropRight
import Mathlib.Data.List.TakeWhile

namespace Payables.Lib

variable {α : Type*} {blank keep : α → Bool}

/-- A text without the blanks around it. -/
def strip (blank : α → Bool) (text : List α) : List α := (text.dropWhile blank).rdropWhile blank

/-- The blanks in front of a text. -/
def leading (blank : α → Bool) (text : List α) : List α := text.takeWhile blank

/-- The blanks behind a text. A text of blanks has them all in front. -/
def trailing (blank : α → Bool) (text : List α) : List α := (text.dropWhile blank).rtakeWhile blank

theorem leading_strip_trailing (blank : α → Bool) (text : List α) :
    leading blank text ++ (strip blank text ++ trailing blank text) = text := by
  rw [leading, strip, trailing, List.rdropWhile_append_rtakeWhile, List.takeWhile_append_dropWhile]

theorem blank_of_mem_leading {text : List α} {c : α} (member : c ∈ leading blank text) : blank c = true :=
  List.mem_takeWhile_imp member

theorem blank_of_mem_trailing {text : List α} {c : α} (member : c ∈ trailing blank text) : blank c = true :=
  List.mem_rtakeWhile_imp member

theorem mem_of_mem_strip {text : List α} {c : α} (member : c ∈ strip blank text) : c ∈ text := by
  rw [← leading_strip_trailing blank text]
  exact List.mem_append_right _ (List.mem_append_left _ member)

theorem strip_of_solid {text : List α} (solid : ∀ c ∈ text, blank c = false) : strip blank text = text := by
  have front : text.dropWhile blank = text := by
    cases text with
    | nil => rfl
    | cons c rest => exact List.dropWhile_cons_of_neg (by simp [solid c List.mem_cons_self])
  rw [strip, front, List.rdropWhile_eq_self_iff]
  intro nonempty
  simp [solid _ (List.getLast_mem nonempty)]

/-- A change of characters that the blanks do not see. -/
theorem strip_map {f : α → α} (keeps : ∀ c, blank (f c) = blank c) (text : List α) :
    strip blank (text.map f) = (strip blank text).map f := by
  have same : blank ∘ f = blank := funext keeps
  rw [strip, strip, List.dropWhile_map, same, List.rdropWhile, ← List.map_reverse, List.dropWhile_map, same, ← List.map_reverse,
    List.rdropWhile]

theorem strip_cons {c : α} (blanks : blank c = true) (text : List α) : strip blank (c :: text) = strip blank text := by
  rw [strip, List.dropWhile_cons_of_pos blanks, strip]

theorem strip_concat {c : α} (blanks : blank c = true) (text : List α) : strip blank (text ++ [c]) = strip blank text := by
  rw [strip, strip, List.dropWhile_append]
  split
  next all =>
    rw [List.dropWhile_cons_of_pos blanks, List.isEmpty_iff.mp all]
    rfl
  next => rw [List.rdropWhile_concat_pos _ _ _ blanks]

theorem dropWhile_append_cons {c : α} (solid : blank c = false) (before after : List α) :
    (before ++ c :: after).dropWhile blank = before.dropWhile blank ++ c :: after := by
  rw [List.dropWhile_append, List.dropWhile_cons_of_neg (Bool.eq_false_iff.mp solid)]
  split
  next none => rw [List.isEmpty_iff.mp none, List.nil_append]
  next => rfl

/-- Around what is no blank, the blanks are stripped on either side. -/
theorem strip_append_cons {c : α} (solid : blank c = false) (before after : List α) :
    strip blank (before ++ c :: after) = before.dropWhile blank ++ c :: after.rdropWhile blank := by
  rw [strip, dropWhile_append_cons solid, List.rdropWhile, List.reverse_append, List.reverse_cons, List.append_assoc,
    List.singleton_append, dropWhile_append_cons solid, List.reverse_append, List.reverse_cons, List.reverse_reverse,
    List.append_assoc, List.singleton_append]
  rfl

/-- A filter that removes every blank does not see them stripped. -/
theorem filter_strip (apart : ∀ c, blank c = true → keep c = false) (text : List α) :
    (strip blank text).filter keep = text.filter keep := by
  have gone (run : List α) (blanks : ∀ c ∈ run, blank c = true) : run.filter keep = [] := by
    rw [List.filter_eq_nil_iff]
    intro c member
    simp only [apart c (blanks c member), Bool.false_eq_true, not_false_eq_true]
  have front := gone (leading blank text) fun _ member => blank_of_mem_leading member
  have back := gone (trailing blank text) fun _ member => blank_of_mem_trailing member
  conv_rhs => rw [← leading_strip_trailing blank text, List.filter_append, List.filter_append, front, back,
    List.append_nil, List.nil_append]

/-- A stripped text does not begin with a blank. -/
theorem head?_strip {text : List α} {c : α} (head : c ∈ (strip blank text).head?) : blank c = false := by
  obtain ⟨rest, parts⟩ := List.rdropWhile_prefix (p := blank) (text.dropWhile blank)
  have first : (text.dropWhile blank).head? = some c := by
    rw [← parts, List.head?_append]
    exact Option.or_eq_some_iff.mpr (.inl head)
  have stopped := List.head?_dropWhile_not blank text
  rw [first] at stopped
  simpa using stopped

theorem getLast?_strip {text : List α} {c : α} (last : c ∈ (strip blank text).getLast?) : blank c = false := by
  have nonempty : strip blank text ≠ [] := by
    intro empty
    rw [empty] at last
    cases last
  have stopped := List.rdropWhile_last_not (p := blank) (l := text.dropWhile blank) nonempty
  rw [List.getLast?_eq_some_getLast nonempty, Option.mem_some_iff] at last
  rw [← last]
  exact Bool.eq_false_iff.mpr stopped

end Payables.Lib
