import Mathlib.Data.List.DropRight
import Mathlib.Data.List.Infix

namespace Payables.Lib

/-- A character that a text holds no more than the ending does can be cut off in front of it. -/
theorem suffix_after {α : Type*} {ending head rest : List α} {c : α} (free : c ∉ ending) :
    ending <:+ head ++ c :: rest ↔ ending <:+ rest := by
  constructor
  · intro ends
    have tail : c :: rest <:+ head ++ c :: rest := ⟨head, rfl⟩
    rcases List.suffix_or_suffix_of_suffix ends tail with short | long
    · rcases List.suffix_cons_iff.mp short with rfl | inside
      · exact absurd List.mem_cons_self free
      · exact inside
    · exact absurd (long.sublist.mem List.mem_cons_self) free
  · intro ends
    exact ends.trans ((List.suffix_cons c rest).trans ⟨head, rfl⟩)

theorem rdropWhile_after {α : Type*} {blank : α → Bool} {head rest : List α} {c : α} (solid : blank c = false) :
    (head ++ c :: rest).rdropWhile blank = head ++ c :: rest.rdropWhile blank := by
  induction rest using List.reverseRecOn with
  | nil =>
    rw [List.rdropWhile_concat_neg _ _ _ (by simp [solid]), List.rdropWhile_nil]
  | append_singleton rest last ih =>
    rw [show head ++ c :: (rest ++ [last]) = (head ++ c :: rest) ++ [last] by simp]
    by_cases ends : blank last = true
    · rw [List.rdropWhile_concat_pos _ _ _ ends, List.rdropWhile_concat_pos _ _ _ ends, ih]
    · rw [List.rdropWhile_concat_neg _ _ _ ends, List.rdropWhile_concat_neg _ _ _ ends]
      simp

/-- A blank in front goes only when everything behind it goes. -/
theorem rdropWhile_cons_cases {α : Type*} (blank : α → Bool) (c : α) (rest : List α) :
    (rest.rdropWhile blank = [] ∧ (c :: rest).rdropWhile blank = []) ∨
      (c :: rest).rdropWhile blank = c :: rest.rdropWhile blank := by
  induction rest using List.reverseRecOn with
  | nil =>
    rw [List.rdropWhile_singleton, List.rdropWhile_nil]
    by_cases gone : blank c = true
    · exact .inl ⟨rfl, if_pos gone⟩
    · exact .inr (if_neg gone)
  | append_singleton rest last ih =>
    rw [← List.cons_append]
    by_cases ends : blank last = true
    · rw [List.rdropWhile_concat_pos _ _ _ ends, List.rdropWhile_concat_pos _ _ _ ends]
      exact ih
    · rw [List.rdropWhile_concat_neg _ _ _ ends, List.rdropWhile_concat_neg _ _ _ ends]
      exact .inr rfl

/-- The characters a float is written with. -/
def isFloatChar (c : Char) : Bool := "0123456789.e+-infa".toList.contains c

/-- A float, by its `repr`. -/
structure FloatText where
  text : String
  valid : text.toList.all isFloatChar = true

/-- A parsed JSON text. Keys of an object are distinct, as the parser keeps the last of equal ones. -/
inductive Json
  | null
  | bool (value : Bool)
  | int (value : Int)
  | float (value : FloatText)
  | str (value : String)
  | list (items : List Json)
  | object (fields : List (String × Json))

/-- One character of a string's `repr` between quotes `quote`. -/
def reprChar (quote : Char) (c : Char) : List Char :=
  let n := c.toNat
  let hex := (Nat.toDigits 16 n).map Char.toLower
  if c == quote || c == '\\' then ['\\', c]
  else if c == '\t' then ['\\', 't']
  else if c == '\n' then ['\\', 'n']
  else if c == '\r' then ['\\', 'r']
  else if n < 32 || (127 ≤ n && n ≤ 160) || n == 173 then ['\\', 'x'] ++ List.replicate (2 - hex.length) '0' ++ hex
  else [c]

/-- `repr` of a string. -/
def reprText (text : String) : List Char :=
  let single := Char.ofNat 39
  let double := Char.ofNat 34
  let quote := if text.toList.contains single && !text.toList.contains double then double else single
  quote :: (text.toList.flatMap (reprChar quote) ++ [quote])

/-- Items with `", "` between them. -/
def commaSeparated : List (List Char) → List Char
  | [] => []
  | [item] => item
  | item :: rest => item ++ [',', ' '] ++ commaSeparated rest

namespace Json

mutual

/-- `repr`. -/
def repr : Json → List Char
  | null => "None".toList
  | bool value => if value then "True".toList else "False".toList
  | int value => (toString value).toList
  | float value => value.text.toList
  | str value => reprText value
  | list items => '[' :: (commaSeparated (reprItems items) ++ [']'])
  | object fields => Char.ofNat 123 :: (commaSeparated (reprFields fields) ++ [Char.ofNat 125])

def reprItems : List Json → List (List Char)
  | [] => []
  | item :: rest => item.repr :: reprItems rest

def reprFields : List (String × Json) → List (List Char)
  | [] => []
  | (key, value) :: rest => (reprText key ++ [':', ' '] ++ value.repr) :: reprFields rest

end

/-- `str`. -/
def toText : Json → List Char
  | str value => value.toList
  | other => other.repr

/-- `bool`. -/
def truthy : Json → Bool
  | null => false
  | bool value => value
  | int value => value != 0
  | float value => value.text != "0.0" && value.text != "-0.0"
  | str value => value != ""
  | list items => !items.isEmpty
  | object fields => !fields.isEmpty

/-- The field of an object. -/
def field? (key : String) : Json → Option Json
  | object fields => fields.lookup key
  | _ => none

/-- `a or b`. -/
def orElse (a b : Json) : Json := if a.truthy then a else b

theorem underscore_not_mem_int (value : Int) : '_' ∉ (toString value).toList := by
  have digits (n : Nat) : '_' ∉ n.repr.toList := by
    intro member
    rw [Nat.toList_repr] at member
    exact absurd (Nat.isDigit_of_mem_toDigits (by decide) (by decide) member) (by decide)
  cases value with
  | ofNat n => exact digits n
  | negSucc n =>
    show '_' ∉ ("-" ++ (n + 1).repr).toList
    rw [String.toList_append, List.mem_append]
    rintro (sign | digit)
    · exact absurd sign (by decide)
    · exact digits (n + 1) digit

theorem underscore_not_mem_float (value : FloatText) : '_' ∉ value.text.toList := by
  intro member
  exact absurd (List.all_eq_true.mp value.valid '_' member) (by decide)

theorem last_of_suffix {α : Type*} {ending list : List α} {last : α} (nonempty : ending ≠ []) (ends : ending <:+ list ++ [last]) :
    ending.getLast? = some last := by
  obtain ⟨start, same⟩ := ends
  have lasts := congrArg List.getLast? same
  rw [List.getLast?_append_of_ne_nil _ nonempty, List.getLast?_concat] at lasts
  exact lasts

/-- A text with an underscore that closes no bracket ends the text of a string only. -/
theorem str_of_suffix_toText {value : Json} {ending : List Char} {blank : Char → Bool} (marked : '_' ∈ ending)
    (unlisted : ending.getLast? ≠ some ']') (unkeyed : ending.getLast? ≠ some (Char.ofNat 125))
    (solid : blank ']' = false ∧ blank (Char.ofNat 125) = false) (ends : ending <:+ value.toText.rdropWhile blank) :
    ∃ text, value = .str text := by
  have nonempty := List.ne_nil_of_mem marked
  have inside : '_' ∈ value.toText := (List.rdropWhile_prefix _ _).sublist.mem (ends.sublist.mem marked)
  cases value with
  | str text => exact ⟨text, rfl⟩
  | null => exact absurd inside (by decide)
  | bool value => cases value <;> exact absurd inside (by decide)
  | int value => exact absurd inside (underscore_not_mem_int value)
  | float value => exact absurd inside (underscore_not_mem_float value)
  | list items =>
    have text : (Json.list items).toText = '[' :: commaSeparated (reprItems items) ++ [']'] := rfl
    rw [text, List.rdropWhile_concat_neg _ _ _ (by simp [solid])] at ends
    exact absurd (last_of_suffix nonempty ends) unlisted
  | object fields =>
    have text : (Json.object fields).toText =
        Char.ofNat 123 :: commaSeparated (reprFields fields) ++ [Char.ofNat 125] := rfl
    rw [text, List.rdropWhile_concat_neg _ _ _ (by simp [solid])] at ends
    exact absurd (last_of_suffix nonempty ends) unkeyed

end Json

end Payables.Lib
