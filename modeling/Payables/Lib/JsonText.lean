import Mathlib
import Payables.Lib.Json

namespace Payables.Lib.Json

/-- `\u` and four hexadecimal digits. -/
def escapeUnit (n : Nat) : List Char :=
  ['\\', 'u', Nat.digitChar (n / 4096), Nat.digitChar (n / 256 % 16), Nat.digitChar (n / 16 % 16), Nat.digitChar (n % 16)]

/-- The surrogates of a character beyond the first plane. -/
def highSurrogate (n : Nat) : Nat := 0xD800 + (n - 0x10000) / 1024

def lowSurrogate (n : Nat) : Nat := 0xDC00 + (n - 0x10000) % 1024

/-- A character of a string, in ASCII. -/
def escapeChar (c : Char) : List Char :=
  let n := c.toNat
  if n = 34 then ['\\', '"']
  else if n = 92 then ['\\', '\\']
  else if n = 10 then ['\\', 'n']
  else if n = 13 then ['\\', 'r']
  else if n = 9 then ['\\', 't']
  else if n = 8 then ['\\', 'b']
  else if n = 12 then ['\\', 'f']
  else if 32 ≤ n ∧ n ≤ 126 then [c]
  else if n < 0x10000 then escapeUnit n
  else escapeUnit (highSurrogate n) ++ escapeUnit (lowSurrogate n)

def quoted (text : String) : List Char := '"' :: (text.toList.flatMap escapeChar ++ ['"'])

/-- Items with commas between them. -/
def joined : List (List Char) → List Char
  | [] => []
  | [item] => item
  | item :: rest => item ++ ',' :: joined rest

mutual

/-- `json.dumps(value, separators=(",", ":"))`. -/
def dumps : Json → List Char
  | null => "null".toList
  | bool value => if value then "true".toList else "false".toList
  | int value => (if value < 0 then ['-'] else []) ++ Nat.toDigits 10 value.natAbs
  | float value => value.text.toList
  | str value => quoted value
  | list items => '[' :: (joined (dumpsItems items) ++ [']'])
  | object fields => Char.ofNat 123 :: (joined (dumpsFields fields) ++ [Char.ofNat 125])

def dumpsItems : List Json → List (List Char)
  | [] => []
  | item :: rest => dumps item :: dumpsItems rest

def dumpsFields : List (String × Json) → List (List Char)
  | [] => []
  | (key, value) :: rest => (quoted key ++ ':' :: dumps value) :: dumpsFields rest

end

example : dumps .null = "null".toList := by rw [dumps]

/-- The fields in the order of their keys. -/
def sortKeys (fields : List (String × Json)) : List (String × Json) :=
  fields.insertionSort fun one other => one.1 ≤ other.1

def isBlank (c : Char) : Bool := c == ' ' || c == '\t' || c == '\n' || c == '\r'

def skipBlank (text : List Char) : List Char := text.dropWhile isBlank

def hexValue? (c : Char) : Option Nat :=
  let n := c.toNat
  if 48 ≤ n ∧ n ≤ 57 then some (n - 48)
  else if 97 ≤ n ∧ n ≤ 102 then some (n - 87)
  else if 65 ≤ n ∧ n ≤ 70 then some (n - 55)
  else none

def hexUnit? (a b c d : Char) : Option Nat := do
  let first ← hexValue? a
  let second ← hexValue? b
  let third ← hexValue? c
  let fourth ← hexValue? d
  return first * 4096 + second * 256 + third * 16 + fourth

/-- What stands for one character or one code unit in a string. -/
inductive StringUnit
  | char (c : Char)
  | escaped (n : Nat)

/-- The character an escape of two characters stands for. -/
def escape? (c : Char) : Option Char :=
  if c = '"' then some '"'
  else if c = '\\' then some '\\'
  else if c = '/' then some '/'
  else if c = 'b' then some (Char.ofNat 8)
  else if c = 'f' then some (Char.ofNat 12)
  else if c = 'n' then some '\n'
  else if c = 'r' then some '\r'
  else if c = 't' then some '\t'
  else none

/-- The units of a string up to its closing quote, and what follows it. -/
def stringUnits : List Char → Option (List StringUnit × List Char)
  | [] => none
  | '"' :: rest => some ([], rest)
  | '\\' :: 'u' :: a :: b :: c :: d :: rest => do
    let unit ← hexUnit? a b c d
    let units ← stringUnits rest
    return (.escaped unit :: units.1, units.2)
  | '\\' :: c :: rest => do
    let char ← escape? c
    let units ← stringUnits rest
    return (.char char :: units.1, units.2)
  | c :: rest =>
    if c.toNat < 32 then none
    else do
      let units ← stringUnits rest
      return (.char c :: units.1, units.2)

example : stringUnits ['"'] = some ([], []) := by rw [stringUnits]

def isHigh (n : Nat) : Bool := 0xD800 ≤ n && n ≤ 0xDBFF

def isLow (n : Nat) : Bool := 0xDC00 ≤ n && n ≤ 0xDFFF

/-- The character of a code unit that is no surrogate. -/
def scalar? (n : Nat) : Option Char := if isHigh n || isLow n then none else some (Char.ofNat n)

/-- The characters of some units: a high and a low surrogate are one. -/
def joinUnits : List StringUnit → Option (List Char)
  | [] => some []
  | .char c :: rest => (joinUnits rest).map (c :: ·)
  | .escaped n :: .escaped m :: rest =>
    if isHigh n && isLow m then
      (joinUnits rest).map (Char.ofNat (0x10000 + (n - 0xD800) * 1024 + (m - 0xDC00)) :: ·)
    else (scalar? n).bind fun c => (joinUnits (.escaped m :: rest)).map (c :: ·)
  | .escaped n :: rest => (scalar? n).bind fun c => (joinUnits rest).map (c :: ·)

/-- A string behind its opening quote. -/
def readString (text : List Char) : Option (String × List Char) := do
  let units ← stringUnits text
  let chars ← joinUnits units.1
  return (String.ofList chars, units.2)

/-- The digits in front of a number's point. -/
def wholeDigits (text : List Char) : List Char :=
  match text with
  | '0' :: _ => ['0']
  | _ => text.takeWhile Char.isDigit

/-- The fraction of a number, if it has one. -/
def fractionDigits : List Char → List Char
  | '.' :: rest => if rest.takeWhile Char.isDigit = [] then [] else '.' :: rest.takeWhile Char.isDigit
  | _ => []

def powerSign : List Char → List Char
  | '-' :: _ => ['-']
  | '+' :: _ => ['+']
  | _ => []

/-- The exponent of a number, if it has one. -/
def powerDigits : List Char → List Char
  | c :: rest =>
    let digits := (rest.drop (powerSign rest).length).takeWhile Char.isDigit
    if (c = 'e' ∨ c = 'E') ∧ digits ≠ [] then c :: (powerSign rest ++ digits) else []
  | [] => []

variable (floatOf : List Char → FloatText)

/-- A number. -/
def readNumber (text : List Char) : Option (Json × List Char) :=
  let sign := if text.head? = some '-' then ['-'] else []
  let body := text.drop sign.length
  let whole := wholeDigits body
  let fraction := fractionDigits (body.drop whole.length)
  let power := powerDigits (body.drop (whole ++ fraction).length)
  if whole = [] then none
  else if fraction = [] ∧ power = [] then
    let value : Int := Nat.ofDigitChars 10 whole 0
    some (.int (if sign = [] then value else -value), body.drop whole.length)
  else some (.float (floatOf (sign ++ (whole ++ (fraction ++ power)))), body.drop (whole ++ (fraction ++ power)).length)

/-- A text that begins with a word. -/
def afterWord (word : String) (text : List Char) : Option (List Char) :=
  if word.toList.isPrefixOf text then some (text.drop word.toList.length) else none

/-- A literal or a number. -/
def readScalar (text : List Char) : Option (Json × List Char) :=
  ((afterWord "null" text).map ((Json.null, ·))).or <|
  ((afterWord "true" text).map ((Json.bool true, ·))).or <|
  ((afterWord "false" text).map ((Json.bool false, ·))).or <|
  ((afterWord "NaN" text).map ((Json.float (floatOf "nan".toList), ·))).or <|
  ((afterWord "Infinity" text).map ((Json.float (floatOf "inf".toList), ·))).or <|
  ((afterWord "-Infinity" text).map ((Json.float (floatOf "-inf".toList), ·))).or (readNumber floatOf text)

/-- An assignment to a key of a dictionary. -/
def setField (fields : List (String × Json)) (key : String) (value : Json) : List (String × Json) :=
  if key ∈ fields.map Prod.fst then fields.map fun field => if field.1 = key then (key, value) else field
  else fields ++ [(key, value)]

mutual

/-- A value at the start of a text, and what follows it. -/
def readValue : Nat → List Char → Option (Json × List Char)
  | 0, _ => none
  | _ + 1, [] => none
  | fuel + 1, c :: rest =>
    if c = '"' then (readString rest).map fun read => (.str read.1, read.2)
    else if c = Char.ofNat 123 then
      if (skipBlank rest).head? = some (Char.ofNat 125) then some (.object [], (skipBlank rest).drop 1)
      else readFields fuel [] (skipBlank rest)
    else if c = '[' then
      if (skipBlank rest).head? = some ']' then some (.list [], (skipBlank rest).drop 1)
      else readItems fuel [] (skipBlank rest)
    else readScalar floatOf (c :: rest)

/-- The fields of an object, up to its closing brace. -/
def readFields : Nat → List (String × Json) → List Char → Option (Json × List Char)
  | 0, _, _ => none
  | fuel + 1, fields, text => do
    guard (text.head? = some '"')
    let key ← readString (text.drop 1)
    guard ((skipBlank key.2).head? = some ':')
    let value ← readValue fuel (skipBlank ((skipBlank key.2).drop 1))
    let rest := skipBlank value.2
    if rest.head? = some ',' then readFields fuel (setField fields key.1 value.1) (skipBlank (rest.drop 1))
    else if rest.head? = some (Char.ofNat 125) then some (.object (setField fields key.1 value.1), rest.drop 1)
    else none

/-- The items of a list, up to its closing bracket. -/
def readItems : Nat → List Json → List Char → Option (Json × List Char)
  | 0, _, _ => none
  | fuel + 1, items, text => do
    let value ← readValue fuel text
    let rest := skipBlank value.2
    if rest.head? = some ',' then readItems fuel (items ++ [value.1]) (skipBlank (rest.drop 1))
    else if rest.head? = some ']' then some (.list (items ++ [value.1]), rest.drop 1)
    else none

end

/-- `json.loads`, on a text. -/
def loads (text : List Char) : Option Json := do
  let read ← readValue floatOf (text.length + 1) (skipBlank text)
  if skipBlank read.2 = [] then some read.1 else none

section Strings

/-- The units a character is written with. -/
def unitsOf (c : Char) : List StringUnit :=
  let n := c.toNat
  if n = 10 ∨ n = 13 ∨ n = 9 ∨ n = 8 ∨ n = 12 ∨ (32 ≤ n ∧ n ≤ 126) then [.char c]
  else if n < 0x10000 then [.escaped n]
  else [.escaped (highSurrogate n), .escaped (lowSurrogate n)]

theorem hexValue?_digitChar : ∀ d < 16, hexValue? (Nat.digitChar d) = some d := by decide

theorem stringUnits_escapeUnit {n : Nat} (small : n < 0x10000) (rest : List Char) :
    stringUnits (escapeUnit n ++ rest) = (stringUnits rest).map fun units => (.escaped n :: units.1, units.2) := by
  have first := hexValue?_digitChar (n / 4096) (by omega)
  have second := hexValue?_digitChar (n / 256 % 16) (by omega)
  have third := hexValue?_digitChar (n / 16 % 16) (by omega)
  have fourth := hexValue?_digitChar (n % 16) (by omega)
  have whole : n / 4096 * 4096 + n / 256 % 16 * 256 + n / 16 % 16 * 16 + n % 16 = n := by omega
  have read : hexUnit? (Nat.digitChar (n / 4096)) (Nat.digitChar (n / 256 % 16)) (Nat.digitChar (n / 16 % 16))
      (Nat.digitChar (n % 16)) = some n := by
    simp only [hexUnit?, first, second, third, fourth, Option.bind_eq_bind, Option.bind_some, Option.pure_def, whole]
  have text : escapeUnit n ++ rest = '\\' :: 'u' :: Nat.digitChar (n / 4096) :: Nat.digitChar (n / 256 % 16) ::
      Nat.digitChar (n / 16 % 16) :: Nat.digitChar (n % 16) :: rest := rfl
  rw [text, stringUnits, read]
  cases stringUnits rest with
  | none => rfl
  | some units => rfl

theorem stringUnits_short {c char : Char} (known : escape? c = some char) (rest : List Char) :
    stringUnits ('\\' :: c :: rest) = (stringUnits rest).map fun units => (.char char :: units.1, units.2) := by
  have other : c ≠ 'u' := by
    rintro rfl
    have none' : escape? 'u' = none := by decide
    rw [none'] at known
    cases known
  have read : stringUnits ('\\' :: c :: rest) = (do
      let char ← escape? c
      let units ← stringUnits rest
      return (.char char :: units.1, units.2)) := by
    rw [stringUnits.eq_def]
    simp [other]
  rw [read, known]
  cases stringUnits rest with
  | none => rfl
  | some units => rfl

theorem stringUnits_plain {c : Char} (quote : c ≠ '"') (escape : c ≠ '\\') (printable : 32 ≤ c.toNat) (rest : List Char) :
    stringUnits (c :: rest) = (stringUnits rest).map fun units => (.char c :: units.1, units.2) := by
  have read : stringUnits (c :: rest) = (do
      let units ← stringUnits rest
      return (.char c :: units.1, units.2)) := by
    rw [stringUnits.eq_def]
    simp [escape, not_lt.mpr printable]
  rw [read]
  cases stringUnits rest with
  | none => rfl
  | some units => rfl

/-- No character is a surrogate. -/
theorem char_range (c : Char) : c.toNat < 0xD800 ∨ 0xDFFF < c.toNat ∧ c.toNat < 0x110000 := c.valid

/-- Every character reads back as the units it is written with. -/
theorem stringUnits_escapeChar (c : Char) (rest : List Char) :
    stringUnits (escapeChar c ++ rest) = (stringUnits rest).map fun units => (unitsOf c ++ units.1, units.2) := by
  have short : ∀ {mark : Char} {n : Nat}, c.toNat = n → escape? mark = some (Char.ofNat n) →
      (n = 10 ∨ n = 13 ∨ n = 9 ∨ n = 8 ∨ n = 12 ∨ (32 ≤ n ∧ n ≤ 126)) →
      stringUnits (['\\', mark] ++ rest) = (stringUnits rest).map fun units => (unitsOf c ++ units.1, units.2) := by
    intro mark n number known listed
    have same : Char.ofNat n = c := by rw [← number, Char.ofNat_toNat]
    rw [List.cons_append, List.cons_append, List.nil_append, stringUnits_short known, unitsOf, number, if_pos listed, same]
    rfl
  unfold escapeChar
  by_cases quote : c.toNat = 34
  · rw [if_pos quote]
    exact short quote rfl (by omega)
  by_cases slash : c.toNat = 92
  · rw [if_neg quote, if_pos slash]
    exact short slash rfl (by omega)
  by_cases line : c.toNat = 10
  · rw [if_neg quote, if_neg slash, if_pos line]
    exact short line rfl (by omega)
  by_cases carriage : c.toNat = 13
  · rw [if_neg quote, if_neg slash, if_neg line, if_pos carriage]
    exact short carriage rfl (by omega)
  by_cases tab : c.toNat = 9
  · rw [if_neg quote, if_neg slash, if_neg line, if_neg carriage, if_pos tab]
    exact short tab rfl (by omega)
  by_cases back : c.toNat = 8
  · rw [if_neg quote, if_neg slash, if_neg line, if_neg carriage, if_neg tab, if_pos back]
    exact short back rfl (by omega)
  by_cases feed : c.toNat = 12
  · rw [if_neg quote, if_neg slash, if_neg line, if_neg carriage, if_neg tab, if_neg back, if_pos feed]
    exact short feed rfl (by omega)
  rw [if_neg quote, if_neg slash, if_neg line, if_neg carriage, if_neg tab, if_neg back, if_neg feed]
  by_cases printable : 32 ≤ c.toNat ∧ c.toNat ≤ 126
  · have notQuote : c ≠ '"' := fun same => quote (by rw [same]; rfl)
    have notSlash : c ≠ '\\' := fun same => slash (by rw [same]; rfl)
    rw [if_pos printable, List.singleton_append, stringUnits_plain notQuote notSlash printable.1, unitsOf,
      if_pos (by omega)]
    rfl
  have long : ¬(c.toNat = 10 ∨ c.toNat = 13 ∨ c.toNat = 9 ∨ c.toNat = 8 ∨ c.toNat = 12 ∨ (32 ≤ c.toNat ∧ c.toNat ≤ 126)) := by
    omega
  rw [if_neg printable, unitsOf, if_neg long]
  by_cases plane : c.toNat < 0x10000
  · rw [if_pos plane, if_pos plane, stringUnits_escapeUnit plane]
    rfl
  · have bound := char_range c
    have high : highSurrogate c.toNat < 0x10000 := by
      rw [highSurrogate]
      omega
    have low : lowSurrogate c.toNat < 0x10000 := by
      rw [lowSurrogate]
      omega
    rw [if_neg plane, if_neg plane, List.append_assoc, stringUnits_escapeUnit high, stringUnits_escapeUnit low]
    cases stringUnits rest with
    | none => rfl
    | some units => rfl

theorem joinUnits_unitsOf (c : Char) (rest : List StringUnit) :
    joinUnits (unitsOf c ++ rest) = (joinUnits rest).map (c :: ·) := by
  unfold unitsOf
  by_cases short : c.toNat = 10 ∨ c.toNat = 13 ∨ c.toNat = 9 ∨ c.toNat = 8 ∨ c.toNat = 12 ∨ (32 ≤ c.toNat ∧ c.toNat ≤ 126)
  · rw [if_pos short, List.singleton_append, joinUnits]
  rw [if_neg short]
  by_cases plane : c.toNat < 0x10000
  · have range := char_range c
    have high : isHigh c.toNat = false := by
      simp only [isHigh, Bool.and_eq_false_iff, decide_eq_false_iff_not]
      omega
    have low : isLow c.toNat = false := by
      simp only [isLow, Bool.and_eq_false_iff, decide_eq_false_iff_not]
      omega
    have whole : scalar? c.toNat = some c := by
      simp only [scalar?, high, low, Bool.or_self, Bool.false_eq_true, if_false, Char.ofNat_toNat]
    rw [if_pos plane, List.singleton_append]
    cases rest with
    | nil => simp [joinUnits, whole]
    | cons unit rest =>
      cases unit with
      | char d => simp [joinUnits, whole]
      | escaped m => simp [joinUnits, whole, high]
  · have bound := char_range c
    have high : isHigh (highSurrogate c.toNat) = true := by
      rw [isHigh, Bool.and_eq_true, decide_eq_true_eq, decide_eq_true_eq, highSurrogate]
      omega
    have low : isLow (lowSurrogate c.toNat) = true := by
      rw [isLow, Bool.and_eq_true, decide_eq_true_eq, decide_eq_true_eq, lowSurrogate]
      omega
    have whole : 0x10000 + (highSurrogate c.toNat - 0xD800) * 1024 + (lowSurrogate c.toNat - 0xDC00) = c.toNat := by
      rw [highSurrogate, lowSurrogate]
      omega
    rw [if_neg plane, List.cons_append, List.singleton_append, joinUnits, high, low, whole, Char.ofNat_toNat]
    rfl

/-- A quoted text reads back. -/
theorem readString_quoted (text : String) (rest : List Char) :
    readString (text.toList.flatMap escapeChar ++ '"' :: rest) = some (text, rest) := by
  have units : ∀ chars : List Char,
      stringUnits (chars.flatMap escapeChar ++ '"' :: rest) = some (chars.flatMap unitsOf, rest) := by
    intro chars
    induction chars with
    | nil => rfl
    | cons c chars ih => rw [List.flatMap_cons, List.append_assoc, stringUnits_escapeChar, ih, List.flatMap_cons, Option.map_some]
  have chars : ∀ chars : List Char, joinUnits (chars.flatMap unitsOf) = some chars := by
    intro chars
    induction chars with
    | nil => rfl
    | cons c chars ih => rw [List.flatMap_cons, joinUnits_unitsOf, ih, Option.map_some]
  simp only [readString, units, chars, Option.bind_eq_bind, Option.bind_some, Option.pure_def, String.ofList_toList]

end Strings

section Numbers

variable {n : Nat} {rest : List Char}

/-- What ends a value in a list or an object. -/
def Closes (rest : List Char) : Prop := ∃ c tail, rest = c :: tail ∧ (c = ',' ∨ c = Char.ofNat 125)

theorem toDigits_head (positive : 0 < n) : ∃ c digits, Nat.toDigits 10 n = c :: digits ∧ c ≠ '0' := by
  induction n using Nat.strongRecOn with
  | ind n ih =>
    by_cases small : n < 10
    · have nonzero : ∀ m < 10, 0 < m → Nat.digitChar m ≠ '0' := by decide
      exact ⟨_, _, Nat.toDigits_of_lt_base small, nonzero n small positive⟩
    · obtain ⟨c, digits, first, nonzero⟩ := ih (n / 10) (by omega) (by omega)
      refine ⟨c, digits ++ [Nat.digitChar (n % 10)], ?_, nonzero⟩
      rw [Nat.toDigits_of_base_le (by omega) (by omega), first, List.cons_append]

theorem isDigit_of_mem_digits {c : Char} (member : c ∈ Nat.toDigits 10 n) : c.isDigit = true :=
  Nat.isDigit_of_mem_toDigits (by omega) (by omega) member

theorem wholeDigits_toDigits (closes : Closes rest) : wholeDigits (Nat.toDigits 10 n ++ rest) = Nat.toDigits 10 n := by
  obtain ⟨c, tail, rfl, ends⟩ := closes
  rcases Nat.eq_zero_or_pos n with rfl | positive
  · rfl
  · obtain ⟨first, digits, head, nonzero⟩ := toDigits_head positive
    have stop : c.isDigit = false := by
      rcases ends with rfl | rfl
      · decide
      · decide
    have taken : (Nat.toDigits 10 n ++ c :: tail).takeWhile Char.isDigit = Nat.toDigits 10 n := by
      rw [List.takeWhile_append_of_pos fun _ member => isDigit_of_mem_digits member, List.takeWhile_cons_of_neg (by simp [stop]),
        List.append_nil]
    rw [wholeDigits.eq_def, taken, head]
    simp [nonzero]

theorem readNumber_int (floatOf : List Char → FloatText) (value : Int) (closes : Closes rest) :
    readNumber floatOf (dumps (.int value) ++ rest) = some (.int value, rest) := by
  have whole : wholeDigits (Nat.toDigits 10 value.natAbs ++ rest) = Nat.toDigits 10 value.natAbs := wholeDigits_toDigits closes
  have digits : Nat.ofDigitChars 10 (Nat.toDigits 10 value.natAbs) 0 = value.natAbs := Nat.ofDigitChars_ten_toDigits
  have after : (Nat.toDigits 10 value.natAbs ++ rest).drop (Nat.toDigits 10 value.natAbs).length = rest := List.drop_left
  have fraction : fractionDigits rest = [] := by
    obtain ⟨c, tail, rfl, rfl | rfl⟩ := closes
    · rfl
    · rfl
  have power : powerDigits rest = [] := by
    obtain ⟨c, tail, rfl, rfl | rfl⟩ := closes
    · simp [powerDigits]
    · simp [powerDigits]
  by_cases negative : value < 0
  · have text : dumps (.int value) ++ rest = '-' :: (Nat.toDigits 10 value.natAbs ++ rest) := by
      rw [dumps, if_pos negative]
      rfl
    have number : -(value.natAbs : Int) = value := by omega
    rw [text, readNumber]
    simp only [List.head?_cons, if_true, List.length_singleton, List.drop_succ_cons, List.drop_zero, whole, after, fraction,
      List.append_nil, power, Nat.toDigits_ne_nil, if_false, and_self, digits, List.cons_ne_nil, number]
  · have text : dumps (.int value) ++ rest = Nat.toDigits 10 value.natAbs ++ rest := by
      rw [dumps, if_neg negative]
      rfl
    have number : (value.natAbs : Int) = value := by omega
    have unsigned : (Nat.toDigits 10 value.natAbs ++ rest).head? ≠ some '-' := by
      obtain ⟨c, digits, made⟩ := List.exists_cons_of_ne_nil (Nat.toDigits_ne_nil (b := 10) (n := value.natAbs))
      have digit : c.isDigit = true := isDigit_of_mem_digits (n := value.natAbs) (by rw [made]; exact List.mem_cons_self)
      rw [made, List.cons_append, List.head?_cons]
      rintro ⟨⟩
      exact absurd digit (by decide)
    rw [text, readNumber]
    simp only [if_neg unsigned, List.length_nil, List.drop_zero, whole, after, fraction, List.append_nil, power,
      Nat.toDigits_ne_nil, if_false, and_self, if_true, digits, number]

/-- A number begins with a digit or a sign and a digit. -/
theorem dumps_int_head (value : Int) : ∃ c digits, dumps (.int value) = c :: digits ∧
    (c.isDigit = true ∨ c = '-' ∧ ∃ d more, digits = d :: more ∧ d.isDigit = true) := by
  obtain ⟨c, digits, made⟩ := List.exists_cons_of_ne_nil (Nat.toDigits_ne_nil (b := 10) (n := value.natAbs))
  have digit : c.isDigit = true := isDigit_of_mem_digits (n := value.natAbs) (by rw [made]; exact List.mem_cons_self)
  by_cases negative : value < 0
  · refine ⟨'-', c :: digits, ?_, .inr ⟨rfl, c, digits, rfl, digit⟩⟩
    rw [dumps, if_pos negative, made]
    rfl
  · refine ⟨c, digits, ?_, .inl digit⟩
    rw [dumps, if_neg negative, made]
    rfl

theorem afterWord_of_head (word : String) (c : Char) {d : Char} {letters text : List Char}
    (begins : word.toList = c :: letters) (other : c ≠ d) : afterWord word (d :: text) = none := by
  have apart : (c == d) = false := beq_eq_false_iff_ne.mpr other
  rw [afterWord, begins, List.isPrefixOf, apart, Bool.false_and, if_neg Bool.false_ne_true]

theorem readScalar_int (floatOf : List Char → FloatText) (value : Int) (closes : Closes rest) :
    readScalar floatOf (dumps (.int value) ++ rest) = some (.int value, rest) := by
  have number := readNumber_int floatOf value closes
  obtain ⟨c, digits, text, head⟩ := dumps_int_head value
  rw [text, List.cons_append] at number ⊢
  have differs : ∀ d : Char, d.isDigit = false → d ≠ '-' → d ≠ c := by
    rintro d letter unsigned rfl
    rcases head with digit | ⟨sign, -⟩
    · rw [letter] at digit
      cases digit
    · exact unsigned sign
  have infinite : afterWord "-Infinity" (c :: (digits ++ rest)) = none := by
    rcases head with digit | ⟨rfl, d, more, rfl, digit⟩
    · refine afterWord_of_head _ '-' rfl ?_
      rintro rfl
      exact absurd digit (by decide)
    · have letter : 'I' ≠ d := by
        rintro rfl
        exact absurd digit (by decide)
      have apart : ('I' == d) = false := beq_eq_false_iff_ne.mpr letter
      have word : "-Infinity".toList = '-' :: 'I' :: "nfinity".toList := rfl
      rw [afterWord, word, List.cons_append, List.isPrefixOf, List.isPrefixOf, apart, Bool.false_and, Bool.and_false,
        if_neg Bool.false_ne_true]
  rw [readScalar, afterWord_of_head "null" 'n' rfl (differs _ (by decide) (by decide)),
    afterWord_of_head "true" 't' rfl (differs _ (by decide) (by decide)),
    afterWord_of_head "false" 'f' rfl (differs _ (by decide) (by decide)),
    afterWord_of_head "NaN" 'N' rfl (differs _ (by decide) (by decide)),
    afterWord_of_head "Infinity" 'I' rfl (differs _ (by decide) (by decide)), infinite, number]
  rfl

end Numbers

section Objects

variable (floatOf : List Char → FloatText)

/-- A string or a whole number. -/
def IsPlain : Json → Prop
  | str _ => True
  | int _ => True
  | _ => False

theorem skipBlank_cons {c : Char} (solid : isBlank c = false) (rest : List Char) : skipBlank (c :: rest) = c :: rest := by
  rw [skipBlank, List.dropWhile_cons_of_neg (by simp [solid])]

theorem not_blank_of_isDigit {c : Char} (digit : c.isDigit = true) : isBlank c = false := by
  have apart : ∀ d : Char, d.isDigit = false → (c == d) = false := by
    rintro d other
    refine beq_eq_false_iff_ne.mpr ?_
    rintro rfl
    rw [other] at digit
    cases digit
  rw [isBlank, apart ' ' (by decide), apart '\t' (by decide), apart '\n' (by decide), apart '\r' (by decide)]
  rfl

/-- A plain value begins with no blank, and reads back in front of what ends it. -/
theorem readValue_plain {value : Json} (plain : IsPlain value) {rest : List Char} (closes : Closes rest) (fuel : Nat) :
    readValue floatOf (fuel + 1) (skipBlank (dumps value ++ rest)) = some (value, rest) := by
  cases value with
  | str text =>
    have shape : dumps (.str text) ++ rest = '"' :: (text.toList.flatMap escapeChar ++ '"' :: rest) := by
      rw [dumps, quoted, List.cons_append, List.append_assoc]
      rfl
    rw [shape, skipBlank_cons (by decide), readValue, if_pos rfl, readString_quoted]
    rfl
  | int value =>
    have number := readScalar_int floatOf value closes
    obtain ⟨c, digits, text, head⟩ := dumps_int_head value
    have solid : isBlank c = false := by
      rcases head with digit | ⟨rfl, -⟩
      · exact not_blank_of_isDigit digit
      · decide
    have differs : ∀ d : Char, d.isDigit = false → d ≠ '-' → c ≠ d := by
      rintro d letter unsigned rfl
      rcases head with digit | ⟨sign, -⟩
      · rw [letter] at digit
        cases digit
      · exact unsigned sign
    rw [text, List.cons_append] at number ⊢
    rw [skipBlank_cons solid, readValue, if_neg (differs _ (by decide) (by decide)), if_neg (differs _ (by decide) (by decide)),
      if_neg (differs _ (by decide) (by decide)), number]
  | null => exact plain.elim
  | bool value => exact plain.elim
  | float value => exact plain.elim
  | list items => exact plain.elim
  | object fields => exact plain.elim

theorem joined_cons (item next : List Char) (rest : List (List Char)) :
    joined (item :: next :: rest) = item ++ ',' :: joined (next :: rest) := rfl

theorem setField_fresh {fields : List (String × Json)} {key : String} (fresh : key ∉ fields.map Prod.fst) (value : Json) :
    setField fields key value = fields ++ [(key, value)] := if_neg fresh

/-- The fields of an object read back, behind those read before. -/
theorem readFields_dumps {done fields : List (String × Json)} {rest : List Char} {fuel : Nat} (some' : fields ≠ [])
    (plain : ∀ field ∈ fields, IsPlain field.2) (distinct : ((done ++ fields).map Prod.fst).Nodup)
    (enough : fields.length < fuel) :
    readFields floatOf fuel done (joined (dumpsFields fields) ++ Char.ofNat 125 :: rest) =
      some (.object (done ++ fields), rest) := by
  induction fields generalizing done fuel with
  | nil => exact absurd rfl some'
  | cons field fields ih =>
    obtain ⟨key, value⟩ := field
    obtain ⟨fuel, rfl⟩ : ∃ less, fuel = less + 2 := ⟨fuel - 2, by simp only [List.length_cons] at enough; omega⟩
    obtain ⟨first, others⟩ := List.forall_mem_cons.mp plain
    have fresh : key ∉ done.map Prod.fst := by
      rw [List.map_append, List.map_cons] at distinct
      exact fun inside => List.disjoint_of_nodup_append distinct inside List.mem_cons_self
    have shape : ∀ tail : List Char, quoted key ++ ':' :: dumps value ++ tail =
        '"' :: (key.toList.flatMap escapeChar ++ '"' :: ':' :: (dumps value ++ tail)) := by
      intro tail
      simp only [quoted, List.cons_append, List.append_assoc, List.nil_append]
    -- the key, the colon and the value of the first field, in front of what ends it
    have step : ∀ tail : List Char, Closes tail → readFields floatOf (fuel + 2) done (quoted key ++ ':' :: dumps value ++ tail) =
        let rest := skipBlank tail
        if rest.head? = some ',' then readFields floatOf (fuel + 1) (setField done key value) (skipBlank (rest.drop 1))
        else if rest.head? = some (Char.ofNat 125) then some (.object (setField done key value), rest.drop 1)
        else none := by
      intro tail closes
      have colon : ∀ text, skipBlank (':' :: text) = ':' :: text := skipBlank_cons (by decide)
      rw [shape, readFields]
      simp only [List.head?_cons, guard_true, List.drop_succ_cons, List.drop_zero, readString_quoted, colon,
        readValue_plain floatOf first closes fuel, Option.bind_eq_bind, Option.bind_some, Option.pure_def]
    cases fields with
    | nil =>
      have close : Closes (Char.ofNat 125 :: rest) := ⟨_, rest, rfl, .inr rfl⟩
      rw [dumpsFields, dumpsFields, joined, step _ close, setField_fresh fresh]
      simp only [skipBlank_cons (c := Char.ofNat 125) (by decide)]
      rfl
    | cons next fields =>
      have comma : Closes (',' :: (joined (dumpsFields (next :: fields)) ++ Char.ofNat 125 :: rest)) := ⟨_, _, rfl, .inl rfl⟩
      have parts : joined (dumpsFields ((key, value) :: next :: fields)) ++ Char.ofNat 125 :: rest =
          quoted key ++ ':' :: dumps value ++ ',' :: (joined (dumpsFields (next :: fields)) ++ Char.ofNat 125 :: rest) := by
        obtain ⟨nextKey, nextValue⟩ := next
        rw [dumpsFields, dumpsFields, joined_cons, List.append_assoc, List.cons_append]
      have quote : skipBlank (joined (dumpsFields (next :: fields)) ++ Char.ofNat 125 :: rest) =
          joined (dumpsFields (next :: fields)) ++ Char.ofNat 125 :: rest := by
        obtain ⟨nextKey, nextValue⟩ := next
        cases fields with
        | nil => exact skipBlank_cons (by decide) _
        | cons another fields => exact skipBlank_cons (by decide) _
      have later := @ih (done ++ [(key, value)]) (fuel + 1) (List.cons_ne_nil _ _) others
        (by rwa [List.append_assoc, List.singleton_append]) (by simp only [List.length_cons] at enough ⊢; omega)
      rw [parts, step _ comma, setField_fresh fresh]
      simp only [skipBlank_cons (c := ',') (by decide), List.head?_cons, if_true, List.drop_succ_cons, List.drop_zero, quote, later,
        List.append_assoc, List.singleton_append]

theorem length_le_joined (fields : List (String × Json)) : fields.length ≤ (joined (dumpsFields fields)).length := by
  induction fields with
  | nil => exact Nat.le_refl 0
  | cons field fields ih =>
    obtain ⟨key, value⟩ := field
    cases fields with
    | nil => simp [dumpsFields, joined, quoted]
    | cons next fields =>
      rw [dumpsFields]
      obtain ⟨nextKey, nextValue⟩ := next
      rw [dumpsFields] at ih ⊢
      rw [joined_cons]
      simp only [List.length_append, List.length_cons] at ih ⊢
      omega

theorem joined_head {fields : List (String × Json)} (some' : fields ≠ []) :
    ∃ rest, joined (dumpsFields fields) = '"' :: rest := by
  obtain ⟨⟨key, value⟩, fields, rfl⟩ := List.exists_cons_of_ne_nil some'
  cases fields with
  | nil => exact ⟨_, rfl⟩
  | cons next fields => exact ⟨_, rfl⟩

/-- An object of plain values with distinct keys reads back. -/
theorem loads_dumps {fields : List (String × Json)} (plain : ∀ field ∈ fields, IsPlain field.2)
    (distinct : (fields.map Prod.fst).Nodup) : loads floatOf (dumps (.object fields)) = some (.object fields) := by
  by_cases none' : fields = []
  · subst none'
    rfl
  · obtain ⟨rest, quote⟩ := joined_head none'
    have length := length_le_joined fields
    have text : dumps (.object fields) = Char.ofNat 123 :: (joined (dumpsFields fields) ++ [Char.ofNat 125]) := by rw [dumps]
    have solid : skipBlank (joined (dumpsFields fields) ++ [Char.ofNat 125]) = joined (dumpsFields fields) ++ [Char.ofNat 125] := by
      rw [quote]
      exact skipBlank_cons (by decide) _
    have begun : (joined (dumpsFields fields) ++ [Char.ofNat 125]).head? ≠ some (Char.ofNat 125) := by
      rw [quote]
      exact fun same => absurd (Option.some.inj same) (by decide)
    have enough : fields.length < (Char.ofNat 123 :: (joined (dumpsFields fields) ++ [Char.ofNat 125])).length := by
      rw [List.length_cons, List.length_append, List.length_singleton]
      omega
    have read := @readFields_dumps floatOf [] fields [] _ none' plain distinct enough
    rw [loads, text, skipBlank_cons (by decide), readValue, if_neg (by decide), if_pos rfl, solid, if_neg begun, read]
    rfl

/-- A character of the text of a JSON value. -/
def IsTextChar (c : Char) : Prop := 32 ≤ c.toNat ∧ c.toNat ≤ 126

theorem isTextChar_digitChar : ∀ d < 16, IsTextChar (Nat.digitChar d) := by
  unfold IsTextChar
  decide

theorem isTextChar_of_isDigit {c : Char} (digit : c.isDigit = true) : IsTextChar c := by
  simp only [Char.isDigit, Bool.and_eq_true, decide_eq_true_eq] at digit
  have low : 48 ≤ c.toNat := digit.1
  have high : c.toNat ≤ 57 := digit.2
  exact ⟨by omega, by omega⟩

theorem isTextChar_escapeUnit {n : Nat} (small : n < 0x10000) : ∀ c ∈ escapeUnit n, IsTextChar c := by
  intro c member
  simp only [escapeUnit, List.mem_cons, List.not_mem_nil, or_false] at member
  rcases member with rfl | rfl | rfl | rfl | rfl | rfl
  · exact ⟨by decide, by decide⟩
  · exact ⟨by decide, by decide⟩
  · exact isTextChar_digitChar _ (by omega)
  · exact isTextChar_digitChar _ (by omega)
  · exact isTextChar_digitChar _ (by omega)
  · exact isTextChar_digitChar _ (by omega)

theorem isTextChar_escapeChar (c : Char) : ∀ d ∈ escapeChar c, IsTextChar d := by
  have pair : ∀ mark : Char, IsTextChar mark → ∀ d ∈ ['\\', mark], IsTextChar d := by
    intro mark shown d member
    rcases List.mem_pair.mp member with rfl | rfl
    · exact ⟨by decide, by decide⟩
    · exact shown
  have range := char_range c
  unfold escapeChar
  dsimp only
  split
  · exact pair _ ⟨by decide, by decide⟩
  split
  · exact pair _ ⟨by decide, by decide⟩
  split
  · exact pair _ ⟨by decide, by decide⟩
  split
  · exact pair _ ⟨by decide, by decide⟩
  split
  · exact pair _ ⟨by decide, by decide⟩
  split
  · exact pair _ ⟨by decide, by decide⟩
  split
  · exact pair _ ⟨by decide, by decide⟩
  split
  next printable =>
    intro d member
    rw [List.mem_singleton.mp member]
    exact printable
  split
  next small => exact isTextChar_escapeUnit small
  next =>
    intro d member
    rcases List.mem_append.mp member with high | low
    · refine isTextChar_escapeUnit ?_ d high
      rw [highSurrogate]
      omega
    · refine isTextChar_escapeUnit ?_ d low
      rw [lowSurrogate]
      omega

theorem isTextChar_quoted (text : String) : ∀ c ∈ quoted text, IsTextChar c := by
  intro c member
  simp only [quoted, List.mem_cons, List.mem_append, List.mem_flatMap, List.not_mem_nil, or_false] at member
  rcases member with rfl | ⟨d, -, inside⟩ | rfl
  · exact ⟨by decide, by decide⟩
  · exact isTextChar_escapeChar d c inside
  · exact ⟨by decide, by decide⟩

theorem isTextChar_plain {value : Json} (plain : IsPlain value) : ∀ c ∈ dumps value, IsTextChar c := by
  intro c member
  cases value with
  | str text =>
    rw [dumps] at member
    exact isTextChar_quoted text c member
  | int value =>
    rw [dumps] at member
    rcases List.mem_append.mp member with sign | digit
    · split at sign
      · rw [List.mem_singleton.mp sign]
        exact ⟨by decide, by decide⟩
      · cases sign
    · exact isTextChar_of_isDigit (isDigit_of_mem_digits digit)
  | null => exact plain.elim
  | bool value => exact plain.elim
  | float value => exact plain.elim
  | list items => exact plain.elim
  | object fields => exact plain.elim

/-- An object of plain values is written in ASCII. -/
theorem isTextChar_object {fields : List (String × Json)} (plain : ∀ field ∈ fields, IsPlain field.2) :
    ∀ c ∈ dumps (.object fields), IsTextChar c := by
  have inner : ∀ c ∈ joined (dumpsFields fields), IsTextChar c := by
    induction fields with
    | nil => exact fun c member => by cases member
    | cons field fields ih =>
      obtain ⟨key, value⟩ := field
      obtain ⟨first, others⟩ := List.forall_mem_cons.mp plain
      have item : ∀ c ∈ quoted key ++ ':' :: dumps value, IsTextChar c := by
        intro c member
        rcases List.mem_append.mp member with name | rest
        · exact isTextChar_quoted key c name
        · rcases List.mem_cons.mp rest with rfl | inside
          · exact ⟨by decide, by decide⟩
          · exact isTextChar_plain first c inside
      cases fields with
      | nil => exact item
      | cons next fields =>
        intro c member
        rw [dumpsFields] at member
        obtain ⟨nextKey, nextValue⟩ := next
        rw [dumpsFields, joined_cons, List.mem_append, List.mem_cons] at member
        rcases member with here | rfl | later
        · exact item c here
        · exact ⟨by decide, by decide⟩
        · exact ih others c later
  intro c member
  rw [dumps] at member
  rcases List.mem_cons.mp member with rfl | rest
  · exact ⟨by decide, by decide⟩
  · rcases List.mem_append.mp rest with inside | close
    · exact inner c inside
    · rw [List.mem_singleton.mp close]
      exact ⟨by decide, by decide⟩

end Objects

end Payables.Lib.Json
