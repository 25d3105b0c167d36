import Mathlib.Tactic.NormNum
import Payables.Lib.Numerals

namespace Payables.Lib

/-- The zeros of the runs of ten decimal digits that Unicode has past ASCII. -/
def decimalZeros : List Nat :=
  [0x660, 0x6F0, 0x7C0, 0x966, 0x9E6, 0xA66, 0xAE6, 0xB66, 0xBE6, 0xC66, 0xCE6, 0xD66, 0xDE6, 0xE50, 0xED0, 0xF20,
   0x1040, 0x1090, 0x17E0, 0x1810, 0x1946, 0x19D0, 0x1A80, 0x1A90, 0x1B50, 0x1BB0, 0x1C40, 0x1C50, 0xA620, 0xA8D0,
   0xA900, 0xA9D0, 0xA9F0, 0xAA50, 0xABF0, 0xFF10, 0x104A0, 0x10D30, 0x10D40, 0x11066, 0x110F0, 0x11136, 0x111D0,
   0x112F0, 0x11450, 0x114D0, 0x11650, 0x116C0, 0x116D0, 0x116DA, 0x11730, 0x118E0, 0x11950, 0x11BF0, 0x11C50,
   0x11D50, 0x11DA0, 0x11F50, 0x16130, 0x16A60, 0x16AC0, 0x16B50, 0x16D70, 0x1CCF0, 0x1D7CE, 0x1D7D8, 0x1D7E2,
   0x1D7EC, 0x1D7F6, 0x1E140, 0x1E2F0, 0x1E4F0, 0x1E5F1, 0x1E950, 0x1FBF0]

/-- The other characters that count as digits: superscripts, subscripts and numbers in circles. -/
def otherDigitRanges : List (Nat × Nat) :=
  [(0xB2, 0xB3), (0xB9, 0xB9), (0x1369, 0x1371), (0x19DA, 0x19DA), (0x2070, 0x2070), (0x2074, 0x2079),
   (0x2080, 0x2089), (0x2460, 0x2468), (0x2474, 0x247C), (0x2488, 0x2490), (0x24EA, 0x24EA), (0x24F5, 0x24FD),
   (0x24FF, 0x24FF), (0x2776, 0x277E), (0x2780, 0x2788), (0x278A, 0x2792), (0x10A40, 0x10A43), (0x10E60, 0x10E68),
   (0x11052, 0x1105A), (0x1F100, 0x1F10A)]

/-- The value of a decimal digit past ASCII. -/
def decimalDigit? (c : Char) : Option Nat :=
  (decimalZeros.find? fun start => start ≤ c.toNat && c.toNat < start + 10).map (c.toNat - ·)

/-- A decimal digit of any script, as the one of ASCII. -/
def foldDigit (c : Char) : Char :=
  if c.toNat < 128 then c
  else
    match decimalDigit? c with
    | some digit => Nat.digitChar digit
    | none => c

/-- A digit of any script, one in a circle or above or below the line included. -/
def isAnyDigit (c : Char) : Bool :=
  c.isDigit || (decimalDigit? c).isSome || otherDigitRanges.any fun range => range.1 ≤ c.toNat && c.toNat ≤ range.2

/-- What a numeral says: a sign, digits, how many of them stand behind the point, and a power of ten. -/
structure Numeral where
  negative : Bool
  digits : Nat
  places : Nat
  power : ℤ
  deriving DecidableEq

def Numeral.value (numeral : Numeral) : ℚ :=
  (if numeral.negative then -(numeral.digits : ℚ) else numeral.digits) * 10 ^ (numeral.power - numeral.places)

/-- The numeral a text is. -/
def numeral? (text : List Char) : Option Numeral := do
  let isMantissa := fun c => c != 'e' && c != 'E'
  let mantissa ← mantissa? ((splitSign text).2.takeWhile isMantissa)
  let power ← exponent? ((splitSign text).2.dropWhile isMantissa)
  return ⟨(splitSign text).1, mantissa.1, mantissa.2, power⟩

theorem decimal?_eq (text : List Char) : decimal? text = (numeral? text).map Numeral.value := by
  simp only [decimal?, numeral?, Option.bind_eq_bind, Option.map_bind, Function.comp_def, Option.pure_def, Option.map_some,
    Numeral.value]

def isSign (c : Char) : Bool := c == '-' || c == '+'

/-- An optional sign: a minus, a plus or nothing. -/
def signText : Option Bool → List Char
  | none => []
  | some negative => if negative then ['-'] else ['+']

/-- The end of a numeral that names a power of ten. -/
structure Exponent where
  letter : Char
  sign : Option Bool
  run : List Char
  isLetter : letter = 'e' ∨ letter = 'E'
  digits : ∀ c ∈ run, c.isDigit = true
  nonempty : run ≠ []

def Exponent.text (exponent : Exponent) : List Char := exponent.letter :: (signText exponent.sign ++ exponent.run)

def Exponent.power (exponent : Exponent) : ℤ :=
  if exponent.sign = some true then -(Nat.ofDigitChars 10 exponent.run 0 : ℤ) else Nat.ofDigitChars 10 exponent.run 0

/-- The parts of a numeral as it is written. -/
structure Spelling where
  sign : Option Bool
  whole : List Char
  pointed : Bool
  fraction : List Char
  exponent : Option Exponent
  digits : ∀ c ∈ whole ++ fraction, c.isDigit = true
  nonempty : whole ++ fraction ≠ []
  unpointed : pointed = false → fraction = []

namespace Spelling

/-- The part in front of the exponent, without the sign. -/
def mantissa (spelling : Spelling) : List Char :=
  spelling.whole ++ ((if spelling.pointed then ['.'] else []) ++ spelling.fraction)

def exponentText (spelling : Spelling) : List Char := (spelling.exponent.map Exponent.text).getD []

def text (spelling : Spelling) : List Char := signText spelling.sign ++ (spelling.mantissa ++ spelling.exponentText)

def numeral (spelling : Spelling) : Numeral where
  negative := spelling.sign == some true
  digits := Nat.ofDigitChars 10 (spelling.whole ++ spelling.fraction) 0
  places := spelling.fraction.length
  power := (spelling.exponent.map Exponent.power).getD 0

end Spelling

section Grammar

theorem digitRun?_eq_some {text : List Char} {n : Nat} :
    digitRun? text = some n ↔ text ≠ [] ∧ (∀ c ∈ text, c.isDigit = true) ∧ Nat.ofDigitChars 10 text 0 = n := by
  rw [digitRun?]
  by_cases run : text ≠ [] ∧ text.all Char.isDigit
  · rw [if_pos run, Option.some_inj]
    have digits := List.all_eq_true.mp run.2
    exact ⟨fun value => ⟨run.1, digits, value⟩, fun parts => parts.2.2⟩
  · rw [if_neg run]
    constructor
    · intro impossible
      cases impossible
    · intro parts
      exact absurd ⟨parts.1, List.all_eq_true.mpr parts.2.1⟩ run

/-- A text is its sign and the rest. -/
theorem exists_sign (text : List Char) : ∃ sign, text = signText sign ++ (splitSign text).2 ∧
    (splitSign text).1 = (sign == some true) := by
  cases text with
  | nil => exact ⟨none, rfl, rfl⟩
  | cons c rest =>
    by_cases minus : c = '-'
    · exact ⟨some true, by simp [splitSign, signText, minus], by simp [splitSign, minus]⟩
    by_cases plus : c = '+'
    · exact ⟨some false, by simp [splitSign, signText, plus], by simp [splitSign, plus]⟩
    · exact ⟨none, by simp [splitSign, signText, minus, plus], by simp [splitSign, minus, plus]⟩

/-- No sign is read where a text does not begin with one. -/
theorem splitSign_signText {sign : Option Bool} {text : List Char} (unsigned : ∀ c ∈ text.head?, c ≠ '-' ∧ c ≠ '+') :
    splitSign (signText sign ++ text) = (sign == some true, text) := by
  cases sign with
  | none =>
    cases text with
    | nil => rfl
    | cons c rest =>
      have head := unsigned c rfl
      simp [signText, splitSign, head.1, head.2]
  | some negative => cases negative <;> simp [signText, splitSign]

theorem unsigned_of_digits {text : List Char} (digits : ∀ c ∈ text, c.isDigit = true) (rest : List Char)
    (nonempty : text ≠ []) : ∀ c ∈ (text ++ rest).head?, c ≠ '-' ∧ c ≠ '+' := by
  cases text with
  | nil => exact absurd rfl nonempty
  | cons d text =>
    intro c head
    rw [List.cons_append, List.head?_cons, Option.mem_some_iff] at head
    have digit := digits d List.mem_cons_self
    rw [head] at digit
    exact ⟨ne_of_isDigit digit (by decide), ne_of_isDigit digit (by decide)⟩

theorem exponent?_cons (c : Char) (text : List Char) : exponent? (c :: text) =
    (digitRun? (splitSign text).2).map fun run : Nat => (if (splitSign text).1 then -(run : ℤ) else run : ℤ) := by
  rw [exponent?]
  cases digitRun? (splitSign text).2 <;> rfl

theorem exponent?_text (exponent : Exponent) : exponent? exponent.text = some exponent.power := by
  have unsigned := unsigned_of_digits exponent.digits [] exponent.nonempty
  rw [List.append_nil] at unsigned
  have run := digitRun?_eq_some.mpr ⟨exponent.nonempty, exponent.digits, rfl⟩
  rw [Exponent.text, exponent?_cons, splitSign_signText unsigned, run, Option.map_some, Exponent.power]
  simp only [beq_iff_eq]

/-- What is read as an exponent is written as one. -/
theorem exists_exponent {text : List Char} {power : ℤ} (letter : ∀ c ∈ text.head?, c = 'e' ∨ c = 'E')
    (read : exponent? text = some power) :
    ∃ exponent : Option Exponent, text = (exponent.map Exponent.text).getD [] ∧
      power = (exponent.map Exponent.power).getD 0 := by
  cases text with
  | nil =>
    rw [exponent?, Option.some_inj] at read
    exact ⟨none, rfl, read.symm⟩
  | cons c rest =>
    rw [exponent?_cons, Option.map_eq_some_iff] at read
    obtain ⟨value, run, same⟩ := read
    obtain ⟨sign, parts, negative⟩ := exists_sign rest
    obtain ⟨nonempty, digits, valued⟩ := digitRun?_eq_some.mp run
    refine ⟨some ⟨c, sign, (splitSign rest).2, letter c rfl, digits, nonempty⟩, ?_, ?_⟩
    · rw [Option.map_some, Option.getD_some, Exponent.text, ← parts]
    · rw [Option.map_some, Option.getD_some, Exponent.power, valued, ← same, negative]
      simp only [beq_iff_eq]

/-- A mantissa is digits around an optional point. -/
theorem exists_mantissa {text : List Char} {digits places : Nat} (read : mantissa? text = some (digits, places)) :
    ∃ whole pointed fraction, text = whole ++ ((if pointed then ['.'] else []) ++ fraction) ∧
      (∀ c ∈ whole ++ fraction, c.isDigit = true) ∧ whole ++ fraction ≠ [] ∧ (pointed = false → fraction = []) ∧
      Nat.ofDigitChars 10 (whole ++ fraction) 0 = digits ∧ fraction.length = places := by
  rw [mantissa?, Option.map_eq_some_iff] at read
  obtain ⟨value, run, same⟩ := read
  obtain ⟨nonempty, allDigits, valued⟩ := digitRun?_eq_some.mp run
  obtain ⟨rfl, rfl⟩ := Prod.mk.inj same
  have parts := (List.takeWhile_append_dropWhile (p := (· != '.')) (l := text)).symm
  cases rest : text.dropWhile (· != '.') with
  | nil =>
    rw [rest] at parts nonempty allDigits valued
    exact ⟨text.takeWhile (· != '.'), false, [], parts, allDigits, nonempty, fun _ => rfl, valued, rfl⟩
  | cons c fraction =>
    have point := List.head?_dropWhile_not (· != '.') text
    rw [rest] at parts nonempty allDigits valued point
    simp only [List.head?_cons, bne_eq_false_iff_eq] at point
    rw [List.drop_one, List.tail_cons] at nonempty allDigits valued ⊢
    refine ⟨text.takeWhile (· != '.'), true, fraction, ?_, allDigits, nonempty, by simp, valued, rfl⟩
    rw [point] at parts
    exact parts

/-- Whatever is a numeral is spelled as one. -/
theorem exists_spelling {text : List Char} {numeral : Numeral} (read : numeral? text = some numeral) :
    ∃ spelling : Spelling, spelling.text = text ∧ spelling.numeral = numeral := by
  simp only [numeral?, Option.bind_eq_bind, Option.bind_eq_some_iff, Option.pure_def] at read
  obtain ⟨⟨digits, places⟩, mantissa, power, exponent, same⟩ := read
  obtain ⟨sign, signed, negative⟩ := exists_sign text
  obtain ⟨whole, pointed, fraction, written, run, nonempty, unpointed, valued, counted⟩ := exists_mantissa mantissa
  have parts := List.takeWhile_append_dropWhile (p := fun c => c != 'e' && c != 'E') (l := (splitSign text).2)
  have letter : ∀ c ∈ ((splitSign text).2.dropWhile fun c => c != 'e' && c != 'E').head?, c = 'e' ∨ c = 'E' := by
    intro c head
    have stopped := List.head?_dropWhile_not (fun c => c != 'e' && c != 'E') (splitSign text).2
    rw [Option.mem_def] at head
    simp only [head, Bool.and_eq_false_iff, bne_eq_false_iff_eq] at stopped
    exact stopped
  obtain ⟨exponent?, spelled, powered⟩ := exists_exponent letter exponent
  refine ⟨⟨sign, whole, pointed, fraction, exponent?, run, nonempty, unpointed⟩, ?_, ?_⟩
  · rw [Spelling.text, Spelling.mantissa, Spelling.exponentText]
    simp only
    rw [← written, ← spelled, parts, ← signed]
  · rw [← Option.some.inj same, Spelling.numeral]
    simp only [valued, counted, ← powered, negative]

namespace Spelling

variable (spelling : Spelling)

/-- A mantissa has digits and points. -/
theorem mem_mantissa {c : Char} (member : c ∈ spelling.mantissa) : c.isDigit = true ∨ c = '.' := by
  rw [mantissa] at member
  simp only [List.mem_append] at member
  rcases member with whole | point | fraction
  · exact .inl (spelling.digits c (List.mem_append_left _ whole))
  · cases pointed : spelling.pointed <;> simp [pointed] at point
    exact .inr point
  · exact .inl (spelling.digits c (List.mem_append_right _ fraction))

/-- The characters of a numeral. -/
theorem mem_text {c : Char} (member : c ∈ spelling.text) : c.isDigit = true ∨ c ∈ ['.', 'e', 'E', '+', '-'] := by
  have signed (sign : Option Bool) (inside : c ∈ signText sign) : c ∈ ['.', 'e', 'E', '+', '-'] := by
    cases sign with
    | none => cases inside
    | some negative => cases negative <;> simp [signText] at inside <;> simp [inside]
  simp only [text, List.mem_append] at member
  rcases member with sign | mantissa | exponent
  · exact .inr (signed _ sign)
  · rcases spelling.mem_mantissa mantissa with digit | rfl
    · exact .inl digit
    · exact .inr List.mem_cons_self
  · rw [exponentText] at exponent
    cases ending : spelling.exponent with
    | none =>
      rw [ending] at exponent
      cases exponent
    | some power =>
      rw [ending, Option.map_some, Option.getD_some, Exponent.text, List.mem_cons, List.mem_append] at exponent
      rcases exponent with rfl | sign | run
      · rcases power.isLetter with letter | letter <;> simp [letter]
      · exact .inr (signed _ sign)
      · exact .inl (power.digits c run)

theorem text_ne_nil : spelling.text ≠ [] := by
  intro empty
  simp only [text, mantissa, List.append_eq_nil_iff] at empty
  exact spelling.nonempty (by rw [empty.2.1.1, empty.2.1.2.2, List.append_nil])

theorem mantissa_ne_nil : spelling.mantissa ≠ [] := by
  intro empty
  simp only [mantissa, List.append_eq_nil_iff] at empty
  exact spelling.nonempty (by rw [empty.1, empty.2.2, List.append_nil])

theorem mantissa?_mantissa : mantissa? spelling.mantissa = some (spelling.numeral.digits, spelling.numeral.places) := by
  have solid : ∀ c ∈ spelling.whole, (c != '.') = true := by
    intro c member
    exact bne_iff_ne.mpr (ne_of_isDigit (spelling.digits c (List.mem_append_left _ member)) (by decide))
  have run := digitRun?_eq_some.mpr ⟨spelling.nonempty, spelling.digits, rfl⟩
  rw [mantissa?, mantissa]
  simp only [List.takeWhile_append_of_pos solid, List.dropWhile_append_of_pos solid]
  cases pointed : spelling.pointed with
  | false =>
    rw [spelling.unpointed pointed] at run ⊢
    simp only [Bool.false_eq_true, if_false, List.append_nil, List.takeWhile_nil, List.dropWhile_nil, List.drop_nil] at run ⊢
    rw [run]
    simp [numeral, spelling.unpointed pointed]
  | true =>
    simp only [if_true, List.singleton_append, List.takeWhile_cons, bne_self_eq_false, Bool.false_eq_true, if_false,
      List.append_nil, List.dropWhile_cons, List.drop_one, List.tail_cons]
    rw [run]
    rfl

theorem exponent?_exponentText : exponent? spelling.exponentText = some spelling.numeral.power := by
  rw [exponentText, numeral]
  cases spelling.exponent with
  | none => rfl
  | some exponent => exact exponent?_text exponent

/-- What follows the sign is no sign. -/
theorem unsigned : ∀ c ∈ (spelling.mantissa ++ spelling.exponentText).head?, c ≠ '-' ∧ c ≠ '+' := by
  intro c head
  have first : c ∈ spelling.mantissa := by
    cases parts : spelling.mantissa with
    | nil => exact absurd parts spelling.mantissa_ne_nil
    | cons d rest =>
      rw [parts, List.cons_append, List.head?_cons, Option.mem_some_iff] at head
      rw [head]
      exact List.mem_cons_self
  rcases spelling.mem_mantissa first with digit | rfl
  · exact ⟨ne_of_isDigit digit (by decide), ne_of_isDigit digit (by decide)⟩
  · decide

/-- The sign, the mantissa and the exponent of a written numeral are taken apart again. -/
theorem numeral?_text : numeral? spelling.text = some spelling.numeral := by
  have solid : ∀ c ∈ spelling.mantissa, (c != 'e' && c != 'E') = true := by
    intro c member
    rcases spelling.mem_mantissa member with digit | rfl
    · have lower : c ≠ 'e' := ne_of_isDigit digit (by decide)
      have upper : c ≠ 'E' := ne_of_isDigit digit (by decide)
      simp [lower, upper]
    · decide
  have stops : spelling.exponentText.takeWhile (fun c => c != 'e' && c != 'E') = [] ∧
      spelling.exponentText.dropWhile (fun c => c != 'e' && c != 'E') = spelling.exponentText := by
    rw [exponentText]
    cases spelling.exponent with
    | none => exact ⟨rfl, rfl⟩
    | some exponent =>
      rw [Option.map_some, Option.getD_some, Exponent.text]
      rcases exponent.isLetter with letter | letter <;> rw [letter] <;> exact ⟨by simp, by simp⟩
  rw [numeral?, text, splitSign_signText spelling.unsigned]
  simp only [List.takeWhile_append_of_pos solid, List.dropWhile_append_of_pos solid, stops.1, stops.2, List.append_nil,
    spelling.mantissa?_mantissa, spelling.exponent?_exponentText, Option.bind_eq_bind, Option.bind_some, Option.pure_def]
  rfl

/-- A numeral without its sign. -/
def magnitude : Spelling := { spelling with sign := none }

/-- A numeral without its sign and its point. -/
def joined : Spelling where
  sign := none
  whole := spelling.whole ++ spelling.fraction
  pointed := false
  fraction := []
  exponent := spelling.exponent
  digits := by
    rw [List.append_nil]
    exact spelling.digits
  nonempty := by
    rw [List.append_nil]
    exact spelling.nonempty
  unpointed := fun _ => rfl

/-- What an exponent is written with: neither a point nor a sign in front. -/
theorem mem_exponentText {c : Char} (member : c ∈ spelling.exponentText) : c.isDigit = true ∨ c ∈ ['e', 'E', '+', '-'] := by
  rw [exponentText] at member
  cases ending : spelling.exponent with
  | none =>
    rw [ending] at member
    cases member
  | some power =>
    rw [ending, Option.map_some, Option.getD_some, Exponent.text, List.mem_cons, List.mem_append] at member
    rcases member with rfl | sign | run
    · rcases power.isLetter with letter | letter <;> simp [letter]
    · cases signed : power.sign with
      | none =>
        rw [signed] at sign
        cases sign
      | some negative =>
        rw [signed] at sign
        cases negative <;> simp [signText] at sign <;> simp [sign]
    · exact .inl (power.digits c run)

theorem text_magnitude : spelling.magnitude.text = spelling.mantissa ++ spelling.exponentText := rfl

/-- Dropping the point of an unsigned numeral leaves the run of its digits. -/
theorem text_joined : spelling.joined.text = spelling.magnitude.text.filter (· != '.') := by
  have digits {run : List Char} (all : ∀ c ∈ run, c.isDigit = true) : run.filter (· != '.') = run := by
    rw [List.filter_eq_self]
    exact fun c member => bne_iff_ne.mpr (ne_of_isDigit (all c member) (by decide))
  have whole := digits fun c member => spelling.digits c (List.mem_append_left _ member)
  have fraction := digits fun c member => spelling.digits c (List.mem_append_right _ member)
  have point : (if spelling.pointed then ['.'] else []).filter (· != '.') = [] := by
    cases spelling.pointed <;> rfl
  have ending : spelling.exponentText.filter (· != '.') = spelling.exponentText := by
    rw [List.filter_eq_self]
    intro c member
    rw [bne_iff_ne]
    rintro rfl
    rcases spelling.mem_exponentText member with digit | other
    · exact absurd digit (by decide)
    · exact absurd other (by decide)
  rw [text_magnitude, mantissa, List.filter_append, List.filter_append, List.filter_append, whole, fraction, point, ending]
  simp [text, mantissa, joined, exponentText, signText]

theorem isSign_of_mem_signText : ∀ c ∈ signText spelling.sign, isSign c = true := by
  intro c member
  cases sign : spelling.sign with
  | none =>
    rw [sign] at member
    cases member
  | some negative =>
    rw [sign] at member
    cases negative <;> simp [signText] at member <;> rw [member] <;> decide

/-- Signs are in front of a numeral, and its sign is the only one. -/
theorem takeWhile_text : spelling.text.takeWhile isSign = signText spelling.sign ∧
    spelling.text.dropWhile isSign = spelling.magnitude.text := by
  have signs := spelling.isSign_of_mem_signText
  have stops : (spelling.mantissa ++ spelling.exponentText).takeWhile isSign = [] ∧
      (spelling.mantissa ++ spelling.exponentText).dropWhile isSign = spelling.mantissa ++ spelling.exponentText := by
    have first := spelling.unsigned
    cases rest : spelling.mantissa ++ spelling.exponentText with
    | nil => exact ⟨rfl, rfl⟩
    | cons c others =>
      rw [rest] at first
      have head := first c rfl
      have other : isSign c = false := by simp [isSign, head.1, head.2]
      exact ⟨List.takeWhile_cons_of_neg (by simp [other]), List.dropWhile_cons_of_neg (by simp [other])⟩
  rw [text, List.takeWhile_append_of_pos signs, List.dropWhile_append_of_pos signs, stops.1, stops.2, List.append_nil]
  exact ⟨rfl, rfl⟩

theorem numeral_magnitude : spelling.magnitude.numeral = { spelling.numeral with negative := false } := rfl

theorem numeral_joined : spelling.joined.numeral = ⟨false, spelling.numeral.digits, 0, spelling.numeral.power⟩ := by
  simp [numeral, joined]

end Spelling

theorem numeral?_eq_some {text : List Char} {numeral : Numeral} :
    numeral? text = some numeral ↔ ∃ spelling : Spelling, spelling.text = text ∧ spelling.numeral = numeral := by
  constructor
  · exact exists_spelling
  · rintro ⟨spelling, rfl, rfl⟩
    exact spelling.numeral?_text

end Grammar

section Values

variable (numeral : Numeral)

theorem Numeral.value_eq_zero_iff : numeral.value = 0 ↔ numeral.digits = 0 := by
  have power : (10 : ℚ) ^ (numeral.power - numeral.places) ≠ 0 := zpow_ne_zero _ (by norm_num)
  rw [value, mul_eq_zero, or_iff_left power]
  split <;> simp

theorem Numeral.value_nonneg (positive : numeral.negative = false) : 0 ≤ numeral.value := by
  rw [value, positive, if_neg (by simp)]
  exact mul_nonneg (Nat.cast_nonneg _) (zpow_nonneg (by norm_num) _)

theorem Numeral.value_nonpos (negative : numeral.negative = true) : numeral.value ≤ 0 := by
  rw [value, negative, if_pos rfl]
  exact mul_nonpos_of_nonpos_of_nonneg (neg_nonpos.mpr (Nat.cast_nonneg _)) (zpow_nonneg (by norm_num) _)

end Values

section Folding

theorem foldDigit_of_ascii {c : Char} (ascii : c.toNat < 128) : foldDigit c = c := if_pos ascii

/-- The digits of every script become digits, and other characters stay. -/
theorem foldDigit_cases (c : Char) : (foldDigit c).isDigit = true ∨ foldDigit c = c := by
  rw [foldDigit]
  by_cases ascii : c.toNat < 128
  · exact .inr (if_pos ascii)
  rw [if_neg ascii]
  cases found : decimalDigit? c with
  | none => exact .inr rfl
  | some digit =>
    rw [decimalDigit?, Option.map_eq_some_iff] at found
    obtain ⟨start, run, rfl⟩ := found
    have within := List.find?_some run
    simp only [Bool.and_eq_true, decide_eq_true_eq] at within
    left
    simp only [Nat.isDigit_digitChar, decide_eq_true_eq]
    omega

/-- Only decimal digits become digits. -/
theorem isAnyDigit_of_foldDigit {c : Char} (digit : (foldDigit c).isDigit = true) : isAnyDigit c = true := by
  rw [isAnyDigit]
  rw [foldDigit] at digit
  by_cases ascii : c.toNat < 128
  · rw [if_pos ascii] at digit
    simp [digit]
  · rw [if_neg ascii] at digit
    cases found : decimalDigit? c with
    | none =>
      rw [found] at digit
      simp only at digit
      simp [digit]
    | some value => simp

/-- The decimal digits leave out the stretches of other blocks. -/
theorem decimalZeros_apart : ∀ start ∈ decimalZeros, 0xB5 < start ∧ (start + 10 ≤ 0xE3F ∨ 0xE3F < start) ∧
    (start + 10 ≤ 0x1680 ∨ 0x1680 < start) ∧ (start + 10 ≤ 0x2000 ∨ 0x2212 < start) ∧
    (start + 10 ≤ 0x3000 ∨ 0x3000 < start) := by decide

/-- Blanks, currency signs and mathematical signs are no digits. -/
theorem foldDigit_of_gap {c : Char} (gap : c.toNat ≤ 0xB5 ∨ c.toNat = 0xE3F ∨ c.toNat = 0x1680 ∨
    0x2000 ≤ c.toNat ∧ c.toNat ≤ 0x2212 ∨ c.toNat = 0x3000) : foldDigit c = c := by
  have none : decimalDigit? c = none := by
    rw [decimalDigit?, Option.map_eq_none_iff, List.find?_eq_none]
    intro start listed
    have apart := decimalZeros_apart start listed
    simp only [Bool.and_eq_true, decide_eq_true_eq]
    omega
  rw [foldDigit, none]
  exact ite_self c

/-- Folding makes no character of ASCII but digits. -/
theorem foldDigit_eq_iff {c d : Char} (ascii : d.toNat < 128) (solid : d.isDigit = false) : foldDigit c = d ↔ c = d := by
  constructor
  · intro folded
    rcases foldDigit_cases c with digit | same
    · rw [folded, solid] at digit
      cases digit
    · rw [← same, folded]
  · rintro rfl
    exact foldDigit_of_ascii ascii

end Folding

end Payables.Lib
