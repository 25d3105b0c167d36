import Mathlib
import Payables.Lib.Spelling
import Payables.Workflow.Reporting

namespace Payables.Iban
open Lib

/-- What `str.isalpha`, `str.isnumeric` and `str.upper` read of the character database. -/
structure UnicodeData where
  isAlpha : Char → Bool
  isNumeric : Char → Bool
  upper : Char → List Char
  alpha_ascii : ∀ c : Char, c.toNat < 128 → isAlpha c = c.isAlpha
  numeric_ascii : ∀ c : Char, c.toNat < 128 → isNumeric c = c.isDigit
  upper_isLower : ∀ c, ∀ d ∈ upper c, d.isLower = false

/-- `_IBAN_LENGTHS`. -/
def ibanLengths : List (String × Nat) :=
  [("AD", 24), ("AE", 23), ("AL", 28), ("AT", 20), ("AZ", 28), ("BA", 20), ("BE", 16), ("BG", 22), ("BH", 22),
    ("BR", 29), ("BY", 28), ("CH", 21), ("CR", 22), ("CY", 28), ("CZ", 24), ("DE", 22), ("DK", 18), ("DO", 28),
    ("EE", 20), ("EG", 29), ("ES", 24), ("FI", 18), ("FO", 18), ("FR", 27), ("GB", 22), ("GE", 22), ("GI", 23),
    ("GL", 18), ("GR", 27), ("GT", 28), ("HR", 21), ("HU", 28), ("IE", 22), ("IL", 23), ("IQ", 23), ("IS", 26),
    ("IT", 27), ("JO", 30), ("KW", 30), ("KZ", 20), ("LB", 28), ("LC", 32), ("LI", 21), ("LT", 20), ("LU", 20),
    ("LV", 21), ("MC", 27), ("MD", 24), ("ME", 22), ("MK", 19), ("MR", 27), ("MT", 31), ("MU", 30), ("NL", 18),
    ("NO", 15), ("PK", 24), ("PL", 28), ("PS", 29), ("PT", 25), ("QA", 29), ("RO", 24), ("RS", 22), ("SA", 24),
    ("SC", 31), ("SE", 24), ("SI", 19), ("SK", 24), ("SM", 27), ("ST", 25), ("SV", 28), ("TL", 23), ("TN", 24),
    ("TR", 26), ("UA", 29), ("VA", 22), ("VG", 24), ("XK", 20)]

/-- `int(text)`, of a text without blanks, signs and underscores. -/
def pyInt (text : List Char) : Except Raised Nat :=
  let body := text.map foldDigit
  if body = [] ∨ body.any (!·.isDigit) then .error (.uncaught "ValueError") else .ok (Nat.ofDigitChars 10 body 0)

section Validate

variable (db : UnicodeData)

/-- `str.isalnum` of one character. -/
def isAlnum (c : Char) : Bool := db.isAlpha c || (foldDigit c).isDigit || isAnyDigit c || db.isNumeric c

def normalizeIban (raw : List Char) : List Char := (raw.filter (!isPySpace ·)).flatMap db.upper

/-- What a character of the rearranged text becomes. Those that are no digit are letters or lie beyond ASCII. -/
def expand (c : Char) : List Char := if isAnyDigit c then [c] else Nat.toDigits 10 (c.toNat - 55)

def rearranged (normalized : List Char) : List Char := normalized.drop 4 ++ normalized.take 4

def validateIban : Option String → Except Raised Bool
  | none => .ok false
  | some iban =>
    let normalized := normalizeIban db iban.toList
    if iban = "" then .ok false
    else if normalized = [] ∨ normalized.any (!isAlnum db ·) then .ok false
    else if normalized.length < 15 ∨ 34 < normalized.length then .ok false
    else if (normalized.take 2).any (!db.isAlpha ·) then .ok false
    else if ((normalized.drop 2).take 2).any (!isAnyDigit ·) then .ok false
    else if (ibanLengths.lookup (String.ofList (normalized.take 2))).any (normalized.length ≠ ·) then .ok false
    else
      match pyInt ((rearranged normalized).flatMap expand) with
      | .ok asInt => .ok (asInt % 97 == 1)
      | .error raised => if raised = .uncaught "ValueError" then .ok false else .error raised

end Validate

/-- What the letters and digits of a rearranged text expand to, with `A` as 10 and `Z` as 35. -/
def expansion (text : List Char) : Nat :=
  text.foldl (fun value c => if c.isDigit then 10 * value + (c.toNat - 48) else 100 * value + (c.toNat - 55)) 0

/-- The grammar of an IBAN, in ASCII. -/
structure IbanGrammar (text : List Char) : Prop where
  country : ∀ c ∈ text.take 2, c.isUpper = true
  check : ∀ c ∈ (text.drop 2).take 2, c.isDigit = true
  rest : ∀ c ∈ text.drop 4, c.isUpper = true ∨ c.isDigit = true
  length : (ibanLengths.lookup (String.ofList (text.take 2))).elim (15 ≤ text.length ∧ text.length ≤ 34) (text.length = ·)
  checksum : expansion (rearranged text) % 97 = 1

/-- The same shape in the letters and digits of any script, whose letters count for their distance from `A` as well. -/
structure ScriptedIban (db : UnicodeData) (text : List Char) : Prop where
  alnum : ∀ c ∈ text, isAlnum db c = true
  decimals : ∀ c ∈ text, isAnyDigit c = true → (foldDigit c).isDigit = true
  country : ∀ c ∈ text.take 2, db.isAlpha c = true
  check : ∀ c ∈ (text.drop 2).take 2, isAnyDigit c = true
  range : 15 ≤ text.length ∧ text.length ≤ 34
  length : ∀ n ∈ ibanLengths.lookup (String.ofList (text.take 2)), text.length = n
  checksum : Nat.ofDigitChars 10 (((rearranged text).flatMap expand).map foldDigit) 0 % 97 = 1

def Ascii (text : List Char) : Prop := ∀ c ∈ text, c.toNat < 128

section Expansion

theorem foldDigit_of_isDigit {c : Char} (digit : c.isDigit = true) : foldDigit c = c := by
  have ascii : c.toNat < 128 := by
    simp only [Char.isDigit, Bool.and_eq_true, decide_eq_true_eq, UInt32.le_iff_toNat_le] at digit
    have high : c.toNat ≤ 57 := digit.2
    omega
  exact foldDigit_of_ascii ascii

theorem expand_ne_nil (c : Char) : expand c ≠ [] := by
  rw [expand]
  split
  · exact List.cons_ne_nil c []
  · exact Nat.toDigits_ne_nil

/-- Only a digit that is no decimal expands to something that is no decimal. -/
theorem expand_decimals (c : Char) :
    (∀ d ∈ expand c, (foldDigit d).isDigit = true) ↔ (isAnyDigit c = true → (foldDigit c).isDigit = true) := by
  rw [expand]
  split
  next digit => simp [digit]
  next other =>
    refine iff_of_true (fun d member => ?_) fun digit => absurd digit other
    have digit := Nat.isDigit_of_mem_toDigits (by decide) (by decide) member
    rwa [foldDigit_of_isDigit digit]

theorem pyInt_expand {text : List Char} (filled : text ≠ []) :
    (∀ c ∈ text, isAnyDigit c = true → (foldDigit c).isDigit = true) ∧
        pyInt (text.flatMap expand) = .ok (Nat.ofDigitChars 10 ((text.flatMap expand).map foldDigit) 0) ∨
      (¬∀ c ∈ text, isAnyDigit c = true → (foldDigit c).isDigit = true) ∧
        pyInt (text.flatMap expand) = .error (.uncaught "ValueError") := by
  have some' : (text.flatMap expand).map foldDigit ≠ [] := by
    obtain ⟨c, rest, rfl⟩ := List.exists_cons_of_ne_nil filled
    simp [expand_ne_nil c]
  have each : (∀ c ∈ text, isAnyDigit c = true → (foldDigit c).isDigit = true) ↔
      ((text.flatMap expand).map foldDigit).any (!·.isDigit) = false := by
    simp only [← expand_decimals, List.any_eq_false, List.mem_map, List.mem_flatMap]
    constructor
    · rintro all _ ⟨d, ⟨c, member, inside⟩, rfl⟩
      simp [all c member d inside]
    · intro all c member d inside
      simpa using all (foldDigit d) ⟨d, ⟨c, member, inside⟩, rfl⟩
  by_cases all : ∀ c ∈ text, isAnyDigit c = true → (foldDigit c).isDigit = true
  · refine .inl ⟨all, ?_⟩
    rw [pyInt, if_neg]
    rw [each.mp all]
    simpa using some'
  · refine .inr ⟨all, ?_⟩
    rw [pyInt, if_pos]
    exact .inr (Bool.of_not_eq_false (mt each.mpr all))

end Expansion

section Accepted

variable {db : UnicodeData}

theorem mem_rearranged {text : List Char} {c : Char} : c ∈ rearranged text ↔ c ∈ text := by
  rw [rearranged, List.mem_append, or_comm, ← List.mem_append, List.take_append_drop]

/-- The validator never raises, and accepts the shape of an IBAN in any script. -/
theorem validateIban_spec (iban : String) : ∃ accepted, validateIban db (some iban) = .ok accepted ∧
    (accepted = true ↔ ScriptedIban db (normalizeIban db iban.toList)) := by
  have blank : iban = "" → normalizeIban db iban.toList = [] := by
    rintro rfl
    rfl
  rw [validateIban]
  generalize normalizeIban db iban.toList = normalized at blank ⊢
  have refused : ¬ScriptedIban db normalized → ∃ accepted, (.ok false : Except Raised Bool) = .ok accepted ∧
      (accepted = true ↔ ScriptedIban db normalized) := fun none => ⟨false, rfl, by simp [none]⟩
  have short : normalized = [] → ¬ScriptedIban db normalized := by
    intro empty shape
    have range := shape.range.1
    rw [empty] at range
    simp at range
  by_cases none : iban = ""
  · rw [if_pos none]
    exact refused (short (blank none))
  rw [if_neg none]
  by_cases solid : normalized = [] ∨ normalized.any (!isAlnum db ·) = true
  · rw [if_pos solid]
    rcases solid with empty | strange
    · exact refused (short empty)
    · refine refused fun shape => ?_
      obtain ⟨c, member, other⟩ := List.any_eq_true.mp strange
      rw [shape.alnum c member] at other
      cases other
  rw [if_neg solid]
  obtain ⟨filled, alnum⟩ := not_or.mp solid
  by_cases range : normalized.length < 15 ∨ 34 < normalized.length
  · rw [if_pos range]
    exact refused fun shape => by have := shape.range; omega
  rw [if_neg range]
  by_cases country : (normalized.take 2).any (!db.isAlpha ·) = true
  · rw [if_pos country]
    refine refused fun shape => ?_
    obtain ⟨c, member, other⟩ := List.any_eq_true.mp country
    rw [shape.country c member] at other
    cases other
  rw [if_neg country]
  by_cases check : ((normalized.drop 2).take 2).any (!isAnyDigit ·) = true
  · rw [if_pos check]
    refine refused fun shape => ?_
    obtain ⟨c, member, other⟩ := List.any_eq_true.mp check
    rw [shape.check c member] at other
    cases other
  rw [if_neg check]
  by_cases length : (ibanLengths.lookup (String.ofList (normalized.take 2))).any (normalized.length ≠ ·) = true
  · rw [if_pos length]
    refine refused fun shape => ?_
    cases known : ibanLengths.lookup (String.ofList (normalized.take 2)) with
    | none => simp [known] at length
    | some n =>
      have same := shape.length n known
      simp [known, same] at length
  rw [if_neg length]
  have nonempty : rearranged normalized ≠ [] := by
    obtain ⟨c, member⟩ := List.exists_mem_of_ne_nil _ filled
    exact List.ne_nil_of_mem (mem_rearranged.mpr member)
  rcases pyInt_expand nonempty with ⟨decimals, parsed⟩ | ⟨strange, raised⟩
  · rw [parsed]
    refine ⟨_, rfl, beq_iff_eq.trans ⟨fun checksum => ?_, fun shape => shape.checksum⟩⟩
    refine ⟨?_, fun c member => decimals c (mem_rearranged.mpr member), ?_, ?_, by omega, ?_, checksum⟩
    · simpa using alnum
    · simpa using country
    · simpa using check
    · intro n known
      simpa [Option.mem_def.mp known] using length
  · rw [raised]
    simp only [if_true]
    exact refused fun shape => strange fun c member => shape.decimals c (mem_rearranged.mp member)

end Accepted

section Grammar

variable {db : UnicodeData} {text : List Char}

theorem isUpper_toNat {c : Char} (upper : c.isUpper = true) : 65 ≤ c.toNat ∧ c.toNat ≤ 90 := by
  simp only [Char.isUpper, decide_eq_true_eq, UInt32.le_iff_toNat_le] at upper
  exact upper

theorem isDigit_toNat {c : Char} (digit : c.isDigit = true) : 48 ≤ c.toNat ∧ c.toNat ≤ 57 := by
  simp only [Char.isDigit, Bool.and_eq_true, decide_eq_true_eq, UInt32.le_iff_toNat_le] at digit
  exact digit

/-- The two digits of a letter. -/
theorem ofDigitChars_letter {n : Nat} (low : 10 ≤ n) (high : n ≤ 35) (value : Nat) :
    Nat.ofDigitChars 10 ((Nat.toDigits 10 n).map foldDigit) value = 100 * value + n := by
  have folded : (Nat.toDigits 10 n).map foldDigit = Nat.toDigits 10 n := by
    refine (List.map_congr_left fun d member => ?_).trans (List.map_id _)
    exact foldDigit_of_isDigit (Nat.isDigit_of_mem_toDigits (by decide) (by decide) member)
  have two : (Nat.toDigits 10 n).length = 2 := by interval_cases n <;> rfl
  rw [folded, Nat.ofDigitChars_eq_ofDigitChars_zero, Nat.ofDigitChars_ten_toDigits, two]

theorem otherDigitRanges_high : ∀ range ∈ otherDigitRanges, 0xB2 ≤ range.1 := by decide

theorem isAnyDigit_of_ascii {c : Char} (ascii : c.toNat < 128) : isAnyDigit c = c.isDigit := by
  have decimal : decimalDigit? c = none := by
    rw [decimalDigit?, Option.map_eq_none_iff, List.find?_eq_none]
    intro start listed
    have high := (decimalZeros_apart start listed).1
    simp only [Bool.and_eq_true, decide_eq_true_eq]
    omega
  have others : (otherDigitRanges.any fun range => range.1 ≤ c.toNat && c.toNat ≤ range.2) = false := by
    refine List.any_eq_false.mpr fun range listed => ?_
    have high := otherDigitRanges_high range listed
    simp only [Bool.and_eq_true, decide_eq_true_eq]
    omega
  rw [isAnyDigit, decimal, others, Option.isSome_none, Bool.or_false, Bool.or_false]

/-- In ASCII the expansion is the number of the grammar. -/
theorem ofDigitChars_expand (plain : ∀ c ∈ text, c.isUpper = true ∨ c.isDigit = true) :
    Nat.ofDigitChars 10 ((text.flatMap expand).map foldDigit) 0 = expansion text := by
  have from' : ∀ value, Nat.ofDigitChars 10 ((text.flatMap expand).map foldDigit) value =
      text.foldl (fun value c => if c.isDigit then 10 * value + (c.toNat - 48) else 100 * value + (c.toNat - 55)) value := by
    induction text with
    | nil => exact fun value => Nat.ofDigitChars_nil
    | cons c rest ih =>
      intro value
      obtain ⟨first, others⟩ := List.forall_mem_cons.mp plain
      rw [List.flatMap_cons, List.map_append, Nat.ofDigitChars_append, ih others, List.foldl_cons]
      congr 1
      by_cases digit : c.isDigit = true
      · have ascii := isDigit_toNat digit
        rw [if_pos digit, expand, if_pos ((isAnyDigit_of_ascii (by omega)).trans digit), List.map_singleton,
          foldDigit_of_isDigit digit, Nat.ofDigitChars_cons, Nat.ofDigitChars_nil]
        rfl
      · have letter := isUpper_toNat (first.resolve_right digit)
        rw [if_neg digit, expand, isAnyDigit_of_ascii (by omega), if_neg digit, ofDigitChars_letter (by omega) (by omega)]
  exact from' 0

theorem ibanLengths_range : ∀ entry ∈ ibanLengths, 15 ≤ entry.2 ∧ entry.2 ≤ 34 := by decide

theorem IbanGrammar.range (grammar : IbanGrammar text) : 15 ≤ text.length ∧ text.length ≤ 34 := by
  have length := grammar.length
  cases known : ibanLengths.lookup (String.ofList (text.take 2)) with
  | none => rwa [known] at length
  | some n =>
    rw [known] at length
    obtain ⟨before, after, parts, -⟩ := List.lookup_eq_some_iff.mp known
    have listed : (String.ofList (text.take 2), n) ∈ ibanLengths := by simp [parts]
    have same : text.length = n := length
    rw [same]
    exact ibanLengths_range _ listed

theorem mem_parts {c : Char} (member : c ∈ text) : c ∈ text.take 2 ∨ c ∈ (text.drop 2).take 2 ∨ c ∈ text.drop 4 := by
  rw [← List.take_append_drop 2 text, List.mem_append, ← List.take_append_drop 2 (text.drop 2), List.mem_append,
    List.drop_drop] at member
  exact member

theorem IbanGrammar.plain (grammar : IbanGrammar text) : ∀ c ∈ text, c.isUpper = true ∨ c.isDigit = true := by
  intro c member
  rcases mem_parts member with country | check | rest
  · exact .inl (grammar.country c country)
  · exact .inr (grammar.check c check)
  · exact grammar.rest c rest

theorem ascii_of_plain (plain : ∀ c ∈ text, c.isUpper = true ∨ c.isDigit = true) : Ascii text := by
  intro c member
  rcases plain c member with upper | digit
  · have := isUpper_toNat upper
    omega
  · have := isDigit_toNat digit
    omega

/-- In ASCII without small letters, what counts as alphanumeric is a capital or a digit. -/
theorem isAlnum_of_ascii {c : Char} (ascii : c.toNat < 128) (capital : c.isLower = false) :
    isAlnum db c = (c.isUpper || c.isDigit) := by
  rw [isAlnum, db.alpha_ascii c ascii, db.numeric_ascii c ascii, isAnyDigit_of_ascii ascii, foldDigit_of_ascii ascii, Char.isAlpha,
    capital, Bool.or_false, Bool.or_assoc, Bool.or_self, Bool.or_assoc, Bool.or_self]

theorem scripted_iff_grammar (ascii : Ascii text) (capital : ∀ c ∈ text, c.isLower = false) :
    ScriptedIban db text ↔ IbanGrammar text := by
  have letter : ∀ c ∈ text, db.isAlpha c = c.isUpper := by
    intro c member
    rw [db.alpha_ascii c (ascii c member), Char.isAlpha, capital c member, Bool.or_false]
  have digit : ∀ c ∈ text, isAnyDigit c = c.isDigit := fun c member => isAnyDigit_of_ascii (ascii c member)
  have among : ∀ c ∈ (text.drop 2).take 2, c ∈ text := fun c member => List.mem_of_mem_drop (List.mem_of_mem_take member)
  constructor
  · intro shape
    have plain : ∀ c ∈ text, c.isUpper = true ∨ c.isDigit = true := by
      intro c member
      have alnum := shape.alnum c member
      rwa [isAlnum_of_ascii (ascii c member) (capital c member), Bool.or_eq_true] at alnum
    refine ⟨fun c member => ?_, fun c member => ?_, fun c member => plain c (List.mem_of_mem_drop member), ?_, ?_⟩
    · rw [← letter c (List.mem_of_mem_take member)]
      exact shape.country c member
    · rw [← digit c (among c member)]
      exact shape.check c member
    · cases known : ibanLengths.lookup (String.ofList (text.take 2)) with
      | none => exact shape.range
      | some n => exact shape.length n known
    · rw [← ofDigitChars_expand fun c member => plain c (mem_rearranged.mp member)]
      exact shape.checksum
  · intro grammar
    have plain := grammar.plain
    refine ⟨fun c member => ?_, fun c member decimal => ?_, fun c member => ?_, fun c member => ?_, grammar.range, fun n known => ?_, ?_⟩
    · rw [isAlnum_of_ascii (ascii c member) (capital c member), Bool.or_eq_true]
      exact plain c member
    · rw [digit c member] at decimal
      rwa [foldDigit_of_isDigit decimal]
    · rw [letter c (List.mem_of_mem_take member)]
      exact grammar.country c member
    · rw [digit c (among c member)]
      exact grammar.check c member
    · have length := grammar.length
      rwa [Option.mem_def.mp known] at length
    · rw [ofDigitChars_expand fun c member => plain c (mem_rearranged.mp member)]
      exact grammar.checksum

theorem normalizeIban_isLower (raw : List Char) : ∀ c ∈ normalizeIban db raw, c.isLower = false := by
  intro c member
  obtain ⟨source, _, inside⟩ := List.mem_flatMap.mp member
  exact db.upper_isLower source c inside

end Grammar

/-- The validator never raises, and accepts exactly the grammar on the texts that are ASCII once normalised or have no
shape of an IBAN in any script. -/
theorem validateIban_grammar (db : UnicodeData) (iban : String) :
    (∃ accepted, validateIban db (some iban) = .ok accepted) ∧
      ((validateIban db (some iban) = .ok true ↔ IbanGrammar (normalizeIban db iban.toList)) ↔
        (Ascii (normalizeIban db iban.toList) ∨ ¬ScriptedIban db (normalizeIban db iban.toList))) := by
  obtain ⟨accepted, validated, exact⟩ := @validateIban_spec db iban
  have shape : validateIban db (some iban) = .ok true ↔ ScriptedIban db (normalizeIban db iban.toList) := by
    rw [validated, Except.ok.injEq, exact]
  have capital := @normalizeIban_isLower db iban.toList
  refine ⟨⟨accepted, validated⟩, ?_⟩
  rw [shape]
  constructor
  · intro same
    by_cases scripted : ScriptedIban db (normalizeIban db iban.toList)
    · exact .inl (ascii_of_plain (same.mp scripted).plain)
    · exact .inr scripted
  · rintro (ascii | none)
    · exact scripted_iff_grammar ascii capital
    · refine iff_of_false none fun grammar => none ?_
      exact (scripted_iff_grammar (ascii_of_plain grammar.plain) capital).mpr grammar

/-- The capital of a letter of ASCII. -/
def capital (c : Char) : Char := if c.isLower then Char.ofNat (c.toNat - 32) else c

theorem isLower_capital (c : Char) : (capital c).isLower = false := by
  rw [capital]
  split
  next lower =>
    have range : 97 ≤ c.toNat ∧ c.toNat ≤ 122 := by
      simp only [Char.isLower, Bool.and_eq_true, decide_eq_true_eq, UInt32.le_iff_toNat_le] at lower
      exact lower
    generalize c.toNat = n at range
    obtain ⟨low, high⟩ := range
    interval_cases n <;> rfl
  next other => exact Bool.of_not_eq_true other

/-- The letters of ASCII, with the digits of every script. -/
def latin : UnicodeData where
  isAlpha := Char.isAlpha
  isNumeric := isAnyDigit
  upper c := [capital c]
  alpha_ascii _ _ := rfl
  numeric_ascii _ := isAnyDigit_of_ascii
  upper_isLower c d member := by
    rw [List.mem_singleton.mp member]
    exact isLower_capital c

/-- An IBAN whose last digit is an Arabic two. -/
theorem arabic_digit_accepted : ¬∀ (db : UnicodeData) (iban : String),
    validateIban db (some iban) = .ok true ↔ IbanGrammar (normalizeIban db iban.toList) := by
  intro always
  have accepted : validateIban latin (some "GB82 WEST 1234 5698 7654 3٢") = .ok true := by decide
  have plain := ((always latin "GB82 WEST 1234 5698 7654 3٢").mp accepted).plain
  exact absurd (plain '٢' (by decide)) (by decide)

end Payables.Iban
