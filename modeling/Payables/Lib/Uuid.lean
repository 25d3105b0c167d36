import Mathlib

namespace Payables.Lib

instance neZero_sixteen : NeZero 16 := ⟨by decide⟩

/-- A UUID, by its 32 hexadecimal digits. -/
structure Uuid where
  nibbles : List (Fin 16)
  length : nibbles.length = 32
  deriving DecidableEq

namespace Uuid

def hexChar (nibble : Fin 16) : Char := Nat.digitChar nibble.val

def hexChars (nibbles : List (Fin 16)) : List Char := nibbles.map hexChar

/-- `str`: groups of eight, four, four, four and twelve digits. -/
def text (id : Uuid) : List Char :=
  hexChars (id.nibbles.take 8) ++ '-' :: (hexChars ((id.nibbles.drop 8).take 4) ++ '-' ::
    (hexChars ((id.nibbles.drop 12).take 4) ++ '-' :: (hexChars ((id.nibbles.drop 16).take 4) ++ '-' ::
      hexChars (id.nibbles.drop 20))))

/-- The text without a pattern, wherever it occurs; `skip` characters of an occurrence are still to go. -/
def without (pattern : List Char) : Nat → List Char → List Char
  | _, [] => []
  | skip + 1, _ :: rest => without pattern skip rest
  | 0, c :: rest =>
    if pattern.isPrefixOf (c :: rest) then without pattern (pattern.length - 1) rest else c :: without pattern 0 rest

def isBrace (c : Char) : Bool := c == Char.ofNat 123 || c == Char.ofNat 125

/-- What `uuid.UUID` takes for the digits of a text. -/
def digitsOf (text : List Char) : List Char :=
  (((without "uuid:".toList 0 (without "urn:".toList 0 text)).dropWhile isBrace).rdropWhile isBrace).filter (· != '-')

def nibble? (c : Char) : Option (Fin 16) :=
  let n := c.toNat
  if 48 ≤ n ∧ n ≤ 57 then some (Fin.ofNat 16 (n - 48))
  else if 97 ≤ n ∧ n ≤ 102 then some (Fin.ofNat 16 (n - 87))
  else if 65 ≤ n ∧ n ≤ 70 then some (Fin.ofNat 16 (n - 55))
  else none

/-- A UUID with some digits, where there are 32 of them. -/
def ofNibbles? (nibbles : List (Fin 16)) : Option Uuid :=
  if length : nibbles.length = 32 then some ⟨nibbles, length⟩ else none

/-- `uuid.UUID`. What `int(..., 16)` makes of 32 characters that are not all digits of ASCII is a parameter. -/
def parse (otherDigits : List Char → Option Uuid) (text : List Char) : Option Uuid :=
  if (digitsOf text).length ≠ 32 then none
  else
    match (digitsOf text).mapM nibble? with
    | some nibbles => ofNibbles? nibbles
    | none => otherDigits (digitsOf text)

theorem nibble?_hexChar : ∀ d : Fin 16, nibble? (hexChar d) = some d := by decide

theorem hexChar_plain : ∀ d : Fin 16, hexChar d ≠ 'u' ∧ isBrace (hexChar d) = false ∧ hexChar d ≠ '-' := by decide

theorem without_of_not_mem {first : Char} {pattern text : List Char} (free : first ∉ text) :
    without (first :: pattern) 0 text = text := by
  induction text with
  | nil => rfl
  | cons c rest ih =>
    obtain ⟨apart, later⟩ := not_or.mp (List.mem_cons.not.mp free)
    have other : (first :: pattern).isPrefixOf (c :: rest) = false := by
      rw [List.isPrefixOf, beq_eq_false_iff_ne.mpr apart, Bool.false_and]
    rw [without, other, if_neg Bool.false_ne_true, ih later]

theorem mem_hexChars {nibbles : List (Fin 16)} {c : Char} (member : c ∈ hexChars nibbles) : ∃ d : Fin 16, c = hexChar d := by
  obtain ⟨d, -, rfl⟩ := List.mem_map.mp member
  exact ⟨d, rfl⟩

theorem mem_text {id : Uuid} {c : Char} (member : c ∈ id.text) : c = '-' ∨ ∃ d : Fin 16, c = hexChar d := by
  simp only [text, List.mem_append, List.mem_cons] at member
  rcases member with digit | dash | digit | dash | digit | dash | digit | dash | digit
  · exact .inr (mem_hexChars digit)
  · exact .inl dash
  · exact .inr (mem_hexChars digit)
  · exact .inl dash
  · exact .inr (mem_hexChars digit)
  · exact .inl dash
  · exact .inr (mem_hexChars digit)
  · exact .inl dash
  · exact .inr (mem_hexChars digit)

theorem filter_hexChars (nibbles : List (Fin 16)) : (hexChars nibbles).filter (· != '-') = hexChars nibbles := by
  refine List.filter_eq_self.mpr fun c member => ?_
  obtain ⟨d, rfl⟩ := mem_hexChars member
  exact bne_iff_ne.mpr (hexChar_plain d).2.2

theorem digitsOf_text (id : Uuid) : digitsOf id.text = hexChars id.nibbles := by
  have solid : ∀ c ∈ id.text, isBrace c = false := by
    intro c member
    rcases mem_text member with rfl | ⟨d, rfl⟩
    · decide
    · exact (hexChar_plain d).2.1
  have free : 'u' ∉ id.text := by
    intro member
    rcases mem_text member with dash | ⟨d, digit⟩
    · exact absurd dash (by decide)
    · exact (hexChar_plain d).1 digit.symm
  have front : id.text.dropWhile isBrace = id.text := by
    refine List.dropWhile_eq_self_iff.mpr fun nonempty => ?_
    rw [solid _ (List.getElem_mem nonempty)]
    exact Bool.false_ne_true
  have back : id.text.rdropWhile isBrace = id.text := by
    refine List.rdropWhile_eq_self_iff.mpr fun nonempty => ?_
    rw [solid _ (List.getLast_mem nonempty)]
    exact Bool.false_ne_true
  have parts : id.nibbles = id.nibbles.take 8 ++ ((id.nibbles.drop 8).take 4 ++ ((id.nibbles.drop 12).take 4 ++
      ((id.nibbles.drop 16).take 4 ++ id.nibbles.drop 20))) := by
    have step : ∀ (count more : Nat), id.nibbles.drop count = (id.nibbles.drop count).take more ++ id.nibbles.drop (count + more) := by
      intro count more
      rw [← List.drop_drop, List.take_append_drop]
    rw [← step 16 4, ← step 12 4, ← step 8 4, List.take_append_drop]
  have urn : "urn:".toList = 'u' :: "rn:".toList := rfl
  have uuid : "uuid:".toList = 'u' :: "uid:".toList := rfl
  rw [digitsOf, urn, without_of_not_mem free, uuid, without_of_not_mem free, front, back]
  conv_rhs => rw [parts]
  have dash : ∀ rest : List Char, ('-' :: rest).filter (· != '-') = rest.filter (· != '-') := fun _ => rfl
  rw [text, List.filter_append, dash, List.filter_append, dash, List.filter_append, dash, List.filter_append, dash]
  simp only [filter_hexChars]
  simp only [hexChars, List.map_append]

/-- A UUID reads back from its text. -/
theorem parse_text (otherDigits : List Char → Option Uuid) (id : Uuid) : parse otherDigits id.text = some id := by
  have digits : (hexChars id.nibbles).mapM nibble? = some id.nibbles := by
    induction id.nibbles with
    | nil => rfl
    | cons d rest ih =>
      rw [hexChars] at ih ⊢
      rw [List.map_cons, List.mapM_cons, nibble?_hexChar, ih]
      rfl
  have length : (hexChars id.nibbles).length = 32 := by rw [hexChars, List.length_map, id.length]
  have found : ofNibbles? id.nibbles = some id := dif_pos id.length
  rw [parse, digitsOf_text, if_neg (not_not.mpr length), digits]
  exact found

theorem text_injective : Function.Injective text := by
  intro one other same
  have read := parse_text (fun _ => none) one
  rw [same, parse_text] at read
  exact (Option.some.inj read).symm

end Uuid

end Payables.Lib
