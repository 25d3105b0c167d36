import Mathlib.Data.List.DropRight

namespace Payables.Lib.Base64

/-- The character of six bits, in the alphabet for addresses. -/
def encodeSextet (n : Nat) : Char :=
  if n < 26 then Char.ofNat (65 + n)
  else if n < 52 then Char.ofNat (71 + n)
  else if n < 62 then Char.ofNat (n - 4)
  else if n = 62 then '-'
  else '_'

/-- The six bits of a character, in either alphabet. -/
def sextet? (c : Char) : Option Nat :=
  let n := c.toNat
  if 65 ≤ n ∧ n ≤ 90 then some (n - 65)
  else if 97 ≤ n ∧ n ≤ 122 then some (n - 71)
  else if 48 ≤ n ∧ n ≤ 57 then some (n + 4)
  else if c = '-' ∨ c = '+' then some 62
  else if c = '_' ∨ c = '/' then some 63
  else none

/-- The characters of some bytes, without padding. -/
def digits : List Nat → List Char
  | [] => []
  | [a] => [encodeSextet (a / 4), encodeSextet (a % 4 * 16)]
  | [a, b] => [encodeSextet (a / 4), encodeSextet (a % 4 * 16 + b / 16), encodeSextet (b % 16 * 4)]
  | a :: b :: c :: rest =>
    encodeSextet (a / 4) :: encodeSextet (a % 4 * 16 + b / 16) :: encodeSextet (b % 16 * 4 + c / 64) ::
      encodeSextet (c % 64) :: digits rest

example : digits [0] = ['A', 'A'] := by rw [digits]; rfl

/-- The padding after a number of characters. -/
def padding (length : Nat) : List Char := List.replicate ((4 - length % 4) % 4) '='

/-- `base64.urlsafe_b64encode`. -/
def encode (bytes : List Nat) : List Char := digits bytes ++ padding (digits bytes).length

/-- `binascii.a2b_base64`, which passes over every other character. The state is the position in a group of
four characters, the bits left over and the padding seen since the last digit. -/
def read : List Char → Nat → Nat → Nat → Option (List Nat)
  | [], position, _, _ => if position = 0 then some [] else none
  | c :: rest, position, left, pads =>
    if c = '=' then
      if 2 ≤ position then
        if 4 ≤ position + (pads + 1) then some [] else read rest position left (pads + 1)
      else read rest position left pads
    else
      match sextet? c with
      | none => read rest position left pads
      | some bits =>
        match position with
        | 0 => read rest 1 bits 0
        | 1 => (read rest 2 (bits % 16) 0).map ((left * 4 + bits / 16) :: ·)
        | 2 => (read rest 3 (bits % 4) 0).map ((left * 16 + bits / 4) :: ·)
        | _ => (read rest 0 0 0).map ((left * 64 + bits) :: ·)

example : read ['='] 2 5 1 = some [] := by rw [read]; rfl

/-- `base64.urlsafe_b64decode`. -/
def decode (text : List Char) : Option (List Nat) := read text 0 0 0

theorem sextet?_encodeSextet : ∀ n < 64, sextet? (encodeSextet n) = some n := by decide

theorem encodeSextet_ne_pad : ∀ n < 64, encodeSextet n ≠ '=' := by decide

theorem encodeSextet_ascii : ∀ n < 64, (encodeSextet n).toNat < 128 := by decide

section Sextets

variable {n : Nat} (small : n < 64) (rest : List Char) (left pads : Nat)

include small

theorem read_first : read (encodeSextet n :: rest) 0 left pads = read rest 1 n 0 := by
  simp only [read, if_neg (encodeSextet_ne_pad n small), sextet?_encodeSextet n small]

theorem read_second : read (encodeSextet n :: rest) 1 left pads = (read rest 2 (n % 16) 0).map ((left * 4 + n / 16) :: ·) := by
  simp only [read, if_neg (encodeSextet_ne_pad n small), sextet?_encodeSextet n small]

theorem read_third : read (encodeSextet n :: rest) 2 left pads = (read rest 3 (n % 4) 0).map ((left * 16 + n / 4) :: ·) := by
  simp only [read, if_neg (encodeSextet_ne_pad n small), sextet?_encodeSextet n small]

theorem read_fourth : read (encodeSextet n :: rest) 3 left pads = (read rest 0 0 0).map ((left * 64 + n) :: ·) := by
  simp only [read, if_neg (encodeSextet_ne_pad n small), sextet?_encodeSextet n small]

end Sextets

/-- The digits of some bytes and their padding read back. -/
theorem read_digits {bytes : List Nat} (small : ∀ byte ∈ bytes, byte < 256) :
    read (digits bytes ++ padding (digits bytes).length) 0 0 0 = some bytes := by
  induction bytes using digits.induct with
  | case1 => rfl
  | case2 a =>
    have first := small a (by simp)
    have pad : padding (digits [a]).length = ['=', '='] := rfl
    rw [pad, digits, List.cons_append, List.cons_append, List.nil_append, read_first (by omega), read_second (by omega)]
    have byte : a / 4 * 4 + a % 4 * 16 / 16 = a := by omega
    simp only [read, if_pos, Nat.le_refl, Option.map_some, byte]
    rfl
  | case3 a b =>
    have first := small a (by simp)
    have second := small b (by simp)
    have pad : padding (digits [a, b]).length = ['='] := rfl
    rw [pad, digits, List.cons_append, List.cons_append, List.cons_append, List.nil_append, read_first (by omega),
      read_second (by omega), read_third (by omega)]
    have byte : a / 4 * 4 + (a % 4 * 16 + b / 16) / 16 = a := by omega
    have next : (a % 4 * 16 + b / 16) % 16 * 16 + b % 16 * 4 / 4 = b := by omega
    simp only [read, if_pos, Option.map_some, byte, next]
    rfl
  | case4 a b c rest ih =>
    have first := small a (by simp)
    have second := small b (by simp)
    have third := small c (by simp)
    have later := ih fun byte member => small byte (by simp [member])
    have pad : padding (digits (a :: b :: c :: rest)).length = padding (digits rest).length := by
      have more : (digits rest).length + 1 + 1 + 1 + 1 = (digits rest).length + 4 := rfl
      rw [digits, List.length_cons, List.length_cons, List.length_cons, List.length_cons, more, padding,
        Nat.add_mod_right, padding]
    rw [pad, digits, List.cons_append, List.cons_append, List.cons_append, List.cons_append, read_first (by omega),
      read_second (by omega), read_third (by omega), read_fourth (by omega), later]
    have byte : a / 4 * 4 + (a % 4 * 16 + b / 16) / 16 = a := by omega
    have next : (a % 4 * 16 + b / 16) % 16 * 16 + (b % 16 * 4 + c / 64) / 4 = b := by omega
    have last : (b % 16 * 4 + c / 64) % 4 * 64 + c % 64 = c := by omega
    simp only [Option.map_some, byte, next, last]

theorem mem_digits {bytes : List Nat} (small : ∀ byte ∈ bytes, byte < 256) {c : Char} (member : c ∈ digits bytes) :
    ∃ n < 64, c = encodeSextet n := by
  induction bytes using digits.induct with
  | case1 => cases member
  | case2 a =>
    have first := small a (by simp)
    simp only [digits, List.mem_cons, List.not_mem_nil, or_false] at member
    rcases member with rfl | rfl
    · exact ⟨_, by omega, rfl⟩
    · exact ⟨_, by omega, rfl⟩
  | case3 a b =>
    have first := small a (by simp)
    have second := small b (by simp)
    simp only [digits, List.mem_cons, List.not_mem_nil, or_false] at member
    rcases member with rfl | rfl | rfl
    · exact ⟨_, by omega, rfl⟩
    · exact ⟨_, by omega, rfl⟩
    · exact ⟨_, by omega, rfl⟩
  | case4 a b d rest ih =>
    have first := small a (by simp)
    have second := small b (by simp)
    have third := small d (by simp)
    simp only [digits, List.mem_cons] at member
    rcases member with rfl | rfl | rfl | rfl | later
    · exact ⟨_, by omega, rfl⟩
    · exact ⟨_, by omega, rfl⟩
    · exact ⟨_, by omega, rfl⟩
    · exact ⟨_, by omega, rfl⟩
    · exact ih (fun byte member => small byte (by simp [member])) later

/-- Taking the padding off leaves the digits. -/
theorem rstrip_encode {bytes : List Nat} (small : ∀ byte ∈ bytes, byte < 256) :
    (encode bytes).rdropWhile (· == '=') = digits bytes := by
  have pads : ∀ count, (digits bytes ++ List.replicate count '=').rdropWhile (· == '=') = (digits bytes).rdropWhile (· == '=') := by
    intro count
    induction count with
    | zero => simp
    | succ count ih =>
      rw [List.replicate_succ', ← List.append_assoc, List.rdropWhile_concat_pos _ _ _ (by simp), ih]
  rw [encode, padding, pads, List.rdropWhile_eq_self_iff]
  intro nonempty ends
  obtain ⟨n, bound, same⟩ := mem_digits small (List.getLast_mem nonempty)
  rw [same, beq_iff_eq] at ends
  exact encodeSextet_ne_pad n bound ends

end Payables.Lib.Base64
