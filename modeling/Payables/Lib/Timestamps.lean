import Mathlib
import Payables.Lib.Datetime
import Payables.Lib.Numerals

namespace Payables.Lib

/-- What a clock is ahead of UTC, in microseconds. -/
structure Offset where
  micros : Int
  range : micros.natAbs < microsPerDay
  deriving DecidableEq

/-- A date and a time of a clock; a naive one has no offset. -/
structure Timestamp where
  clock : Datetime
  offset : Option Offset
  deriving DecidableEq

namespace Timestamp

/-- The microseconds up to an instant, in UTC. -/
def instant (moment : Timestamp) : Int := moment.clock.stamp - (moment.offset.map Offset.micros).getD 0

/-- The fraction of a second. -/
def fractionText (micros : Nat) : List Char := if micros % 1000000 = 0 then [] else '.' :: padded 6 (micros % 1000000)

def clockText (micros : Nat) : List Char :=
  padded 2 (micros / 3600000000) ++ ':' :: (padded 2 (micros / 60000000 % 60) ++ ':' ::
    (padded 2 (micros / 1000000 % 60) ++ fractionText micros))

/-- The seconds of an offset, where it has any. -/
def secondsText (micros : Nat) : List Char :=
  if micros % 60000000 = 0 then [] else ':' :: (padded 2 (micros / 1000000 % 60) ++ fractionText micros)

def offsetText (offset : Offset) : List Char :=
  (if offset.micros < 0 then '-' else '+') :: (padded 2 (offset.micros.natAbs / 3600000000) ++ ':' ::
    (padded 2 (offset.micros.natAbs / 60000000 % 60) ++ secondsText offset.micros.natAbs))

/-- `isoformat`. -/
def isoformat (moment : Timestamp) : List Char :=
  isoDate moment.clock.date ++ 'T' :: (clockText moment.clock.micros ++ (moment.offset.map offsetText).getD [])

/-- A number of a fixed width, and what follows it. -/
def digits? (width : Nat) (text : List Char) : Option (Nat × List Char) :=
  if width ≤ text.length then (digitRun? (text.take width)).map fun number => (number, text.drop width) else none

/-- What follows a character. -/
def after? (c : Char) (text : List Char) : Option (List Char) := if text.head? = some c then some (text.drop 1) else none

def fraction? (text : List Char) : Option (Nat × List Char) :=
  if text.head? = some '.' then digits? 6 (text.drop 1) else some (0, text)

/-- A time of day, in microseconds, and what follows it. -/
def clock? (text : List Char) : Option (Nat × List Char) := do
  let hour ← digits? 2 text
  let rest ← after? ':' hour.2
  let minute ← digits? 2 rest
  let rest ← after? ':' minute.2
  let second ← digits? 2 rest
  let fraction ← fraction? second.2
  guard (hour.1 < 24 ∧ minute.1 < 60 ∧ second.1 < 60)
  return (hour.1 * 3600000000 + minute.1 * 60000000 + second.1 * 1000000 + fraction.1, fraction.2)

/-- The seconds of an offset, if there are any, and what follows them. -/
def seconds? (text : List Char) : Option (Nat × List Char) :=
  if text.head? = some ':' then do
    let second ← digits? 2 (text.drop 1)
    let fraction ← fraction? second.2
    guard (second.1 < 60)
    return (second.1 * 1000000 + fraction.1, fraction.2)
  else some (0, text)

/-- An offset behind its sign. -/
def offset? (negative : Bool) (text : List Char) : Option Offset := do
  let hour ← digits? 2 text
  let rest ← after? ':' hour.2
  let minute ← digits? 2 rest
  let second ← seconds? minute.2
  guard (second.2 = [] ∧ minute.1 < 60)
  let micros := hour.1 * 3600000000 + minute.1 * 60000000 + second.1
  if range : (if negative then -(micros : Int) else micros).natAbs < microsPerDay then some ⟨_, range⟩ else none

/-- The end of a text: an offset, or nothing. -/
def zone? (text : List Char) : Option (Option Offset) :=
  if text = [] then some none
  else if text.head? = some '+' then (offset? false (text.drop 1)).map some
  else if text.head? = some '-' then (offset? true (text.drop 1)).map some
  else none

/-- The moment that a text as `isoformat` writes it stands for. -/
def isoMoment? (text : List Char) : Option Timestamp := do
  let date ← isoDate? (text.take 10)
  let rest ← after? 'T' (text.drop 10)
  let clock ← clock? rest
  let offset ← zone? clock.2
  if range : clock.1 < microsPerDay then some ⟨⟨date, clock.1, range⟩, offset⟩ else none

section Reading

variable {rest : List Char}

theorem digits?_padded {width n : Nat} (wide : 0 < width) (fits : n < 10 ^ width) :
    digits? width (padded width n ++ rest) = some (n, rest) := by
  have length := padded_length width n
  have long : width ≤ (padded width n ++ rest).length := by
    rw [List.length_append]
    omega
  rw [digits?, if_pos long, List.take_left' length, digitRun?_padded wide fits, List.drop_left' length, Option.map_some]

theorem after?_cons (c : Char) : after? c (c :: rest) = some rest := if_pos rfl

/-- A text with no fraction in front. -/
def Pointless (rest : List Char) : Prop := rest.head? ≠ some '.'

theorem fraction?_text (micros : Nat) (pointless : Pointless rest) :
    fraction? (fractionText micros ++ rest) = some (micros % 1000000, rest) := by
  unfold fractionText
  by_cases whole : micros % 1000000 = 0
  · rw [if_pos whole, whole, List.nil_append, fraction?, if_neg pointless]
  · have fits : micros % 1000000 < 10 ^ 6 := by omega
    rw [if_neg whole, List.cons_append, fraction?, List.head?_cons, if_pos rfl, List.drop_succ_cons, List.drop_zero,
      digits?_padded (by omega) fits]

theorem clock?_text {micros : Nat} (range : micros < microsPerDay) (pointless : Pointless rest) :
    clock? (clockText micros ++ rest) = some (micros, rest) := by
  rw [microsPerDay] at range
  have hour : micros / 3600000000 < 10 ^ 2 := by omega
  have minute : micros / 60000000 % 60 < 10 ^ 2 := by omega
  have second : micros / 1000000 % 60 < 10 ^ 2 := by omega
  have valid : micros / 3600000000 < 24 ∧ micros / 60000000 % 60 < 60 ∧ micros / 1000000 % 60 < 60 := by omega
  have whole : micros / 3600000000 * 3600000000 + micros / 60000000 % 60 * 60000000 + micros / 1000000 % 60 * 1000000 +
      micros % 1000000 = micros := by omega
  have text : clockText micros ++ rest = padded 2 (micros / 3600000000) ++ ':' :: (padded 2 (micros / 60000000 % 60) ++ ':' ::
      (padded 2 (micros / 1000000 % 60) ++ (fractionText micros ++ rest))) := by
    simp only [clockText, List.append_assoc, List.cons_append]
  rw [text, clock?]
  simp only [digits?_padded (show 0 < 2 by omega) hour, digits?_padded (show 0 < 2 by omega) minute,
    digits?_padded (show 0 < 2 by omega) second, after?_cons, fraction?_text micros pointless, Option.bind_eq_bind, Option.bind_some,
    Option.pure_def, valid, and_self, guard_true, whole]

theorem seconds?_text (micros : Nat) : seconds? (secondsText micros) = some (micros % 60000000, []) := by
  unfold secondsText
  by_cases none' : micros % 60000000 = 0
  · rw [if_pos none', none']
    rfl
  · have second : micros / 1000000 % 60 < 10 ^ 2 := by omega
    have valid : micros / 1000000 % 60 < 60 := by omega
    have whole : micros / 1000000 % 60 * 1000000 + micros % 1000000 = micros % 60000000 := by omega
    have pointless : Pointless [] := by simp [Pointless]
    have fraction := fraction?_text micros pointless
    rw [List.append_nil] at fraction
    rw [if_neg none', seconds?, List.head?_cons, if_pos rfl, List.drop_succ_cons, List.drop_zero]
    simp only [digits?_padded (show 0 < 2 by omega) second, fraction, Option.bind_eq_bind, Option.bind_some, Option.pure_def, valid,
      guard_true, whole]

theorem zone?_text (offset : Option Offset) : zone? ((offset.map offsetText).getD []) = some offset := by
  cases offset with
  | none => rfl
  | some offset =>
    obtain ⟨signed, range⟩ := offset
    have bound := range
    rw [microsPerDay] at bound
    have hour : signed.natAbs / 3600000000 < 10 ^ 2 := by omega
    have minute : signed.natAbs / 60000000 % 60 < 10 ^ 2 := by omega
    have valid : signed.natAbs / 60000000 % 60 < 60 := by omega
    have whole : signed.natAbs / 3600000000 * 3600000000 + signed.natAbs / 60000000 % 60 * 60000000 + signed.natAbs % 60000000 =
        signed.natAbs := by omega
    have read : ∀ negative : Bool, (if negative then -(signed.natAbs : Int) else signed.natAbs) = signed →
        offset? negative (padded 2 (signed.natAbs / 3600000000) ++ ':' ::
          (padded 2 (signed.natAbs / 60000000 % 60) ++ secondsText signed.natAbs)) = some ⟨signed, range⟩ := by
      intro negative same
      rw [offset?]
      simp only [digits?_padded (show 0 < 2 by omega) hour, digits?_padded (show 0 < 2 by omega) minute, after?_cons,
        seconds?_text, Option.bind_eq_bind, Option.bind_some, valid, and_self, guard_true, whole, same, Option.pure_def]
      exact dif_pos range
    by_cases negative : signed < 0
    · have same := read true (by rw [if_pos rfl]; omega)
      rw [Option.map_some, Option.getD_some, offsetText, if_pos negative, zone?, if_neg (List.cons_ne_nil _ _), List.head?_cons,
        if_neg (by decide), if_pos rfl, List.drop_succ_cons, List.drop_zero, same, Option.map_some]
    · have same := read false (by rw [if_neg Bool.false_ne_true]; omega)
      rw [Option.map_some, Option.getD_some, offsetText, if_neg negative, zone?, if_neg (List.cons_ne_nil _ _), List.head?_cons,
        if_pos rfl, List.drop_succ_cons, List.drop_zero, same, Option.map_some]

/-- Every moment reads back from its text. -/
theorem isoMoment?_isoformat (moment : Timestamp) : isoMoment? (isoformat moment) = some moment := by
  obtain ⟨⟨date, micros, range⟩, offset⟩ := moment
  have length : (isoDate date).length = 10 := by
    have year := padded_length 4 date.year
    have month := padded_length 2 date.month
    have day := padded_length 2 date.day
    simp only [isoDate, List.append_assoc, List.cons_append, List.length_append, List.length_cons]
    omega
  have pointless : Pointless ((offset.map offsetText).getD []) := by
    cases offset with
    | none => simp [Pointless]
    | some offset =>
      rw [Pointless, Option.map_some, Option.getD_some, offsetText, List.head?_cons]
      split <;> decide
  rw [isoMoment?, isoformat, List.take_left' length, List.drop_left' length, isoDate?_isoDate]
  simp only [after?_cons, clock?_text range pointless, zone?_text, Option.bind_eq_bind, Option.bind_some]
  exact dif_pos range

theorem isoformat_injective : Function.Injective isoformat := by
  intro one other same
  have read := isoMoment?_isoformat one
  rw [same, isoMoment?_isoformat] at read
  exact (Option.some.inj read).symm

end Reading

/-- An instant and an offset make one moment. -/
theorem eq_of_instant {one other : Timestamp} (instant : one.instant = other.instant) (offset : one.offset = other.offset) :
    one = other := by
  obtain ⟨clock, zone⟩ := one
  obtain ⟨clock', zone'⟩ := other
  rw [Timestamp.mk.injEq]
  have stamps : clock.stamp = clock'.stamp := by
    rw [Timestamp.instant, Timestamp.instant, offset] at instant
    simp only at instant
    omega
  exact ⟨Datetime.stamp_strictMono.injective stamps, offset⟩

end Timestamp

end Payables.Lib
