import Mathlib.Data.List.DropRight
import Mathlib.Data.Rat.Floor

namespace Payables

/-- A stringified UUID of a control-plane user. -/
abbrev UserId := String

/-- A UTC timestamp, in microseconds. -/
abbrev Time := Int

/-- What a call can raise: an `HTTPException`, which an endpoint turns into its status code and
the bulk endpoints catch, or any other exception, which nothing below the request catches. -/
inductive Raised
  | http (statusCode : Nat) (detail : String)
  | uncaught (kind : String)
  deriving DecidableEq

/-- The characters `str.strip` removes. -/
def isPySpace (c : Char) : Bool :=
  let n := c.toNat
  (9 ≤ n && n ≤ 13) || (28 ≤ n && n ≤ 32) || n == 0x85 || n == 0xA0 || n == 0x1680 || (0x2000 ≤ n && n ≤ 0x200A) ||
    n == 0x2028 || n == 0x2029 || n == 0x202F || n == 0x205F || n == 0x3000

/-- What holds of the characters of a text. -/
theorem of_characters (P : List Char → Prop) {text characters : List Char} (same : text = characters) (holds : P characters) :
    P text := same ▸ holds

/-- `str.strip`, on the characters of the string. -/
def pyStrip (text : List Char) : List Char := (text.dropWhile isPySpace).rdropWhile isPySpace

/-- `decimal.Decimal`, the type of every configured threshold. -/
inductive Decimal
  | finite (value : ℚ)
  | infinite (negative : Bool)
  | nan
  deriving DecidableEq

/-- A money value as it stands in a free-form configuration. -/
inductive RawMoney
  | unset
  | unparseable
  | number (value : Decimal)
  deriving DecidableEq

/-- `_to_decimal`. -/
def toDecimal : RawMoney → Option Decimal
  | .unset => none
  | .unparseable => none
  | .number value => some value

/-- `amt < bound`. An ordering comparison with `NaN` raises `InvalidOperation`. -/
def Decimal.exceeds (bound : Decimal) (amt : ℚ) : Except Raised Bool :=
  match bound with
  | .finite value => .ok (amt < value)
  | .infinite negative => .ok !negative
  | .nan => .error (.uncaught "InvalidOperation")

/-- `amt > bound`. -/
def Decimal.exceededBy (bound : Decimal) (amt : ℚ) : Except Raised Bool :=
  match bound with
  | .finite value => .ok (value < amt)
  | .infinite negative => .ok negative
  | .nan => .error (.uncaught "InvalidOperation")

/-- `_quantize_money`: two places, halves rounded away from zero. -/
def quantizeMoney (value : ℚ) : ℚ :=
  if 0 ≤ value then (⌊value * 100 + 1 / 2⌋ : ℤ) / 100 else -((⌊-value * 100 + 1 / 2⌋ : ℤ) / 100)

example : quantizeMoney (1005 / 1000) = 101 / 100 ∧ quantizeMoney (-1005 / 1000) = -101 / 100 := by decide +kernel

end Payables
