import Payables.Basic
import Payables.Lib.Numerals
import Payables.Lib.Records
import Payables.Workflow.Reporting

namespace Payables
open Lib

/-- One issued cheque. -/
structure CheckIssueItem where
  checkNumber : String
  payee : String
  amount : Decimal
  issueDate : CalendarDate
  accountNumber : String

/-- One authorised debit of a vendor. -/
structure AchAuthorizationItem where
  vendorName : String
  routingNumber : String
  accountNumber : String
  status : String

/-- What rendering raises: `PositivePayFieldOverflow` with the column, or an error of `Decimal` itself. -/
inductive RenderError
  | overflow (field : String) (width : Nat)
  | notRenderable
  deriving DecidableEq

/-- The text of `PositivePayFieldOverflow`. -/
def RenderError.message : RenderError → Option String
  | overflow field width => some (field ++ " does not fit its " ++ toString width ++
      "-character column; refusing to emit a truncated Positive Pay record")
  | notRenderable => none

/-- `_ltext`. -/
def ltext (value : String) (width : Nat) : List Char := leftJustify ' ' width (value.toList.take width)

/-- `_lid`. -/
def lid (value : String) (width : Nat) (field : String) : Except RenderError (List Char) :=
  if width < value.toList.length then .error (.overflow field width) else .ok (leftJustify ' ' width value.toList)

/-- `amount.quantize(Decimal("0.01")) * 100`. -/
def amountInCents (value : ℚ) : ℤ := roundHalfEven (value * 100)

/-- `_amount_cents`. `quantize` raises where the result has more than 28 digits. -/
def amountCents (amount : Decimal) (width : Nat) (field : String) : Except RenderError (List Char) :=
  match amount with
  | .finite value =>
    let rendered := Nat.toDigits 10 (amountInCents value).natAbs
    if 28 < rendered.length then .error .notRenderable
    else if width < rendered.length then .error (.overflow field width)
    else .ok (rightJustify '0' width rendered)
  | _ => .error .notRenderable

def checkIssueLine (item : CheckIssueItem) : Except RenderError (List Char) := do
  let checkNumber ← lid item.checkNumber 10 "check_number"
  let amount ← amountCents item.amount 14 "amount"
  let accountNumber ← lid item.accountNumber 17 "account_number"
  return [checkNumber, ltext item.payee 40, amount, leftJustify ' ' 8 ((basicDate item.issueDate).take 8), accountNumber].flatten

def achAuthorizationLine (item : AchAuthorizationItem) : Except RenderError (List Char) := do
  let routingNumber ← lid item.routingNumber 9 "routing_number"
  let accountNumber ← lid item.accountNumber 17 "account_number"
  return [ltext item.vendorName 40, routingNumber, accountNumber, ltext item.status 14].flatten

/-- `"\r\n".join(lines) + ("\r\n" if lines else "")`. -/
def joinLines (lines : List (List Char)) : List Char :=
  ['\r', '\n'].intercalate lines ++ if lines = [] then [] else ['\r', '\n']

/-- `format_check_issue` of the fixed-width layout. -/
def formatCheckIssue (items : List CheckIssueItem) : Except RenderError (List Char) :=
  (items.mapM checkIssueLine).map joinLines

/-- `format_ach_authorization` of the fixed-width layout. -/
def formatAchAuthorization (items : List AchAuthorizationItem) : Except RenderError (List Char) :=
  (items.mapM achAuthorizationLine).map joinLines

/-- The records that a bank finds in a file. -/
def fileRecords (file : List Char) : List (List Char) := (cutAtPairs '\r' '\n' file).dropLast

/-- A column without its padding. -/
def unpadded (column : List Char) : List Char := column.rdropWhile (· == ' ')

/-- What the columns of a check-issue record say. -/
structure DecodedCheck where
  checkNumber : List Char
  payee : List Char
  cents : Nat
  issueDate : CalendarDate
  accountNumber : List Char
  deriving DecidableEq

def checkIssueWidths : List Nat := [10, 40, 14, 8, 17]

def decodeCheck (record : List Char) : Option DecodedCheck :=
  match cutColumns checkIssueWidths record with
  | [checkNumber, payee, amount, issueDate, accountNumber] => do
    let cents ← digitRun? amount
    let issued ← basicDate? issueDate
    return ⟨unpadded checkNumber, unpadded payee, cents, issued, unpadded accountNumber⟩
  | _ => none

end Payables
