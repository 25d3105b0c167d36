import Payables.Lib.Claiming
import Payables.Lib.Datetime
import Payables.Payments.Model
import Payables.Workflow.Reporting

namespace Payables.Banking
open Lib

inductive Direction
  | debit
  | credit
  deriving DecidableEq

inductive MatchMethod
  | providerId
  | amountDate
  | fuzzyVendor
  | manual
  | amountMismatch
  | currencyMismatch
  | statusConflict
  deriving DecidableEq

/-- The stored spelling. -/
def MatchMethod.value : MatchMethod → String
  | providerId => "provider_id"
  | amountDate => "amount_date"
  | fuzzyVendor => "fuzzy_vendor"
  | manual => "manual"
  | amountMismatch => "amount_mismatch"
  | currencyMismatch => "currency_mismatch"
  | statusConflict => "status_conflict"

/-- `UNRECONCILED_MATCH_METHODS`. -/
def unreconciledMatchMethods : List MatchMethod := [.amountMismatch, .currencyMismatch, .statusConflict]

/-- `_ParsedRow`, a row of an uploaded statement. -/
structure ParsedRow where
  transactionDate : CalendarDate
  amount : ℚ
  direction : Direction
  counterpartyName : Option String
  reference : Option String
  deriving DecidableEq

structure BankTransaction where
  transactionDate : CalendarDate
  amount : ℚ
  currency : String
  direction : Direction
  counterpartyName : Option String
  reference : Option String
  matchedPaymentId : Option PaymentId
  matchMethod : Option MatchMethod
  matchConfidence : Option ℚ
  matchedAt : Option Time
  deriving DecidableEq

/-- The transaction that `parse_csv_statement` makes of a row. -/
def ParsedRow.transaction (row : ParsedRow) (currency : String) : BankTransaction where
  transactionDate := row.transactionDate
  amount := row.amount
  currency := currency
  direction := row.direction
  counterpartyName := row.counterpartyName
  reference := row.reference
  matchedPaymentId := none
  matchMethod := none
  matchConfidence := none
  matchedAt := none

/-- The columns of a payment that the matcher reads. Of its timestamps it reads the date. -/
structure Payment where
  id : PaymentId
  invoiceId : InvoiceId
  amount : ℚ
  sourceAmount : Option ℚ
  sourceCurrency : Option String
  status : PaymentStatus
  providerPaymentId : Option String
  reference : Option String
  submittedAt : Option CalendarDate
  completedAt : Option CalendarDate
  createdAt : Option CalendarDate
  deriving DecidableEq

structure Invoice where
  id : InvoiceId
  currency : Option String
  vendorName : Option String
  deriving DecidableEq

structure Books where
  payments : List Payment
  invoices : List Invoice

/-- `EXPECTED_TO_CLEAR_STATUSES`. -/
def expectedToClearStatuses : List PaymentStatus := [.completed, .submitted, .processing]

/-- `_DEFAULT_MATCH_WINDOW_DAYS`. -/
def defaultMatchWindowDays : Nat := 5

/-- `text.strip().upper()`. -/
def currencyCode (text : String) : String := pyUpper (pyStripText text)

/-- `settlement_amount_and_currency`. -/
def settlementAmountAndCurrency (payment : Payment) (invoiceCurrency : String) : ℚ × String :=
  match payment.sourceAmount, payment.sourceCurrency.filter (· ≠ "") with
  | some amount, some currency => (amount, pyUpper currency)
  | _, _ => (payment.amount, currencyCode invoiceCurrency)

/-- `match_variance`. Positive means that the bank took more than was authorised. -/
def matchVariance (bankAmount paymentAmount : ℚ) : ℚ := roundHalfEven ((bankAmount - paymentAmount) * 100) / 100

/-- `is_amount_mismatch`. -/
def isAmountMismatch (bankAmount paymentAmount : ℚ) : Bool := 1 / 100 < |matchVariance bankAmount paymentAmount|

/-- Two currencies that are both known and differ. -/
def currenciesClash (bank payment : String) : Bool := bank ≠ "" && payment ≠ "" && bank ≠ payment

/-- `classify_discrepancy`. -/
def classifyDiscrepancy (bankAmount : ℚ) (bankCurrency : String) (paymentAmount : ℚ) (paymentCurrency : String)
    (status : PaymentStatus) : Option MatchMethod :=
  if currenciesClash (currencyCode bankCurrency) (currencyCode paymentCurrency) then some .currencyMismatch
  else if isAmountMismatch bankAmount paymentAmount then some .amountMismatch
  else if status ∉ expectedToClearStatuses then some .statusConflict
  else none

/-- `is_reconciled`. -/
def isReconciled (transaction : BankTransaction) : Bool :=
  transaction.matchedPaymentId.isSome && !transaction.matchMethod.any unreconciledMatchMethods.contains

/-- `_InvoiceFacts`. -/
structure InvoiceFacts where
  currency : String
  vendorName : Option String

/-- What `_load_invoice_facts` puts into the cache for an invoice. -/
def invoiceFacts (books : Books) (id : InvoiceId) : InvoiceFacts :=
  match books.invoices.find? (·.id = id) with
  | some invoice => ⟨currencyCode (invoice.currency.getD ""), invoice.vendorName⟩
  | none => ⟨"", none⟩

/-- What a payment settles at, in the currency of its invoice or its own. -/
def Books.settlement (books : Books) (payment : Payment) : ℚ × String :=
  settlementAmountAndCurrency payment (invoiceFacts books payment.invoiceId).currency

/-- `_settles_as`. -/
def settlesAs (books : Books) (payment : Payment) (amount : ℚ) (currency : String) : Bool :=
  let settled := books.settlement payment
  settled.1 = amount && !currenciesClash (currencyCode currency) settled.2

/-- `_payment_by_reference`. -/
def paymentByReference (books : Books) (reference : String) : Option Payment :=
  match books.payments.filter (·.providerPaymentId = some reference) with
  | [found] => some found
  | _ :: _ :: _ => none
  | [] =>
    match books.payments.filter (·.reference = some reference) with
    | [found] => some found
    | _ => none

/-- `_candidate_payments_in_window`. -/
def candidatePaymentsInWindow (books : Books) (amount : ℚ) (transactionDate : CalendarDate) (windowDays : Nat) : List Payment :=
  books.payments.filter fun payment =>
    (payment.amount = amount ∨ payment.sourceAmount = some amount) ∧ payment.status ∈ expectedToClearStatuses ∧
      ∃ date ∈ (payment.submittedAt.or payment.completedAt).or payment.createdAt,
        |(date.ordinal : ℤ) - transactionDate.ordinal| ≤ windowDays

/-- `text.split()`. -/
def pyWords (text : List Char) : List (List Char) := (text.splitOnP isPySpace).filter (· ≠ [])

/-- The endings that `_normalize` takes off. -/
def companySuffixes : List String :=
  [" inc", " inc.", " llc", " ltd", " ltd.", " corp", " corp.", " co", " co.", " company", " group", " plc", " gmbh", " pty",
    " pty.", " limited", " incorporated"]

def stripSuffix (name : List Char) (suffix : String) : List Char :=
  if suffix.toList.isSuffixOf name then pyStrip (name.take (name.length - suffix.length)) else name

/-- `_normalize`. -/
def normalizeVendorName (name : String) : List Char :=
  let stripped := companySuffixes.foldl stripSuffix (pyStrip (name.toList.map Char.toLower))
  [' '].intercalate (pyWords (stripped.filter fun c => c.isAlphanum || c = ' '))

/-- `_similarity`, the share of words in common. -/
def similarity (a b : List Char) : ℚ :=
  let tokensA := (pyWords a).dedup
  let tokensB := (pyWords b).dedup
  if tokensA = [] ∨ tokensB = [] then 0 else (tokensA ∩ tokensB).length / (tokensA ∪ tokensB).length

/-- The similarity of a counterparty with the vendor of a payment, where there is one. -/
def vendorSimilarity (books : Books) (counterpartyName : String) (payment : Payment) : Option ℚ :=
  match (invoiceFacts books payment.invoiceId).vendorName.filter (· ≠ "") with
  | some vendorName => some (similarity (normalizeVendorName counterpartyName) (normalizeVendorName vendorName))
  | none => none

/-- A similarity from a half up to one as a confidence from 50 up to 70. -/
def fuzzyConfidence (score : ℚ) : ℚ := roundHalfEven ((50 + (score - 1 / 2) / (1 - 1 / 2) * 20) * 100) / 100

/-- The better of the match so far and a candidate, where it resembles the counterparty at all. -/
def betterMatch (books : Books) (counterpartyName : String) (best : Option (Payment × ℚ)) (payment : Payment) :
    Option (Payment × ℚ) :=
  match vendorSimilarity books counterpartyName payment with
  | none => best
  | some score =>
    if score < 1 / 2 then best
    else if best.all fun (_, confidence) => confidence < fuzzyConfidence score then some (payment, fuzzyConfidence score)
    else best

/-- `_fuzzy_vendor_match`. -/
def fuzzyVendorMatch (books : Books) (candidates : List Payment) (counterpartyName : String) : Option (Payment × ℚ) :=
  if counterpartyName = "" ∨ normalizeVendorName counterpartyName = [] then none
  else candidates.foldl (betterMatch books counterpartyName) none

/-- `MatchAttempt`. -/
structure MatchAttempt where
  paymentId : PaymentId
  method : MatchMethod
  confidence : ℚ
  deriving DecidableEq

section Matching
variable (books : Books) (windowDays : Nat) (claimed : Finset PaymentId) (transaction : BankTransaction)

/-- The first strategy: the payment the reference names, with what it disagrees about. -/
def referenceAttempt : Option MatchAttempt :=
  match (transaction.reference.filter (· ≠ "")).bind (paymentByReference books) with
  | none => none
  | some found =>
    if found.id ∈ claimed then none
    else
      let settled := books.settlement found
      let discrepancy := classifyDiscrepancy transaction.amount transaction.currency settled.1 settled.2 found.status
      some ⟨found.id, discrepancy.getD .providerId, 100⟩

/-- The candidates of the other strategies. -/
def unclaimedCandidates : List Payment :=
  let candidates := candidatePaymentsInWindow books transaction.amount transaction.transactionDate windowDays
  (candidates.filter (·.id ∉ claimed)).filter fun payment => settlesAs books payment transaction.amount transaction.currency

/-- The second strategy, a single candidate, and the third, one of several by the name of its vendor. -/
def heuristicAttempt : Option MatchAttempt :=
  match unclaimedCandidates books windowDays claimed transaction with
  | [only] => some ⟨only.id, .amountDate, 80⟩
  | candidates =>
    (fuzzyVendorMatch books candidates (transaction.counterpartyName.getD "")).map fun found =>
      ⟨found.1.id, .fuzzyVendor, found.2⟩

/-- What one turn of the loop of `match_statement_transactions` matches a transaction with. -/
def matchAttempt : Option MatchAttempt :=
  if transaction.direction ≠ .debit then none
  else (referenceAttempt books claimed transaction).or (heuristicAttempt books windowDays claimed transaction)

end Matching

structure MatchCounts where
  matched : Nat
  unmatched : Nat
  skippedCredit : Nat
  amountMismatch : Nat
  currencyMismatch : Nat
  statusConflict : Nat
  deriving DecidableEq

/-- The bucket that a turn of the loop counts towards. -/
def MatchCounts.add (counts : MatchCounts) (transaction : BankTransaction) (attempt : Option MatchAttempt) : MatchCounts :=
  if transaction.direction ≠ .debit then { counts with skippedCredit := counts.skippedCredit + 1 }
  else
    match attempt with
    | none => { counts with unmatched := counts.unmatched + 1 }
    | some attempt =>
      match attempt.method with
      | .amountMismatch => { counts with amountMismatch := counts.amountMismatch + 1 }
      | .currencyMismatch => { counts with currencyMismatch := counts.currencyMismatch + 1 }
      | .statusConflict => { counts with statusConflict := counts.statusConflict + 1 }
      | _ => { counts with matched := counts.matched + 1 }

/-- The writes of a turn of the loop. -/
def BankTransaction.link (transaction : BankTransaction) (now : Time) : Option MatchAttempt → BankTransaction
  | none => transaction
  | some attempt =>
    { transaction with
      matchedPaymentId := some attempt.paymentId
      matchMethod := some attempt.method
      matchConfidence := some attempt.confidence
      matchedAt := some now }

section Attempts

variable {books : Books} {windowDays : Nat} {claimed : Finset PaymentId} {transaction : BankTransaction} {payment : Payment}
  {reference : String} {attempt : MatchAttempt} {counterpartyName : String} {candidates : List Payment} {confidence : ℚ}

/-- A reference that names one payment only: by the id of its provider or, where nothing has that id, by its own. -/
def Identifies (books : Books) (reference : String) (payment : Payment) : Prop :=
  books.payments.filter (·.providerPaymentId = some reference) = [payment] ∨
    books.payments.filter (·.providerPaymentId = some reference) = [] ∧
      books.payments.filter (·.reference = some reference) = [payment]

theorem paymentByReference_iff : paymentByReference books reference = some payment ↔ Identifies books reference payment := by
  rw [paymentByReference, Identifies]
  generalize books.payments.filter (·.providerPaymentId = some reference) = byProvider
  generalize books.payments.filter (·.reference = some reference) = byReference
  rcases byProvider with _ | ⟨first, _ | ⟨second, rest⟩⟩
  · rcases byReference with _ | ⟨first, _ | ⟨second, rest⟩⟩ <;> simp
  · simp
  · simp

theorem classifyDiscrepancy_mem {bankAmount paymentAmount : ℚ} {bankCurrency paymentCurrency : String} {status : PaymentStatus}
    {discrepancy : MatchMethod}
    (classified : classifyDiscrepancy bankAmount bankCurrency paymentAmount paymentCurrency status = some discrepancy) :
    discrepancy ∈ unreconciledMatchMethods := by
  rw [classifyDiscrepancy] at classified
  split_ifs at classified <;> cases classified <;> decide

theorem mem_unclaimedCandidates (listed : payment ∈ unclaimedCandidates books windowDays claimed transaction) :
    payment ∈ books.payments ∧ payment.status ∈ expectedToClearStatuses ∧ payment.id ∉ claimed ∧
      settlesAs books payment transaction.amount transaction.currency := by
  rw [unclaimedCandidates, List.mem_filter, List.mem_filter, candidatePaymentsInWindow, List.mem_filter] at listed
  obtain ⟨⟨⟨row, dispatched⟩, unclaimed⟩, settles⟩ := listed
  exact ⟨row, (of_decide_eq_true dispatched).2.1, of_decide_eq_true unclaimed, settles⟩

theorem similarity_nil (name : List Char) : similarity [] name = 0 := by
  rw [similarity]
  exact if_pos (.inl (by decide))

/-- A candidate is found, of those that resemble the counterparty, where there is one. -/
theorem betterMatch_spec (books : Books) (counterpartyName : String) (best : Option (Payment × ℚ)) (payment : Payment) :
    (∀ found ∈ betterMatch books counterpartyName best payment, found ∈ best ∨ found.1 = payment) ∧
      (betterMatch books counterpartyName best payment = none ↔
        best = none ∧ ∀ score ∈ vendorSimilarity books counterpartyName payment, score < 1 / 2) := by
  rw [betterMatch]
  cases vendorSimilarity books counterpartyName payment with
  | none => exact ⟨fun found isFound => .inl isFound, by simp⟩
  | some score =>
    simp only [Option.mem_some_iff, forall_eq']
    by_cases unlike : score < 1 / 2
    · rw [if_pos unlike]
      exact ⟨fun found isFound => .inl isFound, (and_iff_left unlike).symm⟩
    · rw [if_neg unlike]
      cases best with
      | none =>
        rw [Option.all_none, if_pos rfl]
        exact ⟨fun found isFound => .inr (by cases isFound; rfl), by simp [unlike, -one_div]⟩
      | some former =>
        split
        · exact ⟨fun found isFound => .inr (by cases isFound; rfl), by simp⟩
        · exact ⟨fun found isFound => .inl isFound, by simp⟩

theorem fuzzyFold_spec (books : Books) (counterpartyName : String) (candidates : List Payment) (best : Option (Payment × ℚ)) :
    (∀ found ∈ candidates.foldl (betterMatch books counterpartyName) best, found ∈ best ∨ found.1 ∈ candidates) ∧
      (candidates.foldl (betterMatch books counterpartyName) best = none ↔ best = none ∧
        ∀ payment ∈ candidates, ∀ score ∈ vendorSimilarity books counterpartyName payment, score < 1 / 2) := by
  induction candidates generalizing best with
  | nil => simp
  | cons payment candidates ih =>
    obtain ⟨members, unmatched⟩ := ih (betterMatch books counterpartyName best payment)
    obtain ⟨found_or, none_iff⟩ := betterMatch_spec books counterpartyName best payment
    rw [List.foldl_cons, unmatched, none_iff, List.forall_mem_cons, and_assoc]
    refine ⟨fun found isFound => ?_, Iff.rfl⟩
    rcases members found isFound with earlier | listed
    · rcases found_or found earlier with before | rfl
      · exact .inl before
      · exact .inr List.mem_cons_self
    · exact .inr (List.mem_cons_of_mem payment listed)

theorem fuzzyVendorMatch_spec (books : Books) (candidates : List Payment) (counterpartyName : String) : (∀ found ∈ fuzzyVendorMatch books candidates counterpartyName, found.1 ∈ candidates) ∧
    (fuzzyVendorMatch books candidates counterpartyName = none ↔
      ∀ payment ∈ candidates, ∀ score ∈ vendorSimilarity books counterpartyName payment, score < 1 / 2) := by
  rw [fuzzyVendorMatch]
  by_cases nameless : counterpartyName = "" ∨ normalizeVendorName counterpartyName = []
  · have empty : normalizeVendorName counterpartyName = [] := by
      rcases nameless with rfl | empty
      · have fixed : ∀ suffix : String, stripSuffix [] suffix = [] := by
          intro suffix
          rw [stripSuffix, List.take_nil]
          split <;> rfl
        rw [normalizeVendorName, String.toList_empty, List.map_nil, show pyStrip [] = [] from rfl, List.foldl_fixed' fixed]
        rfl
      · exact empty
    rw [if_pos nameless]
    refine ⟨by simp, iff_of_true rfl fun payment _ score scored => ?_⟩
    rw [vendorSimilarity, empty] at scored
    split at scored
    · rw [similarity_nil, Option.mem_some_iff] at scored
      rw [← scored]
      norm_num
    · cases scored
  · obtain ⟨members, unmatched⟩ := fuzzyFold_spec books counterpartyName candidates none
    rw [if_neg nameless, unmatched]
    refine ⟨fun found isFound => ?_, by simp⟩
    rcases members found isFound with before | listed
    · cases before
    · exact listed

theorem referenceAttempt_spec (attempted : referenceAttempt books claimed transaction = some attempt) :
    attempt.paymentId ∉ claimed ∧ (attempt.method = .providerId ∨ attempt.method ∈ unreconciledMatchMethods) ∧
      ∃ found, (transaction.reference.filter (· ≠ "")).bind (paymentByReference books) = some found ∧
        attempt.paymentId = found.id := by
  rw [referenceAttempt] at attempted
  split at attempted
  · cases attempted
  · next found named =>
    split at attempted
    · cases attempted
    · next unclaimed =>
      rw [Option.some.injEq] at attempted
      rw [← attempted]
      refine ⟨unclaimed, ?_, found, named, rfl⟩
      cases classified : classifyDiscrepancy transaction.amount transaction.currency (books.settlement found).1
        (books.settlement found).2 found.status with
      | none => exact .inl (by rw [Option.getD_none])
      | some discrepancy => exact .inr (by rw [Option.getD_some]; exact classifyDiscrepancy_mem classified)

theorem heuristicAttempt_spec (attempted : heuristicAttempt books windowDays claimed transaction = some attempt) :
    (attempt.method = .amountDate ∨ attempt.method = .fuzzyVendor) ∧
      ∃ payment ∈ unclaimedCandidates books windowDays claimed transaction, attempt.paymentId = payment.id := by
  rw [heuristicAttempt] at attempted
  split at attempted
  · next only single =>
    cases attempted
    exact ⟨.inl rfl, only, by rw [single]; exact List.mem_singleton_self only, rfl⟩
  · obtain ⟨found, isFound, same⟩ := Option.map_eq_some_iff.mp attempted
    have listed := (fuzzyVendorMatch_spec _ _ _).1 found isFound
    rw [← same]
    exact ⟨.inr rfl, found.1, listed, rfl⟩

/-- Nothing that settles as a transaction can be told from chance: it is not a single candidate, and none of several has a
vendor like the counterparty. -/
def NoCoincidence (books : Books) (windowDays : Nat) (claimed : Finset PaymentId) (transaction : BankTransaction) : Prop :=
  (unclaimedCandidates books windowDays claimed transaction).length ≠ 1 ∧
    ∀ payment ∈ unclaimedCandidates books windowDays claimed transaction,
      ∀ score ∈ vendorSimilarity books (transaction.counterpartyName.getD "") payment, score < 1 / 2

theorem heuristicAttempt_none_iff : heuristicAttempt books windowDays claimed transaction = none ↔
    NoCoincidence books windowDays claimed transaction := by
  rw [heuristicAttempt, NoCoincidence]
  split
  · next only single => simp [single]
  · next several =>
    have notOne : (unclaimedCandidates books windowDays claimed transaction).length ≠ 1 := by
      intro one
      obtain ⟨only, single⟩ := List.length_eq_one_iff.mp one
      exact several only single
    rw [Option.map_eq_none_iff, (fuzzyVendorMatch_spec _ _ _).2]
    exact (and_iff_right notOne).symm

theorem matchAttempt_fresh (attempted : matchAttempt books windowDays claimed transaction = some attempt) :
    attempt.paymentId ∉ claimed := by
  rw [matchAttempt] at attempted
  split at attempted
  · cases attempted
  · rcases Option.or_eq_some_iff.mp attempted with byReference | ⟨-, byChance⟩
    · exact (referenceAttempt_spec byReference).1
    · obtain ⟨-, payment, listed, same⟩ := heuristicAttempt_spec byChance
      rw [same]
      exact (mem_unclaimedCandidates listed).2.2.1

end Attempts

/-- The loop of `match_statement_transactions`. -/
def matching (books : Books) (windowDays : Nat) : Claimant BankTransaction MatchAttempt PaymentId where
  choose := matchAttempt books windowDays
  key := MatchAttempt.paymentId
  fresh := matchAttempt_fresh

/-- `match_statement_transactions`. `claimed` are the payments that transactions of earlier statements are matched with. -/
def matchStatementTransactions (books : Books) (windowDays : Nat) (now : Time) (claimed : Finset PaymentId)
    (transactions : List BankTransaction) : List BankTransaction × MatchCounts :=
  let turns := (matching books windowDays).pass claimed transactions
  (turns.map fun (transaction, attempt) => transaction.link now attempt,
    turns.foldl (fun counts (transaction, attempt) => counts.add transaction attempt) ⟨0, 0, 0, 0, 0, 0⟩)

end Payables.Banking
