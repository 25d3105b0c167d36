import Payables.Banking.Matching

namespace Payables.Banking
open Lib

/-- The bucket of the counts that a transaction belongs to, as it reads after the matching. -/
inductive Bucket
  | matched
  | unmatched
  | skippedCredit
  | amountMismatch
  | currencyMismatch
  | statusConflict
  deriving DecidableEq

def MatchCounts.of (counts : MatchCounts) : Bucket → Nat
  | .matched => counts.matched
  | .unmatched => counts.unmatched
  | .skippedCredit => counts.skippedCredit
  | .amountMismatch => counts.amountMismatch
  | .currencyMismatch => counts.currencyMismatch
  | .statusConflict => counts.statusConflict

def MatchCounts.total (counts : MatchCounts) : Nat :=
  counts.matched + counts.unmatched + counts.skippedCredit + counts.amountMismatch + counts.currencyMismatch +
    counts.statusConflict

def bucket (transaction : BankTransaction) : Bucket :=
  if transaction.direction ≠ .debit then .skippedCredit
  else if transaction.matchedPaymentId = none then .unmatched
  else
    match transaction.matchMethod with
    | some .amountMismatch => .amountMismatch
    | some .currencyMismatch => .currencyMismatch
    | some .statusConflict => .statusConflict
    | _ => .matched

/-- The payments that transactions are matched with. -/
def links (transactions : List BankTransaction) : List PaymentId := transactions.filterMap (·.matchedPaymentId)

/-- What the matching may make of a transaction. -/
structure Kept (books : Books) (before after : BankTransaction) : Prop where
  credit : before.direction ≠ .debit → after = before
  identity : { after with
    matchedPaymentId := before.matchedPaymentId
    matchMethod := before.matchMethod
    matchConfidence := before.matchConfidence
    matchedAt := before.matchedAt } = before
  heuristic : after.matchMethod = some .amountDate ∨ after.matchMethod = some .fuzzyVendor →
    ∃ payment ∈ books.payments, after.matchedPaymentId = some payment.id ∧ payment.status ∈ expectedToClearStatuses ∧
      (books.settlement payment).1 = after.amount ∧
      ¬currenciesClash (currencyCode after.currency) (books.settlement payment).2
  discrepancy : (∃ method ∈ after.matchMethod, method ∈ unreconciledMatchMethods) → ¬isReconciled after

/-- The matcher claims a payment once, and says what it did. -/
structure MatchedOnce (books : Books) (claimed : Finset PaymentId) (transactions : List BankTransaction)
    (result : List BankTransaction × MatchCounts) : Prop where
  once : (links result.1).Nodup
  unclaimed : ∀ payment ∈ links result.1, payment ∉ claimed
  counted : ∀ kind, result.2.of kind = result.1.countP fun transaction => bucket transaction = kind
  partitioned : result.2.total = transactions.length
  reconciled : result.2.matched = result.1.countP isReconciled
  kept : List.Forall₂ (Kept books) transactions result.1

/-- A transaction that nothing is matched with. -/
def Blank (transaction : BankTransaction) : Prop := transaction.matchedPaymentId = none ∧ transaction.matchMethod = none

theorem ParsedRow.transaction_blank (row : ParsedRow) (currency : String) : Blank (row.transaction currency) := ⟨rfl, rfl⟩

section Turns

variable {books : Books} {windowDays : Nat} {now : Time} {claimed : Finset PaymentId} {transaction : BankTransaction}
  {attempt : Option MatchAttempt} {transactions : List BankTransaction}

theorem link_direction : (transaction.link now attempt).direction = transaction.direction := by
  cases attempt <;> rfl

theorem link_matchedPaymentId (blank : Blank transaction) :
    (transaction.link now attempt).matchedPaymentId = attempt.map (·.paymentId) := by
  cases attempt with
  | none => exact blank.1
  | some attempt => rfl

theorem link_matchMethod (blank : Blank transaction) :
    (transaction.link now attempt).matchMethod = attempt.map (·.method) := by
  cases attempt with
  | none => exact blank.2
  | some attempt => rfl

theorem add_of (now : Time) (counts : MatchCounts) (blank : Blank transaction) (kind : Bucket) :
    (counts.add transaction attempt).of kind =
      counts.of kind + if bucket (transaction.link now attempt) = kind then 1 else 0 := by
  rw [bucket, link_direction, link_matchedPaymentId blank, link_matchMethod blank]
  unfold MatchCounts.add
  by_cases credit : transaction.direction ≠ .debit
  · rw [if_pos credit, if_pos credit]
    cases kind <;> rfl
  · rw [if_neg credit, if_neg credit]
    cases attempt with
    | none => cases kind <;> rfl
    | some attempt =>
      simp only [Option.map_some, reduceCtorEq, if_false]
      cases attempt.method <;> cases kind <;> rfl

theorem foldl_add_of (now : Time) (turns : List (BankTransaction × Option MatchAttempt)) (counts : MatchCounts)
    (blank : ∀ turn ∈ turns, Blank turn.1) (kind : Bucket) :
    (turns.foldl (fun counts (transaction, attempt) => counts.add transaction attempt) counts).of kind =
      counts.of kind +
        (turns.map fun (transaction, attempt) => transaction.link now attempt).countP fun after => bucket after = kind := by
  induction turns generalizing counts with
  | nil => rfl
  | cons turn turns ih =>
    obtain ⟨first, others⟩ := List.forall_mem_cons.mp blank
    rw [List.foldl_cons, ih _ others, add_of now counts first kind, List.map_cons, List.countP_cons]
    simp only [decide_eq_true_eq]
    omega

/-- Only what is counted as matched is reconciled. -/
theorem isReconciled_link_iff (blank : Blank transaction) (credit : transaction.direction ≠ .debit → attempt = none) :
    isReconciled (transaction.link now attempt) ↔ bucket (transaction.link now attempt) = .matched := by
  rw [isReconciled, bucket, link_direction, link_matchedPaymentId blank, link_matchMethod blank]
  by_cases debit : transaction.direction = .debit
  · cases attempt with
    | none => simp [debit]
    | some attempt =>
      rcases attempt with ⟨payment, method, confidence⟩
      cases method <;> simp [debit, unreconciledMatchMethods]
  · rw [credit debit]
    simp [debit]

theorem matchAttempt_credit (credit : transaction.direction ≠ .debit) :
    matchAttempt books windowDays claimed transaction = none := by
  rw [matchAttempt, if_pos credit]

theorem kept_link (blank : Blank transaction) (attempted : attempt = matchAttempt books windowDays claimed transaction) :
    Kept books transaction (transaction.link now attempt) := by
  refine ⟨?_, ?_, ?_, ?_⟩
  · intro credit
    rw [attempted, matchAttempt_credit credit]
    rfl
  · cases attempt <;> rfl
  · intro method
    rw [link_matchMethod blank] at method
    cases attempt with
    | none => simp at method
    | some attempt =>
      simp only [Option.map_some, Option.some.injEq] at method
      rw [matchAttempt] at attempted
      split at attempted
      · cases attempted
      · rcases Option.or_eq_some_iff.mp attempted.symm with byReference | ⟨-, byChance⟩
        · rcases (referenceAttempt_spec byReference).2.1 with provider | flagged
          · rw [provider] at method
            simp at method
          · rcases method with amountDate | fuzzy
            · rw [amountDate] at flagged
              exact absurd flagged (by decide)
            · rw [fuzzy] at flagged
              exact absurd flagged (by decide)
        · obtain ⟨-, payment, listed, same⟩ := heuristicAttempt_spec byChance
          obtain ⟨row, dispatched, -, settles⟩ := mem_unclaimedCandidates listed
          rw [settlesAs, Bool.and_eq_true, decide_eq_true_eq, Bool.not_eq_true'] at settles
          refine ⟨payment, row, congrArg some same, dispatched, settles.1, ?_⟩
          rw [Bool.not_eq_true]
          exact settles.2
  · rintro ⟨method, named, flagged⟩ reconciled
    rw [isReconciled, Bool.and_eq_true, Bool.not_eq_true', Option.mem_def.mp named, Option.any_some] at reconciled
    rw [List.contains_iff_mem.mpr flagged] at reconciled
    exact absurd reconciled.2 (by decide)

theorem mem_turns {turn : BankTransaction × Option MatchAttempt}
    (listed : turn ∈ (matching books windowDays).pass claimed transactions) :
    turn.1 ∈ transactions ∧ ∃ taken, turn.2 = matchAttempt books windowDays taken turn.1 := by
  obtain ⟨before, after, rfl, chosen⟩ := Claimant.mem_pass_iff.mp listed
  exact ⟨by simp, _, chosen⟩

/-- What holds of each transaction and what the matching makes of it holds of each turn. -/
theorem forall₂_matched_iff {relation : BankTransaction → BankTransaction → Prop} :
    List.Forall₂ relation transactions (matchStatementTransactions books windowDays now claimed transactions).1 ↔
      ∀ turn ∈ (matching books windowDays).pass claimed transactions, relation turn.1 (turn.1.link now turn.2) := by
  have same : List.Forall₂ (fun before turn => relation before (turn.1.link now turn.2))
      (((matching books windowDays).pass claimed transactions).map Prod.fst)
      ((matching books windowDays).pass claimed transactions) ↔
      ∀ turn ∈ (matching books windowDays).pass claimed transactions, relation turn.1 (turn.1.link now turn.2) := by
    rw [List.forall₂_map_left_iff, List.forall₂_same]
  rw [Claimant.pass_map_fst] at same
  rw [← same]
  exact List.forall₂_map_right_iff

theorem links_matched (blank : ∀ transaction ∈ transactions, Blank transaction) :
    links (matchStatementTransactions books windowDays now claimed transactions).1 =
      (matching books windowDays).keys claimed transactions := by
  rw [links, matchStatementTransactions, Claimant.keys, List.filterMap_map]
  refine List.filterMap_congr fun turn listed => ?_
  exact link_matchedPaymentId (blank turn.1 (mem_turns listed).1)

theorem total_eq (counts : MatchCounts) : counts.total =
    counts.of .matched + counts.of .unmatched + counts.of .skippedCredit + counts.of .amountMismatch +
      counts.of .currencyMismatch + counts.of .statusConflict := rfl

theorem buckets_partition : transactions.length =
    transactions.countP (bucket · = .matched) + transactions.countP (bucket · = .unmatched) +
      transactions.countP (bucket · = .skippedCredit) + transactions.countP (bucket · = .amountMismatch) +
      transactions.countP (bucket · = .currencyMismatch) + transactions.countP (bucket · = .statusConflict) := by
  induction transactions with
  | nil => rfl
  | cons transaction transactions ih =>
    simp only [List.countP_cons, List.length_cons, ih]
    cases bucket transaction <;> simp <;> omega

end Turns

/-- Matching the rows of a statement claims each payment once, over it and the statements before. -/
theorem statement_matched_once (books : Books) (windowDays : Nat) (now : Time) (claimed : Finset PaymentId)
    (rows : List ParsedRow) (currency : String) :
    MatchedOnce books claimed (rows.map (·.transaction currency))
      (matchStatementTransactions books windowDays now claimed (rows.map (·.transaction currency))) := by
  generalize imported : rows.map (·.transaction currency) = transactions
  have blank : ∀ transaction ∈ transactions, Blank transaction := by
    rw [← imported]
    intro transaction listed
    obtain ⟨row, -, rfl⟩ := List.mem_map.mp listed
    exact row.transaction_blank currency
  have turnsBlank : ∀ turn ∈ (matching books windowDays).pass claimed transactions, Blank turn.1 :=
    fun turn listed => blank turn.1 (mem_turns listed).1
  have counted : ∀ kind, (matchStatementTransactions books windowDays now claimed transactions).2.of kind =
      (matchStatementTransactions books windowDays now claimed transactions).1.countP fun after => bucket after = kind := by
    intro kind
    have folded := foldl_add_of now _ ⟨0, 0, 0, 0, 0, 0⟩ turnsBlank kind
    have zero : MatchCounts.of ⟨0, 0, 0, 0, 0, 0⟩ kind = 0 := by cases kind <;> rfl
    rw [zero, Nat.zero_add] at folded
    exact folded
  have kept : List.Forall₂ (Kept books) transactions
      (matchStatementTransactions books windowDays now claimed transactions).1 := by
    rw [forall₂_matched_iff]
    intro turn listed
    obtain ⟨-, taken, attempted⟩ := mem_turns listed
    exact kept_link (turnsBlank turn listed) attempted
  refine ⟨?_, ?_, counted, ?_, ?_, kept⟩
  · rw [links_matched blank]
    exact Claimant.keys_nodup
  · rw [links_matched blank]
    exact fun payment listed => Claimant.keys_fresh listed
  · rw [total_eq]
    simp only [counted]
    rw [← buckets_partition, ← kept.length_eq]
  · have matched := counted .matched
    rw [MatchCounts.of] at matched
    rw [matched]
    refine List.countP_congr fun after listed => ?_
    obtain ⟨turn, isTurn, rfl⟩ := List.mem_map.mp listed
    obtain ⟨-, taken, attempted⟩ := mem_turns isTurn
    rw [decide_eq_true_eq]
    exact (isReconciled_link_iff (turnsBlank turn isTurn) fun credit => attempted.trans (matchAttempt_credit credit)).symm

end Payables.Banking
