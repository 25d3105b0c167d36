import Payables.Lib.Runs
import Payables.Workflow.RollupAgreement

namespace Payables.Reporting

open Lib

/-- What the conversion of an invoice reads and writes of its row. A currency that is not given is empty. -/
structure PricedRow where
  amount : ℚ
  currency : String
  lock : ReportingLock
  lockedAt : Option Time
  deriving DecidableEq

/-- The FX provider: a rate of a pair with its time, or no answer. -/
abbrev FxAdapter := String → String → Option (ℚ × Time)

/-- The rate and the time of `convert_amount`, when it does not raise. -/
def convertAmount (adapter : FxAdapter) (now : Time) (src tgt : String) : Option (ℚ × Time) :=
  if src = tgt then some (1, now) else (adapter src tgt).filter fun quote => 0 < quote.1

/-- What `materialize_reporting_amount` leaves and returns, with the pair it took a new rate for, if it did. -/
structure Materialized where
  row : PricedRow
  changed : Bool
  quoted : Option (String × String)
  deriving DecidableEq

namespace PricedRow

/-- The pair of currencies a call converts between. -/
def pair (row : PricedRow) (reportingCurrency : String) : String × String :=
  (pyUpper (if row.currency = "" then pyUpper reportingCurrency else row.currency), pyUpper reportingCurrency)

/-- The row has been materialized in the reporting currency. -/
def isLocked (row : PricedRow) (reportingCurrency : String) : Bool :=
  row.lock.reportingAmount.isSome && row.lock.reportingCurrency.map pyUpper == some (pyUpper reportingCurrency)

/-- The rate a call reuses. -/
def reusedRate (row : PricedRow) (reportingCurrency : String) (force : Bool) : Option ℚ :=
  if !force && row.isLocked reportingCurrency then
    row.lock.currentRate (row.pair reportingCurrency).1 (row.pair reportingCurrency).2
  else none

/-- The row with its amount priced at a rate. -/
def rescale (row : PricedRow) (rate : ℚ) : PricedRow :=
  { row with lock := { row.lock with reportingAmount := some (quantizeMoney (row.amount * rate)) } }

/-- The row with a new rate. -/
def reprice (row : PricedRow) (pair : String × String) (rate : ℚ) (asOf : Time) : PricedRow :=
  { row with
    lock := ⟨some pair.2, some (quantizeMoney (row.amount * quantizeRate rate)), some (quantizeRate rate), some pair.1⟩
    lockedAt := some asOf }

end PricedRow

/-- `materialize_reporting_amount`. -/
def materializeReportingAmount (adapter : FxAdapter) (now : Time) (reportingCurrency : String) (force : Bool)
    (row : PricedRow) : Option Materialized :=
  match row.reusedRate reportingCurrency force with
  | some rate =>
    if row.lock.reportingAmount.map quantizeMoney = some (quantizeMoney (row.amount * rate)) then some ⟨row, false, none⟩
    else some ⟨row.rescale rate, true, none⟩
  | none =>
    (convertAmount adapter now (row.pair reportingCurrency).1 (row.pair reportingCurrency).2).map fun quote =>
      ⟨row.reprice (row.pair reportingCurrency) quote.1 quote.2, true, some (row.pair reportingCurrency)⟩

/-- The invoice and the organisation, with the pair that the rate on the row was taken for. -/
structure RowStore where
  row : PricedRow
  settings : OrgSettings
  quotedFor : Option (String × String)

namespace RowStore

def reportingCurrency (store : RowStore) : String := resolveReportingCurrency store.settings

/-- The pair of currencies the row has now. -/
def pair (store : RowStore) : String × String := store.row.pair store.reportingCurrency

end RowStore

inductive RowEdit
  | setAmount (amount : ℚ)
  | setCurrency (currency : String)
  | setSettings (settings : OrgSettings)
  | materialize (adapter : FxAdapter) (now : Time) (force : Bool)

/-- What a call of `materialize_reporting_amount` leaves; one that raises leaves all as it was. -/
def RowStore.materialize (store : RowStore) (adapter : FxAdapter) (now : Time) (force : Bool) : RowStore :=
  match materializeReportingAmount adapter now store.reportingCurrency force store.row with
  | some result => ⟨result.row, store.settings, result.quoted.or store.quotedFor⟩
  | none => store

def runRowEdit (store : RowStore) : RowEdit → RowStore
  | .setAmount amount => { store with row := { store.row with amount := amount } }
  | .setCurrency currency => { store with row := { store.row with currency := currency } }
  | .setSettings settings => { store with settings := settings }
  | .materialize adapter now force => store.materialize adapter now force

/-- An invoice as it is created, or one that was materialized before its row named the currency of the rate. -/
def rowMachine : Machine RowStore RowEdit where
  init store := store.row.lock.reportingSourceCurrency = none
  step := runRowEdit

/-- The conversion on the row is that of its amount and of its pair of currencies, another call leaves it alone, a call after
a correction of the amount prices the new one at the rate of the row, neither takes a new rate, and the rate of the row
expresses the amount as the row does. -/
structure Consistent (store : RowStore) : Prop where
  priced : ∃ rate, store.row.lock.reportingFxRate = some rate ∧
    store.row.lock.reportingAmount = some (quantizeMoney (store.row.amount * rate))
  ofPair : store.quotedFor = some store.pair
  settled : ∀ adapter now, materializeReportingAmount adapter now store.reportingCurrency false store.row =
    some ⟨store.row, false, none⟩
  rescaled : ∀ amount adapter now, ∃ rate changed, store.row.lock.reportingFxRate = some rate ∧
    materializeReportingAmount adapter now store.reportingCurrency false { store.row with amount := amount } =
      some ⟨PricedRow.rescale { store.row with amount := amount } rate, changed, none⟩
  expressed : ∃ reported, store.row.lock.reportingAmount = some reported ∧
    reportingAmountAtLockedRate store.row.amount store.row.currency store.reportingCurrency store.row.lock = (reported, false)

/-- The call does not meet a currency that is the reporting currency but for blanks, reuses only the rate of a row that
names its currency, and takes no new rate that eight places round to zero. -/
def Reliable (store : RowStore) : RowEdit → Prop
  | .materialize adapter now force =>
    (store.pair.1 = store.pair.2 ∨ pyUpper (pyStripText store.row.currency) ≠ store.reportingCurrency) ∧
      ((store.row.reusedRate store.reportingCurrency force).isSome → store.row.lock.reportingSourceCurrency.getD "" ≠ "") ∧
      ((store.row.reusedRate store.reportingCurrency force).isNone →
        ∀ quote ∈ convertAmount adapter now store.pair.1 store.pair.2, 5 / 10 ^ 9 < quote.1)
  | _ => True

section Codes

theorem isPySpace_toUpper (c : Char) : isPySpace c.toUpper = isPySpace c := by
  by_cases small : 'a'.val ≤ c.val ∧ c.val ≤ 'z'.val
  · have low : 97 ≤ c.toNat ∧ c.toNat ≤ 122 := small
    have raised : c.toUpper.toNat = c.toNat - 32 := by
      simp only [Char.toUpper, dif_pos small]
      grind [Char.toNat, UInt32.toNat_add]
    simp only [isPySpace, raised]
    grind
  · rw [Char.toUpper, dif_neg small]

theorem pyStrip_map_toUpper (text : List Char) : pyStrip (text.map Char.toUpper) = (pyStrip text).map Char.toUpper := by
  have same : isPySpace ∘ Char.toUpper = isPySpace := funext isPySpace_toUpper
  rw [pyStrip, pyStrip, List.dropWhile_map, same, List.rdropWhile, ← List.map_reverse, List.dropWhile_map, same,
    ← List.map_reverse]
  rfl

theorem pyStripText_pyUpper (text : String) : pyStripText (pyUpper text) = pyUpper (pyStripText text) := by
  rw [pyStripText, pyUpper, String.toList_ofList, pyStrip_map_toUpper, pyUpper, pyStripText, String.toList_ofList]

/-- The reporting currency that the settings give is in capitals, with no blank around it. -/
theorem resolveReportingCurrency_spec (settings : OrgSettings) :
    TrimmedCode (resolveReportingCurrency settings) ∧
      pyUpper (resolveReportingCurrency settings) = resolveReportingCurrency settings := by
  unfold resolveReportingCurrency
  cases chosen : (settings.currencies.filterMap id).find? (pyStripText · != "") with
  | none => decide
  | some text =>
    have shown : pyStripText text ≠ "" := by simpa using List.find?_some chosen
    refine ⟨⟨fun empty => shown (pyUpper_eq_empty.mp empty), ?_⟩, pyUpper_pyUpper _⟩
    simp only [pyStripText_pyUpper, pyStripText_pyStripText]

theorem quantizeRate_one : quantizeRate 1 = 1 := by
  have whole := roundHalfEven_intCast 100000000
  norm_num at whole
  rw [quantizeRate, one_mul, whole]
  norm_num

/-- Eight places keep a rate from zero when it is over half of the last one. -/
theorem quantizeRate_pos {rate : ℚ} (above : 5 / 10 ^ 9 < rate) : 0 < quantizeRate rate := by
  have units : 0 < roundHalfEven (rate * 100000000) := by
    by_cases small : rate * 100000000 < 1
    · have half : 1 / 2 < rate * 100000000 := by
        norm_num at above
        linarith
      have floor : ⌊rate * 100000000⌋ = 0 := Int.floor_eq_zero_iff.mpr ⟨by linarith, small⟩
      simp only [roundHalfEven, floor]
      rw [if_neg (by push_cast; linarith), if_pos (by push_cast; linarith)]
      decide
    · exact lt_of_lt_of_le Int.zero_lt_one (le_roundHalfEven (by push_cast; linarith))
  exact div_pos (by exact_mod_cast units) (by norm_num)

end Codes

namespace RowStore

variable {store : RowStore}

theorem pair_snd (store : RowStore) : store.pair.2 = store.reportingCurrency := (resolveReportingCurrency_spec store.settings).2

theorem pair_fst (store : RowStore) : store.pair.1 =
    if store.row.currency = "" then store.reportingCurrency else pyUpper store.row.currency := by
  have capital := (resolveReportingCurrency_spec store.settings).2
  unfold pair PricedRow.pair
  split
  · simp only [reportingCurrency, capital]
  · rfl

theorem pair_fst_ne_empty (store : RowStore) : store.pair.1 ≠ "" := by
  have shown := (resolveReportingCurrency_spec store.settings).1.1
  rw [pair_fst]
  split
  · exact shown
  next given => exact fun empty => given (pyUpper_eq_empty.mp empty)

theorem pyUpper_pair_fst (store : RowStore) : pyUpper store.pair.1 = store.pair.1 := pyUpper_pyUpper _

theorem pyUpper_pair_snd (store : RowStore) : pyUpper store.pair.2 = store.pair.2 := pyUpper_pyUpper _

end RowStore

/-- The conversion on the row is one of its pair of currencies, at a rate that is not zero. -/
structure Priced (store : RowStore) (locked : ℚ) : Prop where
  source : store.row.lock.reportingSourceCurrency = some store.pair.1
  code : store.row.lock.reportingCurrency = some store.pair.2
  rate : store.row.lock.reportingFxRate = some locked
  positive : 0 < locked
  amount : store.row.lock.reportingAmount = some (quantizeMoney (store.row.amount * locked))
  own : store.pair.1 = store.pair.2 → locked = 1
  quoted : store.quotedFor = some store.pair

namespace Priced

variable {store : RowStore} {locked : ℚ} (priced : Priced store locked)
include priced

/-- A call reuses the rate, whatever has become of the amount. -/
theorem reusedRate (amount : ℚ) :
    PricedRow.reusedRate { store.row with amount := amount } store.reportingCurrency false = some locked := by
  have named : PricedRow.isLocked { store.row with amount := amount } store.reportingCurrency = true := by
    have same : pyUpper store.pair.2 = pyUpper store.reportingCurrency := by rw [store.pair_snd]
    simp only [PricedRow.isLocked, priced.amount, priced.code, Option.isSome_some, Option.map_some, same, beq_self_eq_true,
      Bool.and_self]
  have matching : store.row.lock.pairMatches store.pair.1 store.pair.2 locked = true := by
    rw [ReportingLock.pairMatches, priced.source, Option.getD_some, if_neg store.pair_fst_ne_empty, store.pyUpper_pair_fst,
      beq_self_eq_true]
  rw [PricedRow.reusedRate, named, Bool.not_false, Bool.and_self, if_pos rfl, ReportingLock.currentRate]
  show store.row.lock.reportingFxRate.filter _ = some locked
  rw [priced.rate, Option.filter_some, if_pos]
  rw [decide_eq_true priced.positive, Bool.true_and]
  exact matching

theorem settled (adapter : FxAdapter) (now : Time) :
    materializeReportingAmount adapter now store.reportingCurrency false store.row = some ⟨store.row, false, none⟩ := by
  have reused : store.row.reusedRate store.reportingCurrency false = some locked := priced.reusedRate store.row.amount
  have figure := (quantizeMoney_onCents (store.row.amount * locked)).quantizeMoney_eq
  simp only [materializeReportingAmount, reused, priced.amount, Option.map_some, figure, if_true]

theorem rescaled (amount : ℚ) (adapter : FxAdapter) (now : Time) : ∃ changed,
    materializeReportingAmount adapter now store.reportingCurrency false { store.row with amount := amount } =
      some ⟨PricedRow.rescale { store.row with amount := amount } locked, changed, none⟩ := by
  have figure := (quantizeMoney_onCents (store.row.amount * locked)).quantizeMoney_eq
  rw [materializeReportingAmount, priced.reusedRate amount]
  simp only [priced.amount, Option.map_some, figure, Option.some.injEq]
  by_cases same : quantizeMoney (store.row.amount * locked) = quantizeMoney (amount * locked)
  · refine ⟨false, ?_⟩
    rw [if_pos same, PricedRow.rescale, ← same, ← priced.amount]
  · exact ⟨true, by rw [if_neg same]⟩

/-- The rate of the row expresses its amount, unless the currency is the reporting currency but for blanks. -/
theorem expressed (apart : store.pair.1 = store.pair.2 ∨ pyUpper (pyStripText store.row.currency) ≠ store.reportingCurrency) :
    reportingAmountAtLockedRate store.row.amount store.row.currency store.reportingCurrency store.row.lock =
      (quantizeMoney (store.row.amount * locked), false) := by
  obtain ⟨⟨shown, trimmed⟩, capital⟩ := resolveReportingCurrency_spec store.settings
  have target : pyUpper (pyStripText store.reportingCurrency) = store.reportingCurrency := by
    rw [show pyStripText store.reportingCurrency = _ from trimmed]
    exact capital
  unfold reportingAmountAtLockedRate
  simp only [if_neg (show store.reportingCurrency ≠ "" from shown), target]
  by_cases own : store.pair.1 = store.pair.2
  · have one := priced.own own
    have same : pyUpper (pyStripText (if store.row.currency = "" then store.reportingCurrency else store.row.currency)) =
        store.reportingCurrency := by
      rw [store.pair_fst, store.pair_snd] at own
      split at own
      next empty => rw [if_pos empty, target]
      next given =>
        rw [if_neg given, ← pyStripText_pyUpper, own]
        exact trimmed
    rw [if_pos same, one, mul_one]
  · have given : store.row.currency ≠ "" := by
      intro empty
      rw [store.pair_fst, store.pair_snd, if_pos empty] at own
      exact own rfl
    have other := apart.resolve_left own
    have code : pyUpper (pyStripText store.pair.2) = store.reportingCurrency := by rw [store.pair_snd, target]
    have source : pyUpper (pyStripText store.pair.1) = pyUpper (pyStripText store.row.currency) := by
      rw [store.pair_fst, if_neg given, pyStripText_pyUpper, pyUpper_pyUpper]
    simp only [if_neg given, if_neg other, priced.rate, priced.code, priced.source, Option.map_some, Function.comp_apply, code,
      source, priced.positive, and_self, if_true]

theorem consistent (apart : store.pair.1 = store.pair.2 ∨ pyUpper (pyStripText store.row.currency) ≠ store.reportingCurrency) :
    Consistent store where
  priced := ⟨locked, priced.rate, priced.amount⟩
  ofPair := priced.quoted
  settled := priced.settled
  rescaled := fun amount adapter now =>
    have ⟨changed, left⟩ := priced.rescaled amount adapter now
    ⟨locked, changed, priced.rate, left⟩
  expressed := ⟨_, priced.amount, priced.expressed apart⟩

end Priced

/-- What a row that names the currency of its rate was priced for. -/
def Recorded (store : RowStore) : Prop :=
  ∀ source, store.row.lock.reportingSourceCurrency = some source → ∃ code rate reported,
    store.row.lock.reportingCurrency = some code ∧ store.row.lock.reportingFxRate = some rate ∧
      store.row.lock.reportingAmount = some reported ∧ OnCents reported ∧ store.quotedFor = some (source, code) ∧
      pyUpper source = source ∧ pyUpper code = code ∧ (source = code → rate = 1)

section Steps

variable {store : RowStore} {adapter : FxAdapter} {now : Time} {force : Bool}

theorem reprice_rate {quote : ℚ × Time} (quoted : convertAmount adapter now store.pair.1 store.pair.2 = some quote)
    (own : store.pair.1 = store.pair.2) : quantizeRate quote.1 = 1 := by
  rw [convertAmount, if_pos own, Option.some.injEq] at quoted
  rw [← quoted, quantizeRate_one]

/-- A call that takes a new rate leaves the row of that rate. -/
theorem materialize_quoted (anew : store.row.reusedRate store.reportingCurrency force = none) {quote : ℚ × Time}
    (quoted : convertAmount adapter now store.pair.1 store.pair.2 = some quote) :
    store.materialize adapter now force =
      ⟨store.row.reprice store.pair quote.1 quote.2, store.settings, some store.pair⟩ := by
  have found : materializeReportingAmount adapter now store.reportingCurrency force store.row =
      some ⟨store.row.reprice store.pair quote.1 quote.2, true, some store.pair⟩ := by
    rw [materializeReportingAmount, anew]
    exact congrArg (Option.map _) quoted
  rw [RowStore.materialize, found]
  rfl

/-- A row that gives a currency for its rate names one. -/
theorem stated_of_named {given : Option String} (named : given.getD "" ≠ "") : ∃ source, given = some source := by
  cases given with
  | none => exact absurd rfl named
  | some source => exact ⟨source, rfl⟩

/-- One that reuses the rate of the row leaves the row priced at it. -/
theorem materialize_reused (recorded : Recorded store) {rate : ℚ}
    (reused : store.row.reusedRate store.reportingCurrency force = some rate)
    (named : store.row.lock.reportingSourceCurrency.getD "" ≠ "") :
    store.materialize adapter now force = { store with row := store.row.rescale rate } := by
  obtain ⟨source, stated⟩ := stated_of_named named
  obtain ⟨code, locked, reported, _, _, figure, cents, _⟩ := recorded source stated
  rw [RowStore.materialize, materializeReportingAmount, reused]
  simp only [figure, Option.map_some, cents.quantizeMoney_eq, Option.some.injEq]
  by_cases same : reported = quantizeMoney (store.row.amount * rate)
  · rw [if_pos same, PricedRow.rescale, ← same, ← figure]
    rfl
  · rw [if_neg same]
    rfl

/-- A rate that is reused is positive, and is that of the row, which is locked in the reporting currency and names
the currency of the invoice. -/
theorem reusedRate_some {rate : ℚ} (reused : store.row.reusedRate store.reportingCurrency force = some rate) :
    store.row.lock.reportingFxRate = some rate ∧ 0 < rate ∧ store.row.isLocked store.reportingCurrency = true ∧
      store.row.lock.pairMatches store.pair.1 store.pair.2 rate = true := by
  rw [PricedRow.reusedRate] at reused
  split at reused
  next calm =>
    obtain ⟨held, sound⟩ := Option.filter_eq_some_iff.mp reused
    obtain ⟨positive, matching⟩ := Bool.and_eq_true_iff.mp sound
    exact ⟨held, of_decide_eq_true positive, (Bool.and_eq_true_iff.mp calm).2, matching⟩
  next => cases reused

/-- A call that finds a rate and can be relied on leaves the row priced for its pair of currencies. -/
theorem priced_materialize (recorded : Recorded store) (reliable : Reliable store (.materialize adapter now force))
    (found : (materializeReportingAmount adapter now store.reportingCurrency force store.row).isSome) :
    ∃ locked, Priced (store.materialize adapter now force) locked ∧ (store.materialize adapter now force).pair = store.pair ∧
      (store.materialize adapter now force).row.currency = store.row.currency ∧
      (store.materialize adapter now force).settings = store.settings := by
  obtain ⟨_, named, kept⟩ := reliable
  cases reused : store.row.reusedRate store.reportingCurrency force with
  | some rate =>
    have named := named (Option.isSome_iff_exists.mpr ⟨rate, reused⟩)
    obtain ⟨held, positive, locked, matching⟩ := reusedRate_some reused
    rw [materialize_reused recorded reused named]
    obtain ⟨source, stated⟩ := stated_of_named named
    obtain ⟨code, other, reported, coded, rated, _, _, quoted, capital, capitals, own⟩ := recorded source stated
    have same : other = rate := Option.some.inj (rated.symm.trans held)
    have isSource : source = store.pair.1 := by
      rw [ReportingLock.pairMatches, if_neg named, stated, Option.getD_some, capital] at matching
      exact beq_iff_eq.mp matching
    have isCode : code = store.pair.2 := by
      have match' := beq_iff_eq.mp (Bool.and_eq_true_iff.mp locked).2
      rw [coded, Option.map_some, capitals] at match'
      exact Option.some.inj match'
    rw [isSource, isCode] at quoted
    rw [isSource] at stated own
    rw [isCode] at coded own
    rw [same] at own
    exact ⟨rate, ⟨stated, coded, held, positive, rfl, own, quoted⟩, rfl, rfl, rfl⟩
  | none =>
    rw [materializeReportingAmount, reused, Option.isSome_map] at found
    obtain ⟨quote, quoted⟩ := Option.isSome_iff_exists.mp found
    have positive := quantizeRate_pos (kept (Option.isNone_iff_eq_none.mpr reused) quote quoted)
    rw [materialize_quoted reused quoted]
    exact ⟨quantizeRate quote.1, ⟨rfl, rfl, rfl, positive, rfl, reprice_rate quoted, rfl⟩, rfl, rfl, rfl⟩

/-- Whatever a call does, the row says for what it was priced. -/
theorem recorded_materialize (recorded : Recorded store) : Recorded (store.materialize adapter now force) := by
  cases reused : store.row.reusedRate store.reportingCurrency force with
  | some rate =>
    rw [RowStore.materialize, materializeReportingAmount, reused]
    by_cases same : store.row.lock.reportingAmount.map quantizeMoney = some (quantizeMoney (store.row.amount * rate))
    · simp only [if_pos same]
      exact recorded
    · simp only [if_neg same]
      intro source stated
      obtain ⟨code, locked, _, coded, rated, _, _, rest⟩ := recorded source stated
      exact ⟨code, locked, _, coded, rated, rfl, quantizeMoney_onCents _, rest⟩
  | none =>
    cases quoted : convertAmount adapter now store.pair.1 store.pair.2 with
    | none =>
      have failed : materializeReportingAmount adapter now store.reportingCurrency force store.row = none := by
        rw [materializeReportingAmount, reused]
        exact congrArg (Option.map _) quoted
      rw [RowStore.materialize, failed]
      exact recorded
    | some quote =>
      rw [materialize_quoted reused quoted]
      intro source stated
      cases Option.some.inj stated
      exact ⟨_, _, _, rfl, rfl, rfl, quantizeMoney_onCents _, rfl, store.pyUpper_pair_fst, store.pyUpper_pair_snd,
        reprice_rate quoted⟩

/-- The rate of a row that is consistent is not zero. -/
theorem Consistent.rate_pos (consistent : Consistent store) : ∃ rate, store.row.lock.reportingFxRate = some rate ∧ 0 < rate := by
  have settled := consistent.settled (fun _ _ => none) 0
  cases reused : store.row.reusedRate store.reportingCurrency false with
  | some rate =>
    obtain ⟨held, positive, _⟩ := reusedRate_some reused
    exact ⟨rate, held, positive⟩
  | none =>
    rw [materializeReportingAmount, reused] at settled
    obtain ⟨quote, _, left⟩ := Option.map_eq_some_iff.mp settled
    cases congrArg Materialized.changed left

theorem recorded_step (recorded : Recorded store) (edit : RowEdit) : Recorded (rowMachine.step store edit) := by
  cases edit with
  | setAmount amount => exact recorded
  | setCurrency currency => exact recorded
  | setSettings settings => exact recorded
  | materialize adapter now force => exact recorded_materialize recorded

end Steps

/-- After every call that finds a rate in a run whose calls can all be relied on, the conversion on the row is consistent. -/
theorem locked_amount_consistent {store : RowStore} (first : rowMachine.init store) {edits : List RowEdit} {adapter : FxAdapter}
    {now : Time} {force : Bool} (permitted : rowMachine.Permits Reliable store (edits ++ [.materialize adapter now force]))
    (found : (materializeReportingAmount adapter now (rowMachine.exec store edits).reportingCurrency force
      (rowMachine.exec store edits).row).isSome) :
    Consistent (rowMachine.exec store (edits ++ [.materialize adapter now force])) := by
  have unnamed : Recorded store := by
    intro source stated
    rw [show store.row.lock.reportingSourceCurrency = none from first] at stated
    cases stated
  have step : ∀ store edit, Recorded store → Recorded (rowMachine.step store edit) :=
    fun _ edit recorded => recorded_step recorded edit
  have recorded : Recorded (rowMachine.exec store edits) := Machine.exec_invariant step unnamed edits
  have reliable : Reliable (rowMachine.exec store edits) (.materialize adapter now force) := permitted.append.2.1
  obtain ⟨locked, priced, pair, currency, settings⟩ := priced_materialize recorded reliable found
  rw [Machine.exec_concat]
  refine priced.consistent ?_
  rw [pair, currency, RowStore.reportingCurrency, settings]
  exact reliable.1

/-- A provider with one rate for all pairs. -/
def flatAdapter (rate : ℚ) : FxAdapter := fun _ _ => some (rate, 0)

theorem convertAmount_flat {rate : ℚ} (positive : 0 < rate) (now : Time) (src tgt : String) :
    convertAmount (flatAdapter rate) now src tgt = if src = tgt then some (1, now) else some (rate, 0) := by
  rw [convertAmount, flatAdapter, Option.filter_some, decide_eq_true positive, if_pos rfl]

/-- An invoice as it is entered, of an organisation that reports in dollars. -/
def enteredRow (currency : String) : RowStore := ⟨⟨100, currency, .none, none⟩, ⟨[some "USD"], false, 0⟩, none⟩

theorem locked_amount_consistent_edited :
    Consistent (rowMachine.exec (enteredRow "GBP") ([.setAmount 250, .setCurrency "EUR"] ++
      [.materialize (flatAdapter (5 / 4)) 0 false])) := by
  have positive : (0 : ℚ) < 5 / 4 := by norm_num
  have apart : pyUpper (pyStripText "EUR") ≠ resolveReportingCurrency ⟨[some "USD"], false, 0⟩ := by decide
  have first : rowMachine.init (enteredRow "GBP") := rfl
  refine locked_amount_consistent first ⟨trivial, trivial, ⟨.inr apart, fun reused => absurd reused (by decide), ?_⟩, trivial⟩ ?_
  · intro _ quote quoted
    rw [convertAmount_flat positive] at quoted
    split at quoted <;> rw [← Option.mem_some_iff.mp quoted] <;> norm_num
  · have anew : PricedRow.reusedRate ⟨250, "EUR", .none, none⟩ (resolveReportingCurrency ⟨[some "USD"], false, 0⟩) false = none :=
      rfl
    show (materializeReportingAmount _ 0 (resolveReportingCurrency ⟨[some "USD"], false, 0⟩) false
      ⟨250, "EUR", .none, none⟩).isSome
    rw [materializeReportingAmount, anew, Option.isSome_map, convertAmount_flat positive]
    split <;> rfl

/-- A rate below half of the last place passes for a rate and is kept as zero, so the next call takes another one. -/
theorem tiny_rate_unlocked :
    ¬∀ (store : RowStore) (edits : List RowEdit) (adapter : FxAdapter) (now : Time) (force : Bool), rowMachine.init store →
      (materializeReportingAmount adapter now (rowMachine.exec store edits).reportingCurrency force
        (rowMachine.exec store edits).row).isSome →
      Consistent (rowMachine.exec store (edits ++ [.materialize adapter now force])) := by
  intro always
  have positive : (0 : ℚ) < 4 / 10 ^ 9 := by norm_num
  have apart : (enteredRow "VND").pair.1 ≠ (enteredRow "VND").pair.2 := by decide
  have anew : (enteredRow "VND").row.reusedRate (enteredRow "VND").reportingCurrency false = none := rfl
  have quoted : convertAmount (flatAdapter (4 / 10 ^ 9)) 0 (enteredRow "VND").pair.1 (enteredRow "VND").pair.2 =
      some (4 / 10 ^ 9, 0) := by
    rw [convertAmount_flat positive, if_neg apart]
  have found : (materializeReportingAmount (flatAdapter (4 / 10 ^ 9)) 0 (enteredRow "VND").reportingCurrency false
      (enteredRow "VND").row).isSome := by
    rw [materializeReportingAmount, anew, Option.isSome_map]
    exact Option.isSome_iff_exists.mpr ⟨_, quoted⟩
  have consistent : Consistent ((enteredRow "VND").materialize (flatAdapter (4 / 10 ^ 9)) 0 false) :=
    always (enteredRow "VND") [] _ 0 false rfl found
  rw [materialize_quoted anew quoted] at consistent
  have zero : quantizeRate (4 / 10 ^ 9) = 0 := by
    have floor : ⌊(4 : ℚ) / 10 ^ 9 * 100000000⌋ = 0 := Int.floor_eq_zero_iff.mpr ⟨by norm_num, by norm_num⟩
    rw [quantizeRate, roundHalfEven]
    simp only [floor]
    norm_num
  obtain ⟨rate, held, kept⟩ := consistent.rate_pos
  have same : quantizeRate (4 / 10 ^ 9) = rate := Option.some.inj held
  rw [← same, zero] at kept
  exact absurd kept (lt_irrefl 0)

end Payables.Reporting
