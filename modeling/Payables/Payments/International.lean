import Payables.Payments.Dispatch
import Payables.Workflow.Reporting

namespace Payables

/-- `normalize_currency_code`. -/
def normalizeCurrencyCode (value : String) : Option String :=
  let trimmed := pyUpper (pyStripText value)
  if trimmed = "" then none else some trimmed

/-- `resolve_home_currency`, on the setting when it is a string. -/
def resolveHomeCurrency (setting : Option String) : String := (setting.bind normalizeCurrencyCode).getD "USD"

def normalizePaymentMethod (method : Option String) : String :=
  String.ofList ((pyStrip (method.getD "").toList).map Char.toLower)

/-- `INTERNATIONAL_PAYMENT_METHODS`. -/
def internationalPaymentMethods : List String := ["sepa", "international_ach", "international_wire"]

def isInternationalPaymentMethod (method : Option String) : Bool :=
  internationalPaymentMethods.contains (normalizePaymentMethod method)

/-- `_UK_DOMESTIC_METHODS`. -/
def ukDomesticMethods : List String := ["bacs", "faster_payments", "chaps"]

/-- `_GLOBAL_ACH_DESTINATIONS`. -/
def globalAchDestinations : List String := ["CA", "MX", "GB", "PA", "AR", "BR", "CL", "CO", "DO", "PE", "VE"]

/-- `SEPA_COUNTRIES`. -/
def sepaCountries : List String :=
  ["AT", "BE", "BG", "CH", "CY", "CZ", "DE", "DK", "EE", "ES", "FI", "FR", "GB", "GI", "GR", "HR", "HU", "IE", "IS",
    "IT", "LI", "LT", "LU", "LV", "MC", "MT", "NL", "NO", "PL", "PT", "RO", "SE", "SI", "SK", "SM", "VA"]

def isSepaCountry (country : Option String) : Bool := country.any sepaCountries.contains

structure CorridorChoice where
  method : String
  requiresFx : Bool
  requiresSwift : Bool
  requiresIban : Bool
  deriving DecidableEq

/-- `pick_corridor`. A requested method counts where nothing defaults to it, or at home. -/
def pickCorridor (src tgt : String) (targetCountry requestedMethod : Option String) : CorridorChoice :=
  let country := (targetCountry.map pyUpper).filter (· ≠ "")
  let requiresFx := src ≠ tgt
  let isDomesticUs := !requiresFx && tgt = "USD" && (country = none || country = some "US")
  let isDomesticUk := !requiresFx && tgt = "GBP" && (country = none || country = some "GB")
  let method := normalizePaymentMethod requestedMethod
  let honorOverride := requestedMethod.getD "" ≠ "" &&
    (isInternationalPaymentMethod requestedMethod || isDomesticUs || (isDomesticUk && ukDomesticMethods.contains method))
  if honorOverride then
    let isUkDomesticMethod := ukDomesticMethods.contains method
    { method := method
      requiresFx := requiresFx
      requiresSwift := !isUkDomesticMethod && (["wire", "international_wire"].contains method || requiresFx)
      requiresIban := !isUkDomesticMethod &&
        (method = "sepa" || (method ≠ "international_ach" && isSepaCountry country)) }
  else if requiresFx then ⟨"international_wire", true, true, isSepaCountry country⟩
  else if isDomesticUs then ⟨"ach", false, false, false⟩
  else if tgt = "EUR" ∧ isSepaCountry country then ⟨"sepa", false, false, true⟩
  else if isDomesticUk then ⟨"faster_payments", false, false, false⟩
  else if tgt = "USD" ∧ country.any globalAchDestinations.contains then ⟨"international_ach", false, false, false⟩
  else ⟨"international_wire", false, true, isSepaCountry country⟩

/-- What the leg reads of the bank details of a vendor: whether the gate finds an IBAN or a SWIFT code,
the country they resolve to, and the answers of `validate_iban` and `validate_swift_bic`. -/
structure Payee where
  hasInternationalFields : Bool
  country : Option String
  ibanValid : Bool
  swiftValid : Bool
  deriving DecidableEq

/-- `FXRate`: units of the second currency per unit of the first, and `str` of it. -/
structure FxQuote where
  rate : ℚ
  text : String
  deriving DecidableEq

/-- What the international leg reads besides the rows. No provider is one without an adapter, and an
error is the class of what `get_rate` raised. -/
structure FxInputs where
  homeCurrency : Option String
  payee : Payee
  provider : Option (Except String FxQuote)
  deriving DecidableEq

/-- The outflow leg and the corridor of a prepared payment. -/
structure PreparedPayment where
  corridor : CorridorChoice
  sourceCurrency : String
  sourceAmount : ℚ
  fxRate : Option ℚ
  deriving DecidableEq

inductive PrepareError
  | unsupportedProvider
  | refused (message : String)
  | raised (cls : String)
  deriving DecidableEq

/-- `prepare_international_payment`. The outflow is priced from the amount of the invoice. -/
def prepareInternationalPayment (invoice : PayableInvoice) (payee : Payee) (homeCurrency : String)
    (requestedMethod : Option String) (getRate : Except String FxQuote) : Except PrepareError PreparedPayment :=
  let sourceCurrency := (normalizeCurrencyCode homeCurrency).getD "USD"
  let targetCurrency := (normalizeCurrencyCode invoice.currency).getD sourceCurrency
  let corridor := pickCorridor sourceCurrency targetCurrency (payee.country.map pyUpper) requestedMethod
  if corridor.requiresIban ∧ !payee.ibanValid then
    .error (.refused s!"corridor \x27{corridor.method}\x27 requires a valid IBAN; vendor\x27s bank_details.iban is missing or malformed")
  else if corridor.requiresSwift ∧ !payee.swiftValid then
    .error (.refused s!"corridor \x27{corridor.method}\x27 requires a valid SWIFT/BIC; vendor\x27s bank_details.swift_bic is missing or malformed")
  else if !corridor.requiresFx then .ok ⟨corridor, sourceCurrency, invoice.amount, none⟩
  else
    match getRate with
    | .error cls => .error (.raised cls)
    | .ok quote =>
      if quote.rate ≤ 0 then
        .error (.refused s!"FX provider returned non-positive rate for {sourceCurrency}→{targetCurrency}: {quote.text}")
      else .ok ⟨corridor, sourceCurrency, quantizeMoney (invoice.amount / quote.rate), some quote.rate⟩

/-- `is_international_payment`. -/
def isInternationalPayment (payment : Payment) (corridor : Option String) : Bool :=
  payment.fxRate.any (0 < ·) || isInternationalPaymentMethod corridor || isInternationalPaymentMethod payment.method

/-- The gate of the leg in `_execute_single_payment`. -/
def takesInternationalLeg (invoice : PayableInvoice) (payment : Payment) (corridor : Option String) (inputs : FxInputs) :
    Bool :=
  ((normalizeCurrencyCode invoice.currency).getD "USD" != resolveHomeCurrency inputs.homeCurrency ||
    isInternationalPayment payment corridor || inputs.payee.hasInternationalFields) && payment.fxRate.isNone

/-- The leg, if it is taken. -/
def internationalLeg (invoice : PayableInvoice) (payment : Payment) (corridor : Option String) (inputs : FxInputs) :
    Option (Except PrepareError PreparedPayment) :=
  if takesInternationalLeg invoice payment corridor inputs then
    match inputs.provider with
    | none => some (.error .unsupportedProvider)
    | some getRate =>
      some (prepareInternationalPayment invoice inputs.payee (resolveHomeCurrency inputs.homeCurrency) payment.method getRate)
  else none

/-- How the dispatch sees it end. -/
def fxLegOf : Option (Except PrepareError PreparedPayment) → Except String FxLeg
  | none => .ok .notNeeded
  | some (.error .unsupportedProvider) => .ok .unsupportedProvider
  | some (.error (.refused message)) => .ok (.refused message)
  | some (.error (.raised cls)) => .error cls
  | some (.ok prepared) =>
    match prepared.fxRate with
    | none => .ok (.routed prepared.corridor.method)
    | some rate => .ok (.locked prepared.corridor.method rate)

/-- The gates before the international leg, and the invoice they let through. -/
def reachesRail (invoice : Option PayableInvoice) (exceptions : List InvoiceException) (payment : Payment) :
    Option PayableInvoice :=
  invoice.filter fun invoice => decide (invoice.status ∈ InvoiceStatus.payableStatuses ∧
    blockingExceptionType exceptions invoice.id = none ∧ cardClaims invoice payment.method = false ∧
    invoice.netPayableAmount = payment.amount ∧ payment.method ≠ some "virtual_card")

/-- The rate a leg locks. -/
def lockedRate : Except String FxLeg → Option ℚ
  | .ok (.locked _ fxRate) => some fxRate
  | _ => none

theorem prepareInternationalPayment_rate {invoice : PayableInvoice} {payee : Payee} {homeCurrency : String}
    {requestedMethod : Option String} {getRate : Except String FxQuote} {prepared : PreparedPayment} {rate : ℚ}
    (ok : prepareInternationalPayment invoice payee homeCurrency requestedMethod getRate = .ok prepared)
    (locked : prepared.fxRate = some rate) : 0 < rate ∧ prepared.sourceAmount = quantizeMoney (invoice.amount / rate) := by
  unfold prepareInternationalPayment at ok
  simp only at ok
  split_ifs at ok
  · rw [← Except.ok.inj ok] at locked
    cases locked
  split at ok
  · cases ok
  next quote _ =>
  split_ifs at ok with refused
  rw [← Except.ok.inj ok] at locked ⊢
  cases Option.some.inj locked
  exact ⟨not_le.mp refused, rfl⟩

theorem internationalLeg_rate {invoice : PayableInvoice} {payment : Payment} {corridor : Option String} {inputs : FxInputs}
    {prepared : PreparedPayment} {rate : ℚ} (leg : internationalLeg invoice payment corridor inputs = some (.ok prepared))
    (locked : prepared.fxRate = some rate) : 0 < rate ∧ prepared.sourceAmount = quantizeMoney (invoice.amount / rate) := by
  unfold internationalLeg at leg
  split at leg
  · split at leg
    · cases Option.some.inj leg
    · exact prepareInternationalPayment_rate (Option.some.inj leg) locked
  · cases leg

/-- A row with a rate on it never takes the leg. -/
theorem internationalLeg_locked {invoice : PayableInvoice} {payment : Payment} {corridor : Option String} {inputs : FxInputs}
    (locked : payment.fxRate.isSome = true) : internationalLeg invoice payment corridor inputs = none := by
  have gate : takesInternationalLeg invoice payment corridor inputs = false := by
    simp only [takesInternationalLeg, ← Option.not_isSome, locked, Bool.not_true, Bool.and_false]
  rw [internationalLeg, gate, if_neg Bool.false_ne_true]

theorem lockedRate_fxLegOf (leg : Option (Except PrepareError PreparedPayment)) :
    lockedRate (fxLegOf leg) = (leg.bind Except.toOption).bind PreparedPayment.fxRate := by
  rcases leg with _ | failure | prepared
  · rfl
  · cases failure <;> rfl
  · simp only [fxLegOf, Option.bind_some, Except.toOption]
    cases rate : prepared.fxRate with
    | none => rfl
    | some => rfl

theorem screen_fxRate (payment : Payment) (env : DispatchEnv) {send : DispatchResult}
    (sent : send.payment.fxRate = payment.fxRate) : (screen payment env send).payment.fxRate = payment.fxRate := by
  unfold screen
  split
  · rfl
  split
  · rfl
  · rfl
  · rfl
  · exact sent

theorem sendToAdapter_fxRate (invoice : PayableInvoice) (payment : Payment) (env : DispatchEnv) :
    (sendToAdapter invoice payment env).payment.fxRate = payment.fxRate := by
  unfold sendToAdapter
  split
  · rfl
  · simp only
    split <;> rfl

theorem sendCard_fxRate (invoice : PayableInvoice) (payment : Payment) (env : DispatchEnv) :
    (sendCard invoice payment env).payment.fxRate = payment.fxRate := by
  unfold sendCard
  split <;> rfl

theorem sendByRail_fxRate (invoice : PayableInvoice) (payment : Payment) (env : DispatchEnv) :
    (sendByRail invoice payment env).payment.fxRate = payment.fxRate.orElse fun _ => lockedRate env.fx := by
  unfold sendByRail
  cases rate : payment.fxRate with
  | some rate' =>
    simp only [Option.isSome_some, if_true]
    exact (screen_fxRate payment env (sendToAdapter_fxRate invoice payment env)).trans rate
  | none =>
    simp only [Option.isSome_none, Bool.false_eq_true, if_false]
    split
    · next cls raised => rw [raised]; exact rate
    · next raised =>
      rw [raised]
      exact (screen_fxRate payment env (sendToAdapter_fxRate invoice payment env)).trans rate
    · next raised => rw [raised]; exact rate
    · next raised => rw [raised]; exact rate
    · next raised =>
      rw [raised]
      exact (screen_fxRate (payment.route _) env (sendToAdapter_fxRate invoice _ env)).trans rate
    · next raised =>
      rw [raised]
      exact screen_fxRate (payment.prepare _ _) env (sendToAdapter_fxRate invoice _ env)

/-- A dispatch that reaches the rail ends the way the rail does. -/
theorem executeSinglePayment_reaches {invoice : Option PayableInvoice} {exceptions : List InvoiceException}
    {payment : Payment} {paid : PayableInvoice} (reaches : reachesRail invoice exceptions payment = some paid)
    (env : DispatchEnv) : executeSinglePayment invoice exceptions payment env = sendByRail paid payment env := by
  obtain ⟨rfl, gates⟩ := Option.filter_eq_some_iff.mp reaches
  obtain ⟨payable, clear, unclaimed, net, rail⟩ := of_decide_eq_true gates
  simp only [executeSinglePayment, payable, clear, unclaimed, net, rail, not_true_eq_false, if_false, ne_eq,
    Bool.false_eq_true]

/-- Any other dispatch leaves the rate of the row alone. -/
theorem executeSinglePayment_stops {invoice : Option PayableInvoice} {exceptions : List InvoiceException}
    {payment : Payment} (stops : reachesRail invoice exceptions payment = none) (env : DispatchEnv) :
    (executeSinglePayment invoice exceptions payment env).payment.fxRate = payment.fxRate := by
  unfold executeSinglePayment
  split
  · rfl
  next paid =>
  have gate := Option.filter_eq_none_iff.mp stops paid rfl
  split
  · rfl
  next payable =>
  split
  · rfl
  next clear =>
  split
  · rfl
  next unclaimed =>
  split
  · rfl
  next net =>
  split
  · exact screen_fxRate payment env (sendCard_fxRate paid payment env)
  next rail =>
  exact absurd (decide_eq_true ⟨not_not.mp payable, clear, Bool.eq_false_iff.mpr unclaimed, not_not.mp net, rail⟩) gate

theorem attemptPayment_fxRate (invoice : Option PayableInvoice) (exceptions : List InvoiceException) (payment : Payment)
    (env : DispatchEnv) : (attemptPayment invoice exceptions payment env).payment.fxRate =
      payment.fxRate.orElse fun _ => (reachesRail invoice exceptions payment).bind fun _ => lockedRate env.fx := by
  have executed : (attemptPayment invoice exceptions payment env).payment.fxRate =
      (executeSinglePayment invoice exceptions payment env).payment.fxRate := by
    simp only [attemptPayment]
    split <;> rfl
  rw [executed]
  cases reaches : reachesRail invoice exceptions payment with
  | none =>
    rw [executeSinglePayment_stops reaches env]
    cases payment.fxRate <;> rfl
  | some paid =>
    rw [executeSinglePayment_reaches reaches env, sendByRail_fxRate]
    rfl

end Payables
