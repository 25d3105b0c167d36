import Payables.Payments.Model

namespace Payables

/-- `check_payment_compliance`'s verdict, with its reasons already joined. -/
inductive ComplianceVerdict
  | pass
  | refuse (reasons : String)
  | hold (reasons : String)
  deriving DecidableEq

/-- `PaymentStatus` of the payment adapters. -/
inductive AdapterStatus
  | pending
  | submitted
  | processing
  | completed
  | failed
  | cancelled
  deriving DecidableEq

def AdapterStatus.toPaymentStatus : AdapterStatus → PaymentStatus
  | pending => .pending
  | submitted => .submitted
  | processing => .processing
  | completed => .completed
  | failed => .failed
  | cancelled => .cancelled

/-- The answer of `adapter.create_payment`. -/
structure AdapterAnswer where
  status : AdapterStatus
  providerPaymentId : Option String
  reference : Option String
  failureReason : Option String
  deriving DecidableEq

/-- How the card leg ends: on a card that already pays the invoice, usable or not, on a freshly
minted one, without one, or on a live-card slot that emptied in between. -/
inductive CardLeg
  | converged (provider lastFour : String)
  | unusable (reason : String)
  | minted (provider lastFour : String)
  | notIssued (failureReason : Option String)
  | conflict
  deriving DecidableEq

/-- How the international leg ends: not taken, failed, on a corridor within one currency, or with a rate
locked. -/
inductive FxLeg
  | notNeeded
  | unsupportedProvider
  | refused (message : String)
  | routed (method : String)
  | locked (method : String) (fxRate : ℚ)
  deriving DecidableEq

/-- What one dispatch of a payment hears from outside the payment tables. An error is the class of
the exception raised instead of an answer; `late` is one raised after everything else went well. -/
structure DispatchEnv where
  now : Time
  hasVendor : Bool
  compliance : Except String ComplianceVerdict
  card : Except String CardLeg
  fx : Except String FxLeg
  adapterName : String
  adapter : Except String AdapterAnswer
  late : Option String

/-- What a dispatch can call outside. -/
inductive Rail
  | createPayment
  | issueCard
  deriving DecidableEq

/-- What a dispatch leaves in its session: the row, whether the invoice becomes
`payment_scheduled`, the outside call it made and the exception it raised. -/
structure DispatchResult where
  payment : Payment
  schedules : Bool
  called : Option Rail
  raised : Option String
  deriving DecidableEq

namespace Payment

def fail (payment : Payment) (now : Time) (reason : String) : Payment :=
  { payment with status := .failed, failureReason := some reason, completedAt := some now }

def hold (payment : Payment) (reason : String) : Payment :=
  { payment with status := .pendingCompliance, failureReason := some reason }

end Payment

/-- `value or default` on an optional string. -/
def orText (value : Option String) (default : String) : String :=
  if value.getD "" = "" then default else value.getD ""

/-- The end of a dispatch that called nobody. -/
def DispatchResult.quiet (payment : Payment) : DispatchResult := ⟨payment, false, none, none⟩

/-- The compliance gate both legs run before money moves; `send` is what a pass leads to. -/
def screen (payment : Payment) (env : DispatchEnv) (send : DispatchResult) : DispatchResult :=
  if !env.hasVendor then .quiet (payment.hold "compliance_hold: no screenable vendor on invoice")
  else
    match env.compliance with
    | .error cls => { DispatchResult.quiet payment with raised := some cls }
    | .ok (.refuse reasons) => .quiet (payment.fail env.now ("compliance_refusal: " ++ reasons))
    | .ok (.hold reasons) => .quiet (payment.hold ("compliance_hold: " ++ reasons))
    | .ok .pass => send

def Payment.settleByCard (payment : Payment) (now : Time) (provider lastFour : String) : Payment :=
  { payment with
    status := .completed
    provider := some provider
    completedAt := some now
    submittedAt := some now
    reference := some ("CARD-" ++ provider.toUpper ++ "-" ++ orText (some lastFour) "????") }

/-- The card leg after its compliance gate. -/
def sendCard (invoice : PayableInvoice) (payment : Payment) (env : DispatchEnv) : DispatchResult :=
  let schedules := invoice.status ∈ InvoiceStatus.schedulableStatuses
  match env.card with
  | .error cls => ⟨payment, false, some .issueCard, some cls⟩
  | .ok (.converged provider lastFour) => ⟨payment.settleByCard env.now provider lastFour, schedules, none, env.late⟩
  | .ok (.unusable reason) => .quiet (payment.fail env.now reason)
  | .ok (.minted provider lastFour) =>
    ⟨payment.settleByCard env.now provider lastFour, schedules, some .issueCard, env.late⟩
  | .ok (.notIssued failureReason) =>
    ⟨payment.fail env.now (orText failureReason "card_issuance_failed"), false, some .issueCard, none⟩
  | .ok .conflict => ⟨payment.fail env.now "card_issuance_conflict", false, some .issueCard, none⟩

/-- The call of `adapter.create_payment` and the reading of its answer. -/
def sendToAdapter (invoice : PayableInvoice) (payment : Payment) (env : DispatchEnv) : DispatchResult :=
  match env.adapter with
  | .error cls => ⟨payment, false, some .createPayment, some cls⟩
  | .ok answer =>
    let sent := { payment with
      provider := some env.adapterName
      providerPaymentId := answer.providerPaymentId
      reference := if answer.reference.getD "" = "" then payment.reference else answer.reference
      submittedAt := some env.now }
    let schedules := invoice.status ∈ InvoiceStatus.schedulableStatuses
    match answer.status with
    | .completed =>
      ⟨{ sent with status := .completed, completedAt := some env.now }, schedules, some .createPayment, env.late⟩
    | .submitted => ⟨{ sent with status := .submitted }, schedules, some .createPayment, env.late⟩
    | .processing => ⟨{ sent with status := .processing }, schedules, some .createPayment, env.late⟩
    | other =>
      ⟨{ sent with
          status := other.toPaymentStatus
          failureReason := answer.failureReason
          completedAt := some env.now }, false, some .createPayment, none⟩

/-- The row on the rail of its corridor. -/
def Payment.route (payment : Payment) (method : String) : Payment := { payment with method := some method }

/-- The row with the rail and the rate of its corridor locked. -/
def Payment.prepare (payment : Payment) (method : String) (fxRate : ℚ) : Payment :=
  { payment with method := some method, fxRate := some fxRate }

/-- The international leg, when no rate is locked on the row yet, and then the gate and the call. -/
def sendByRail (invoice : PayableInvoice) (payment : Payment) (env : DispatchEnv) : DispatchResult :=
  match if payment.fxRate.isSome then .ok .notNeeded else env.fx with
  | .error cls => { DispatchResult.quiet payment with raised := some cls }
  | .ok .notNeeded => screen payment env (sendToAdapter invoice payment env)
  | .ok .unsupportedProvider => .quiet (payment.fail env.now "fx_provider_unsupported")
  | .ok (.refused message) => .quiet (payment.fail env.now ("international_payment_error: " ++ message))
  | .ok (.routed method) => screen (payment.route method) env (sendToAdapter invoice (payment.route method) env)
  | .ok (.locked method fxRate) =>
    screen (payment.prepare method fxRate) env (sendToAdapter invoice (payment.prepare method fxRate) env)

/-- `_execute_single_payment`. -/
def executeSinglePayment (invoice : Option PayableInvoice) (exceptions : List InvoiceException) (payment : Payment)
    (env : DispatchEnv) : DispatchResult :=
  match invoice with
  | none => .quiet (payment.fail env.now "invoice_missing: cannot verify payee, amount or compliance")
  | some invoice =>
    if invoice.status ∉ InvoiceStatus.payableStatuses then
      .quiet (payment.fail env.now ("invoice_not_payable:" ++ invoice.status.value))
    else
      match blockingExceptionType exceptions invoice.id with
      | some type => .quiet (payment.fail env.now ("invoice_blocked:" ++ type.value))
      | none =>
        if cardClaims invoice payment.method then .quiet (payment.fail env.now "invoice_has_live_card")
        else if invoice.netPayableAmount ≠ payment.amount then .quiet (payment.fail env.now "net_amount_changed")
        else if payment.method = some "virtual_card" then screen payment env (sendCard invoice payment env)
        else sendByRail invoice payment env

/-- The handler both callers put round the dispatch: an exception is recorded on the row as it
stands, with whatever processor handle it already carries. -/
def attemptPayment (invoice : Option PayableInvoice) (exceptions : List InvoiceException) (payment : Payment)
    (env : DispatchEnv) : DispatchResult :=
  let result := executeSinglePayment invoice exceptions payment env
  match result.raised with
  | none => result
  | some cls => { result with payment := result.payment.fail env.now ("unexpected_error:" ++ cls) }

/-- Two rows that agree in everything a dispatch, a webhook or a void never writes. -/
structure Payment.SameOrder (payment other : Payment) : Prop where
  id : other.id = payment.id
  correlationId : other.correlationId = payment.correlationId
  invoiceId : other.invoiceId = payment.invoiceId
  paymentRunId : other.paymentRunId = payment.paymentRunId
  amount : other.amount = payment.amount
  retryOfPaymentId : other.retryOfPaymentId = payment.retryOfPaymentId

theorem Payment.SameOrder.refl (payment : Payment) : payment.SameOrder payment := ⟨rfl, rfl, rfl, rfl, rfl, rfl⟩

theorem Payment.SameOrder.trans {first second third : Payment} (before : first.SameOrder second)
    (after : second.SameOrder third) : first.SameOrder third :=
  ⟨after.id.trans before.id, after.correlationId.trans before.correlationId, after.invoiceId.trans before.invoiceId,
    after.paymentRunId.trans before.paymentRunId, after.amount.trans before.amount,
    after.retryOfPaymentId.trans before.retryOfPaymentId⟩

theorem Payment.fail_sameOrder (payment : Payment) (now : Time) (reason : String) :
    payment.SameOrder (payment.fail now reason) := ⟨rfl, rfl, rfl, rfl, rfl, rfl⟩

theorem Payment.hold_sameOrder (payment : Payment) (reason : String) : payment.SameOrder (payment.hold reason) :=
  ⟨rfl, rfl, rfl, rfl, rfl, rfl⟩

theorem Payment.route_sameOrder (payment : Payment) (method : String) : payment.SameOrder (payment.route method) :=
  ⟨rfl, rfl, rfl, rfl, rfl, rfl⟩

theorem Payment.prepare_sameOrder (payment : Payment) (method : String) (fxRate : ℚ) :
    payment.SameOrder (payment.prepare method fxRate) := ⟨rfl, rfl, rfl, rfl, rfl, rfl⟩

theorem screen_sameOrder (payment : Payment) (env : DispatchEnv) {send : DispatchResult}
    (sent : payment.SameOrder send.payment) : payment.SameOrder (screen payment env send).payment := by
  unfold screen
  split
  · exact payment.hold_sameOrder _
  split
  · exact .refl payment
  · exact payment.fail_sameOrder _ _
  · exact payment.hold_sameOrder _
  · exact sent

theorem sendCard_sameOrder (invoice : PayableInvoice) (payment : Payment) (env : DispatchEnv) :
    payment.SameOrder (sendCard invoice payment env).payment := by
  unfold sendCard
  split <;> exact ⟨rfl, rfl, rfl, rfl, rfl, rfl⟩

theorem sendToAdapter_sameOrder (invoice : PayableInvoice) (payment : Payment) (env : DispatchEnv) :
    payment.SameOrder (sendToAdapter invoice payment env).payment := by
  unfold sendToAdapter
  split
  · exact .refl payment
  · simp only
    split <;> exact ⟨rfl, rfl, rfl, rfl, rfl, rfl⟩

theorem sendByRail_sameOrder (invoice : PayableInvoice) (payment : Payment) (env : DispatchEnv) :
    payment.SameOrder (sendByRail invoice payment env).payment := by
  unfold sendByRail
  split
  · exact .refl payment
  · exact screen_sameOrder payment env (sendToAdapter_sameOrder invoice payment env)
  · exact payment.fail_sameOrder _ _
  · exact payment.fail_sameOrder _ _
  · next method _ =>
    exact (payment.route_sameOrder method).trans (screen_sameOrder _ env (sendToAdapter_sameOrder invoice _ env))
  · next method fxRate _ =>
    exact (payment.prepare_sameOrder method fxRate).trans
      (screen_sameOrder _ env (sendToAdapter_sameOrder invoice _ env))

/-- A dispatch never changes which order a row stands for. -/
theorem attemptPayment_sameOrder (invoice : Option PayableInvoice) (exceptions : List InvoiceException)
    (payment : Payment) (env : DispatchEnv) : payment.SameOrder (attemptPayment invoice exceptions payment env).payment := by
  have executed : payment.SameOrder (executeSinglePayment invoice exceptions payment env).payment := by
    unfold executeSinglePayment
    split
    · exact payment.fail_sameOrder _ _
    split
    · exact payment.fail_sameOrder _ _
    split
    · exact payment.fail_sameOrder _ _
    split
    · exact payment.fail_sameOrder _ _
    split
    · exact payment.fail_sameOrder _ _
    split
    · exact screen_sameOrder payment env (sendCard_sameOrder _ payment env)
    · exact sendByRail_sameOrder _ payment env
  simp only [attemptPayment]
  split
  · exact executed
  · exact executed.trans (Payment.fail_sameOrder _ _ _)

end Payables
