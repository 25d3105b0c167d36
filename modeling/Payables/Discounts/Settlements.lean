import Payables.Discounts.Offers
import Payables.Lib.Runs

namespace Payables.Discounts
open Lib

/-- An invoice whose payments settle, with the amount of each of them. -/
structure SettledInvoice where
  id : InvoiceId
  currency : String
  amount : PaymentId → ℚ

def SettledInvoice.payment (invoice : SettledInvoice) (paymentId : PaymentId) : SettledPayment :=
  ⟨invoice.id, invoice.amount paymentId, invoice.currency⟩

/-- A payment of the invoice reaches `completed`, or comes again in a retry. -/
structure Settlement where
  paymentId : PaymentId
  now : Time

section Capture

variable (invoice : SettledInvoice) (settlement : Settlement)

/-- The body of the loop of `capture_offers_for_settled_payment`. -/
def captureOffer (offer : DiscountOffer) : Option DiscountOffer :=
  (captureCall offer none (invoice.payment settlement.paymentId) settlement.now).map OfferCall.edited

/-- What `capture_offers_for_settled_payment` returns. -/
def captureOffers (offers : List DiscountOffer) : List DiscountOffer := offers.filterMap (captureOffer invoice settlement)

def settleOffer (offer : DiscountOffer) : DiscountOffer := (captureOffer invoice settlement offer).getD offer

/-- The offers after `capture_offers_for_settled_payment`. -/
def settleOffers (offers : List DiscountOffer) : List DiscountOffer := offers.map (settleOffer invoice settlement)

end Capture

/-- The settlements of the payments of an invoice, from any offers. -/
def settlementMachine (invoice : SettledInvoice) : Machine (List DiscountOffer) Settlement where
  init _ := True
  step offers settlement := settleOffers invoice settlement offers

end Payables.Discounts
