import Mathlib
import Payables.Basic
import Payables.Lib.Sql

namespace Payables.VendorMerge
open Lib

/-- `VENDOR_FK_CHILDREN`. -/
inductive VendorFkChild
  | invoice | purchaseOrder | creditMemo | contract | discountOffer | recurringInvoiceTemplate | vendorStatementReconciliation
  | virtualCard | sanctionsCheck | vendorChangeRequest | vendorUser | invoiceEmbedding | workflowSuggestion | catalog
  | catalogItem | purchaseRequisition | intakeRequest

def VendorFkChild.tablename : VendorFkChild → String
  | invoice => "invoices"
  | purchaseOrder => "purchase_orders"
  | creditMemo => "credit_memos"
  | contract => "contracts"
  | discountOffer => "discount_offers"
  | recurringInvoiceTemplate => "recurring_invoice_templates"
  | vendorStatementReconciliation => "vendor_statement_reconciliations"
  | virtualCard => "virtual_cards"
  | sanctionsCheck => "sanctions_checks"
  | vendorChangeRequest => "vendor_change_requests"
  | vendorUser => "vendor_users"
  | invoiceEmbedding => "invoice_embeddings"
  | workflowSuggestion => "workflow_suggestions"
  | catalog => "catalogs"
  | catalogItem => "catalog_items"
  | purchaseRequisition => "purchase_requisitions"
  | intakeRequest => "intake_requests"

def vendorFkChildren : List VendorFkChild :=
  [.invoice, .purchaseOrder, .creditMemo, .contract, .discountOffer, .recurringInvoiceTemplate, .vendorStatementReconciliation,
    .virtualCard, .sanctionsCheck, .vendorChangeRequest, .vendorUser, .invoiceEmbedding, .workflowSuggestion, .catalog,
    .catalogItem, .purchaseRequisition, .intakeRequest]

/-- A row of a child table. `updatedAt` is for a table that has the column, which every `UPDATE` sets. -/
structure ChildRow (κ : Type) where
  id : Nat
  vendorId : Option Nat
  updatedAt : Option Int
  columns : κ

structure Vendor where
  id : Nat
  entityId : Option Nat
  paymentsBlocked : Bool
  status : String
  updatedAt : Int

/-- A `VendorExtractionPrior`. -/
structure Prior where
  id : Nat
  vendorId : Nat
  fieldName : String
  value : String
  correctionCount : Int
  lastAppliedAt : Option Int
  updatedAt : Int

structure Tables (κ : VendorFkChild → Type) where
  vendors : List Vendor
  children : (table : VendorFkChild) → List (ChildRow (κ table))
  priors : List Prior

/-- The tables under their keys: the ids, and one prior for each vendor and field. -/
structure Database (κ : VendorFkChild → Type) extends Tables κ where
  vendorIds : (vendors.map (·.id)).Nodup
  childIds : ∀ table, ((children table).map (·.id)).Nodup
  priorIds : (priors.map (·.id)).Nodup
  priorKeys : (priors.map fun prior => (prior.vendorId, prior.fieldName)).Nodup

structure VendorMergeResult where
  canonicalVendorId : Nat
  duplicateVendorIds : List Nat
  reassigned : List (String × Nat)
  deactivatedVendorIds : List Nat

section Refusals

variable {κ : VendorFkChild → Type}

/-- The requested duplicates once each, in their order. -/
def distinctIds (ids : List Nat) : List Nat := ids.foldl (fun seen d => if d ∈ seen then seen else seen ++ [d]) []

/-- `by_id`. -/
def vendorOf (vendors : List Vendor) (id : Nat) : Option Vendor := vendors.find? fun vendor => vendor.id = id

/-- The `VendorMergeError` of a call, as its status and message. -/
def mergeRefusal (vendors : List Vendor) (canonicalVendorId : Nat) (duplicateVendorIds : List Nat) : Option Raised :=
  let duplicates := (distinctIds duplicateVendorIds).map (vendorOf vendors)
  if canonicalVendorId ∈ duplicateVendorIds then
    some (.http 422 "The canonical vendor cannot also be a duplicate (self-merge).")
  else if duplicates.isEmpty then some (.http 422 "At least one duplicate vendor is required.")
  else match vendorOf vendors canonicalVendorId with
    | none => some (.http 404 "Canonical vendor not found.")
    | some canonical =>
      if duplicates.any Option.isNone then some (.http 404 "A duplicate vendor was not found.")
      else if duplicates.reduceOption.any fun duplicate => duplicate.entityId ≠ canonical.entityId then
        some (.http 422 "Cannot merge vendors that belong to different entities.")
      else if !canonical.paymentsBlocked && duplicates.reduceOption.any (·.paymentsBlocked) then
        some (.http 422 ("Cannot merge a payments-blocked vendor into an unblocked canonical — resolve the block first " ++
          "(see the vendor\x27s screening review) or exclude it from this merge."))
      else none

end Refusals

section Priors

-- `datetime.timestamp`, which rounds to a float.
variable (timestamp : Int → ℚ)

/-- The tuples of `_prior_precedence`. -/
def PriorPrecedence : Type := ℤ ×ₗ ℕ ×ₗ ℚ ×ₗ ℚ ×ₗ ℕ

-- The orders of the components are named so that the least tuple can be computed.
instance : LinearOrder PriorPrecedence :=
  @Prod.Lex.instLinearOrder ℤ _ Int.instLinearOrder <| @Prod.Lex.instLinearOrder ℕ _ Nat.instLinearOrder <|
    @Prod.Lex.instLinearOrder ℚ _ Rat.linearOrder <| @Prod.Lex.instLinearOrder ℚ ℕ Rat.linearOrder Nat.instLinearOrder

/-- `_prior_precedence`. -/
def priorPrecedence (row : Prior) : PriorPrecedence :=
  toLex (-row.correctionCount, toLex (if row.lastAppliedAt.isSome then 0 else 1,
    toLex (row.lastAppliedAt.elim 0 fun applied => -timestamp applied, toLex (-timestamp row.updatedAt, row.id))))

/-- The prior that a field keeps. -/
def winner (canonicalVendorId : Nat) (fieldRows : List Prior) : Option Prior :=
  (fieldRows.find? fun row => row.vendorId = canonicalVendorId).or (fieldRows.argmin (priorPrecedence timestamp))

def losingPriorIds (canonicalVendorId : Nat) (priorRows : List Prior) : List Nat :=
  (Sql.groupBy Prior.fieldName priorRows).flatMap fun byField =>
    (byField.2.filter fun row => (winner timestamp canonicalVendorId byField.2).map (·.id) ≠ some row.id).map (·.id)

end Priors

section Merge

variable {κ : VendorFkChild → Type} (timestamp : Int → ℚ) (canonicalVendorId : Nat) (duplicates : List Nat) (now : Int)

/-- A row of a child table after the `UPDATE`. -/
def ChildRow.reassigned {columns : Type} (row : ChildRow columns) : ChildRow columns :=
  if row.vendorId.any (duplicates.contains ·) then
    { row with vendorId := some canonicalVendorId, updatedAt := row.updatedAt.map fun _ => now }
  else row

def Prior.reassigned (row : Prior) : Prior :=
  if row.vendorId ∈ duplicates then { row with vendorId := canonicalVendorId, updatedAt := now } else row

/-- The soft retirement of a duplicate. -/
def Vendor.retired (vendor : Vendor) : Vendor :=
  if vendor.id ∈ duplicates ∧ vendor.status ≠ "inactive" then { vendor with status := "inactive", updatedAt := now } else vendor

/-- An entry of the counts, where it is not zero. -/
def counted (name : String) (rowcount : Nat) : List (String × Nat) := if rowcount = 0 then [] else [(name, rowcount)]

/-- The priors that the collapse leaves in place. -/
def keptPriors (priors : List Prior) : List Prior :=
  let priorRows := priors.filter fun row => row.vendorId ∈ canonicalVendorId :: duplicates
  priors.filter fun row => row.id ∉ losingPriorIds timestamp canonicalVendorId priorRows

/-- What `merge_vendors` writes. -/
def merged (tables : Tables κ) : Tables κ where
  vendors := tables.vendors.map (Vendor.retired duplicates now)
  children table := (tables.children table).map (ChildRow.reassigned canonicalVendorId duplicates now)
  priors := (keptPriors timestamp canonicalVendorId duplicates tables.priors).map (Prior.reassigned canonicalVendorId duplicates now)

/-- What `merge_vendors` returns. -/
def mergeResult (tables : Tables κ) : VendorMergeResult :=
  let kept := keptPriors timestamp canonicalVendorId duplicates tables.priors
  { canonicalVendorId
    duplicateVendorIds := duplicates
    reassigned := vendorFkChildren.flatMap (fun table =>
        counted table.tablename ((tables.children table).countP fun row => row.vendorId.any (duplicates.contains ·))) ++
      counted "vendor_extraction_priors:dropped" (tables.priors.length - kept.length) ++
      counted "vendor_extraction_priors" (kept.countP fun row => row.vendorId ∈ duplicates)
    deactivatedVendorIds := duplicates.filter fun d => (vendorOf tables.vendors d).any (·.status ≠ "inactive") }

/-- `merge_vendors`. A second prior of a vendor and field is refused by the database, and the session is rolled back. -/
def mergeVendors (tables : Tables κ) (duplicateVendorIds : List Nat) : Tables κ × Except Raised VendorMergeResult :=
  match mergeRefusal tables.vendors canonicalVendorId duplicateVendorIds with
  | some refusal => (tables, .error refusal)
  | none =>
    let duplicates := distinctIds duplicateVendorIds
    let after := merged timestamp canonicalVendorId duplicates now tables
    if (after.priors.map fun prior => (prior.vendorId, prior.fieldName)).Nodup then
      (after, .ok (mergeResult timestamp canonicalVendorId duplicates tables))
    else (tables, .error (.uncaught "IntegrityError"))

end Merge

end Payables.VendorMerge
