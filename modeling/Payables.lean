import Payables.Adapters.FailureReasons
import Payables.Adapters.Polling
import Payables.Agents.OrderLinks
import Payables.Approval.ChainRuns
import Payables.Approval.Escalation
import Payables.Cards.DeliveryOrder
import Payables.Cards.MoneyRecords
import Payables.Cards.OneRail
import Payables.Erp.PushRuns
import Payables.Erp.WebhookDedup
import Payables.Extraction.JobRuns
import Payables.Payments.CreditConservation
import Payables.Payments.FxLegs
import Payables.Payments.InDoubt
import Payables.Payments.Judgements
import Payables.Payments.MakerChecker
import Payables.Payments.PaidInvoices
import Payables.Payments.Queue
import Payables.Payments.RetryLineage
import Payables.Workflow.ApprovedContent
import Payables.Workflow.ChainCoverage
import Payables.Workflow.Reopening
import Payables.Workflow.ReviewRounds
import Payables.Workflow.RollupAgreement
import Payables.Webhooks.Discipline
import Payables.Recurring.ExactSchedule
import Payables.Workflow.BulkAtomicity
import Payables.EInvoice.Conformance
import Payables.EInvoice.Dialects
import Payables.Discounts.DecidedOnce
import Payables.Discounts.Ladder
import Payables.Discounts.OneCapture
import Payables.Discounts.SpendsWithin
import Payables.Exceptions.DecidedStay
import Payables.Expenses.ApprovedAsJudged
import Payables.Expenses.LinkedOneToOne
import Payables.Procurement.BuysOnce
import Payables.Procurement.DemandCounted
import Payables.Tax.FiledOnce
import Payables.Billing.Tiling
import Payables.Billing.ChangesKept
import Payables.Billing.Dunning
import Payables.Billing.GraceHonoured
import Payables.Approval.MoneyGates
import Payables.Payments.MinorUnits
import Payables.Banking.Iban
import Payables.Banking.Identity
import Payables.Statements.NumbersFirst
import Payables.Statements.NothingLost
import Payables.Amounts.ColumnsAndSigns
import Payables.Amounts.ReadBack
import Payables.Amounts.MalformedTokens
import Payables.Amounts.Agreement
import Payables.Procurement.GoodsAccepted
import Payables.Recurring.Lattice
import Payables.Extraction.AutoApproval
import Payables.Extraction.DuplicatesFound
import Payables.Imports.ImportedAgain
import Payables.Vendors.MergeLosesNothing
import Payables.EInvoice.GuardsAgree
import Payables.Payments.FileDecodes
import Payables.Cash.Conserved
import Payables.Signing.TokensBound
import Payables.Signing.ApprovalVerified
import Payables.Extraction.RecodeTruth
import Payables.Audit.NeverSkips
import Payables.Workflow.LockedRate
