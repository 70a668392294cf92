import ShopTabs.Authority
import ShopTabs.Billing.Selection
import ShopTabs.Billing.Window
import ShopTabs.Calendar.Day
import ShopTabs.Calendar.Instant
import ShopTabs.Calendar.Reading
import ShopTabs.Calendar.TimeOfDay
import ShopTabs.Calendar.Zone
import ShopTabs.Command
import ShopTabs.Failure
import ShopTabs.Form.Finding
import ShopTabs.Form.Printer
import ShopTabs.Form.Scalar
import ShopTabs.Form.Tab
import ShopTabs.Http.Exchange
import ShopTabs.Http.Path
import ShopTabs.Http.Request
import ShopTabs.Http.Response
import ShopTabs.Http.Route
import ShopTabs.Json.Encoding
import ShopTabs.Json.Printer
import ShopTabs.Json.Reader
import ShopTabs.Json.Value
import ShopTabs.Ledger.Batch
import ShopTabs.Ledger.Catalog
import ShopTabs.Ledger.Line
import ShopTabs.Ledger.Order
import ShopTabs.Main
import ShopTabs.Membership
import ShopTabs.Number.Binary64
import ShopTabs.Number.Decimal
import ShopTabs.Number.Money
import ShopTabs.Number.Power
import ShopTabs.Number.Quantity
import ShopTabs.Number.Rounding
import ShopTabs.Overview
import ShopTabs.Seed
import ShopTabs.Service.Access
import ShopTabs.Service.Billing
import ShopTabs.Service.Lifecycle
import ShopTabs.Service.Operation
import ShopTabs.Session
import ShopTabs.Settings
import ShopTabs.Store.Basic
import ShopTabs.Store.Document
import ShopTabs.Store.Engine
import ShopTabs.Store.Row
import ShopTabs.Store.Table
import ShopTabs.Tab.Config
import ShopTabs.Text.Blank
import ShopTabs.Text.CaseTable
import ShopTabs.Text.Digit
import ShopTabs.Text.LowerCase
import ShopTabs.Text.Pieces
import ShopTabs.Transaction
import ShopTabs.Proofs.Guard
import ShopTabs.Proofs.Membership
import ShopTabs.Proofs.Service.Access
import ShopTabs.Proofs.Billing.Selection
import ShopTabs.Proofs.Service.Effect
import ShopTabs.Proofs.Form.Accepted
import ShopTabs.Proofs.Form.Amount
import ShopTabs.Proofs.Form.Settings
import ShopTabs.Proofs.Ledger.Write
import ShopTabs.Proofs.Service.History
import ShopTabs.Proofs.Billing.Account
import ShopTabs.Proofs.Billing.Terms
import ShopTabs.Proofs.Billing.Current
import ShopTabs.Proofs.Billing.Succession
import ShopTabs.Proofs.Billing.Acceptance
import ShopTabs.Proofs.Billing.SameDay
import ShopTabs.Proofs.Billing.Overlap
import ShopTabs.Proofs.Ledger.NonNegative
import ShopTabs.Proofs.Ledger.Conservation
import ShopTabs.Proofs.Billing.Frozen
import ShopTabs.Proofs.Billing.Sequence
import ShopTabs.Proofs.Service.Rows
import ShopTabs.Proofs.Service.Isolation
import ShopTabs.Proofs.Service.Rights
import ShopTabs.Proofs.Service.Closing
import ShopTabs.Proofs.Service.Proposal
import ShopTabs.Proofs.Service.Life
import ShopTabs.Proofs.Service.Schema
import ShopTabs.Proofs.Service.Overview
import ShopTabs.Proofs.Service.Audit
import ShopTabs.Proofs.Text.Digit
import ShopTabs.Proofs.Calendar.Day
import ShopTabs.Proofs.Calendar.Reading
import ShopTabs.Proofs.Number.Decimal
import ShopTabs.Proofs.Form.Resubmission
import ShopTabs.Proofs.Service.Readmission
import ShopTabs.Proofs.Ledger.Renumber
import ShopTabs.Proofs.Service.Alike
import ShopTabs.Proofs.Service.Matching
import ShopTabs.Proofs.Service.Locality
import ShopTabs.Proofs.Service.Listing
import ShopTabs.Proofs.Billing.Outcome
import ShopTabs.Proofs.Billing.CatchUp
import ShopTabs.Proofs.Http.Answer
import ShopTabs.Proofs.Http.Sliding
import ShopTabs.Proofs.Service.Replacement
import ShopTabs.Proofs.Ledger.Settlement
import ShopTabs.Proofs.Billing.Removal
import ShopTabs.Proofs.Billing.Batching
import ShopTabs.Proofs.Billing.Reversal
import ShopTabs.Proofs.Text.LowerCase
import ShopTabs.Proofs.Form.Email
import ShopTabs.Proofs.Form.Refusal
import ShopTabs.Proofs.Service.Relisting
import ShopTabs.Proofs.Service.Opening
import ShopTabs.Proofs.Service.Unknown
import ShopTabs.Proofs.Seed
import ShopTabs.Proofs.Calendar.Zone
import ShopTabs.Proofs.Calendar.Summer
import ShopTabs.Proofs.Http.BillingDay
