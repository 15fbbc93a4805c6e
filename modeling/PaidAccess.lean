import PaidAccess.Json.Writer
import PaidAccess.Calendar.Months
import PaidAccess.Reset
import PaidAccess.Log.Pipeline
import PaidAccess.Settings.Environment
import PaidAccess.Http.Server
import PaidAccess.Socket
import PaidAccess.Startup
import PaidAccess.Calendar.IsoForms
import PaidAccess.Http.Target
import PaidAccess.Value.Equality
import PaidAccess.Number.Amount
import PaidAccess.Provider.Tables
import PaidAccess.Proofs.Validation.Checked
import PaidAccess.Proofs.Store.OrderedMap
import PaidAccess.Proofs.Calendar.Order
import PaidAccess.Proofs.Service.Evaluation
import PaidAccess.Proofs.Provider.Times
import PaidAccess.Proofs.Usage.Windows
import PaidAccess.Proofs.Service.Sample
import PaidAccess.Proofs.Store.Keyed
import PaidAccess.Proofs.Reconciliation.Effect
import PaidAccess.Proofs.Store.Search
import PaidAccess.Proofs.Credits.Effect
import PaidAccess.Proofs.Credits.Day
import PaidAccess.Proofs.Credits.Quota
import PaidAccess.Proofs.Reconciliation.Resolution
import PaidAccess.Proofs.Reconciliation.Activation
import PaidAccess.Proofs.Reconciliation.Redelivery
import PaidAccess.Proofs.Reconciliation.Ownership
import PaidAccess.Proofs.Reconciliation.DeliveryOrder
import PaidAccess.Proofs.Calendar.Epoch
import PaidAccess.Proofs.Provider.Statement
import PaidAccess.Proofs.Reconciliation.Triggers
import PaidAccess.Proofs.Reconciliation.Landing
import PaidAccess.Proofs.Reconciliation.Takeover
import PaidAccess.Proofs.Provider.Invoice
import PaidAccess.Proofs.Provider.Period
import PaidAccess.Proofs.Reconciliation.Renewal
import PaidAccess.Proofs.Service.Reachable
import PaidAccess.Proofs.Credits.FreshStart
import PaidAccess.Proofs.Service.Core
import PaidAccess.Proofs.Service.Interruption
import PaidAccess.Proofs.Reconciliation.Atomicity
import PaidAccess.Proofs.Reconciliation.CancellationRepair
import PaidAccess.Proofs.Reconciliation.Repair
import PaidAccess.Proofs.Usage.Conservation
import PaidAccess.Proofs.Credits.Summary
import PaidAccess.Proofs.Reconciliation.Simulation
import PaidAccess.Proofs.Reconciliation.Announcement
import PaidAccess.Proofs.Store.Isolation
import PaidAccess.Proofs.Store.Steps
import PaidAccess.Proofs.Number.Amount
import PaidAccess.Proofs.Store.History
import PaidAccess.Proofs.Service.Isolation
import PaidAccess.Proofs.Provider.Blame
import PaidAccess.Proofs.Service.Blame
import PaidAccess.Proofs.Service.Untouched
import PaidAccess.Proofs.Http.Answer
import PaidAccess.Proofs.Http.Delivery
import PaidAccess.Proofs.Store.Agreement
import PaidAccess.Proofs.Service.Offline
import PaidAccess.Proofs.Credits.Spend
import PaidAccess.Proofs.Credits.DailyJob
import PaidAccess.Proofs.Credits.JobFailures
import PaidAccess.Proofs.Service.Twins
import PaidAccess.Proofs.Http.Sender
import PaidAccess.Proofs.Http.Account
import PaidAccess.Proofs.Reconciliation.Imprint
import PaidAccess.Proofs.Service.Trace
import PaidAccess.Proofs.Service.Session
import PaidAccess.Proofs.Service.Moves
import PaidAccess.Proofs.Service.Customers
import PaidAccess.Proofs.Service.Checkouts
import PaidAccess.Proofs.Service.Subscriptions
import PaidAccess.Proofs.Http.Portal
import PaidAccess.Proofs.Value.Fields
import PaidAccess.Proofs.Http.RequestId
import PaidAccess.Proofs.Log.Redaction
import PaidAccess.Proofs.Connections.Ledger
import PaidAccess.Proofs.Connections.Traffic
import PaidAccess.Proofs.Connections.Tracking
import PaidAccess.Proofs.Calendar.Iso
import PaidAccess.Proofs.Remote.Rows
import PaidAccess.Proofs.Remote.Contents
import PaidAccess.Proofs.Remote.Edits
import PaidAccess.Proofs.Remote.Accounts
import PaidAccess.Proofs.Remote.Counters
import PaidAccess.Proofs.Remote.Refinement
import PaidAccess.Proofs.Remote.Replies
import PaidAccess.Proofs.Calendar.Months
import PaidAccess.Proofs.Calendar.Expressible
import PaidAccess.Proofs.Remote.Payloads
import PaidAccess.Proofs.Provider.Representation
import PaidAccess.Proofs.Service.Restatement
