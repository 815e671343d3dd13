import AccountLedger.Account
import AccountLedger.Amount
import AccountLedger.Binary64
import AccountLedger.Daemon
import AccountLedger.Database.Connection
import AccountLedger.Database.Error
import AccountLedger.Database.Rows
import AccountLedger.Database.Schema
import AccountLedger.Database.Statement
import AccountLedger.Database.Tables
import AccountLedger.Database.UnitOfWork
import AccountLedger.Database.Value
import AccountLedger.Decimal
import AccountLedger.Decimal.Reader
import AccountLedger.Digits
import AccountLedger.Downstream
import AccountLedger.Event
import AccountLedger.Failure
import AccountLedger.Http.Address
import AccountLedger.Http.Call
import AccountLedger.Http.Exchange
import AccountLedger.Http.Header
import AccountLedger.Http.LedgerSite
import AccountLedger.Http.MediaType
import AccountLedger.Http.Message
import AccountLedger.Http.Path
import AccountLedger.Http.Site
import AccountLedger.Http.TransactionSite
import AccountLedger.Http.Url
import AccountLedger.Json
import AccountLedger.Json.Access
import AccountLedger.Json.Decoder
import AccountLedger.Json.Number
import AccountLedger.Json.Reader
import AccountLedger.Ledger.Action
import AccountLedger.Ledger.Error
import AccountLedger.Ledger.Query
import AccountLedger.Ledger.Remote
import AccountLedger.Ledger.Service
import AccountLedger.Lock.Acquire
import AccountLedger.Lock.Held
import AccountLedger.Lock.Order
import AccountLedger.Lock.Table
import AccountLedger.Log.Filter
import AccountLedger.Log.Line
import AccountLedger.Main
import AccountLedger.Memory.Store
import AccountLedger.Memory.Tables
import AccountLedger.Memory.UnitOfWork
import AccountLedger.Outbox.Broker
import AccountLedger.Outbox.Delivery
import AccountLedger.Outbox.Entry
import AccountLedger.Outbox.Error
import AccountLedger.Program
import AccountLedger.Proofs.Account.Admission
import AccountLedger.Proofs.Account.AmountText
import AccountLedger.Proofs.Account.Available
import AccountLedger.Proofs.Account.Balance
import AccountLedger.Proofs.Account.Conservation
import AccountLedger.Proofs.Account.Funds
import AccountLedger.Proofs.Account.Movement
import AccountLedger.Proofs.Account.Row
import AccountLedger.Proofs.Database.CommitDiscipline
import AccountLedger.Proofs.Database.Deployed
import AccountLedger.Proofs.Database.Deployment
import AccountLedger.Proofs.Database.LockProtocol
import AccountLedger.Proofs.Database.Preparing
import AccountLedger.Proofs.Database.Remembering
import AccountLedger.Proofs.Decimal.Dropping
import AccountLedger.Proofs.Decimal.Exponent
import AccountLedger.Proofs.Decimal.Nearest
import AccountLedger.Proofs.Decimal.Rounding
import AccountLedger.Proofs.Decimal.Scanning
import AccountLedger.Proofs.Decimal.Sum
import AccountLedger.Proofs.Decimal.Value
import AccountLedger.Proofs.Delivery.Ahead
import AccountLedger.Proofs.Delivery.Attempt
import AccountLedger.Proofs.Delivery.Diary
import AccountLedger.Proofs.Delivery.Following
import AccountLedger.Proofs.Delivery.History
import AccountLedger.Proofs.Delivery.Lifecycle
import AccountLedger.Proofs.Delivery.Order
import AccountLedger.Proofs.Delivery.Postroom
import AccountLedger.Proofs.Delivery.Rotation
import AccountLedger.Proofs.Delivery.Round
import AccountLedger.Proofs.Delivery.Threshold
import AccountLedger.Proofs.Ensures
import AccountLedger.Proofs.Event.Payload
import AccountLedger.Proofs.Http.Classification
import AccountLedger.Proofs.Http.Interchangeable
import AccountLedger.Proofs.Http.LedgerCall
import AccountLedger.Proofs.Http.Url
import AccountLedger.Proofs.Interleaving.Carrying
import AccountLedger.Proofs.Interleaving.Deadlock
import AccountLedger.Proofs.Interleaving.Invariant
import AccountLedger.Proofs.Interleaving.LockFailure
import AccountLedger.Proofs.Interleaving.Operation
import AccountLedger.Proofs.Interleaving.Pool
import AccountLedger.Proofs.Interleaving.Proceeding
import AccountLedger.Proofs.Interleaving.Progress
import AccountLedger.Proofs.Interleaving.Standing
import AccountLedger.Proofs.Json.Record
import AccountLedger.Proofs.Json.Text
import AccountLedger.Proofs.Ledger.Alone
import AccountLedger.Proofs.Ledger.Bearing
import AccountLedger.Proofs.Ledger.Calls
import AccountLedger.Proofs.Ledger.Change
import AccountLedger.Proofs.Ledger.Conduct
import AccountLedger.Proofs.Ledger.Discipline
import AccountLedger.Proofs.Ledger.ExternalWrites
import AccountLedger.Proofs.Ledger.Invariant
import AccountLedger.Proofs.Ledger.Log
import AccountLedger.Proofs.Ledger.Movement
import AccountLedger.Proofs.Ledger.Office
import AccountLedger.Proofs.Ledger.Redelivery
import AccountLedger.Proofs.Ledger.Register
import AccountLedger.Proofs.Ledger.Revisions
import AccountLedger.Proofs.Ledger.Rows
import AccountLedger.Proofs.Ledger.Schedule
import AccountLedger.Proofs.Ledger.Serializable
import AccountLedger.Proofs.Ledger.Settling
import AccountLedger.Proofs.Ledger.Shadow
import AccountLedger.Proofs.Ledger.Solitary
import AccountLedger.Proofs.Ledger.Tally
import AccountLedger.Proofs.Ledger.Transfer
import AccountLedger.Proofs.Ledger.View
import AccountLedger.Proofs.Lock.Desk
import AccountLedger.Proofs.Lock.Grip
import AccountLedger.Proofs.Lock.Holding
import AccountLedger.Proofs.Lock.MutualExclusion
import AccountLedger.Proofs.Lock.Permit
import AccountLedger.Proofs.Lock.SlotUse
import AccountLedger.Proofs.Lock.Sound
import AccountLedger.Proofs.Lock.Uncontended
import AccountLedger.Proofs.Lock.Waiting
import AccountLedger.Proofs.Memory.Alike
import AccountLedger.Proofs.Memory.Commit
import AccountLedger.Proofs.Memory.Course
import AccountLedger.Proofs.Memory.Insertion
import AccountLedger.Proofs.Memory.ReadYourWrites
import AccountLedger.Proofs.Memory.Reading
import AccountLedger.Proofs.Memory.RevisionGuard
import AccountLedger.Proofs.Memory.Serving
import AccountLedger.Proofs.Memory.Units
import AccountLedger.Proofs.Sorting
import AccountLedger.Proofs.Table
import AccountLedger.Proofs.Text.Decimal
import AccountLedger.Proofs.Text.Digits
import AccountLedger.Proofs.Text.Uuid
import AccountLedger.Proofs.Text.WrittenNumber
import AccountLedger.Proofs.Timestamp.Calendar
import AccountLedger.Proofs.Timestamp.Instant
import AccountLedger.Proofs.Timestamp.Text
import AccountLedger.Proofs.Transaction.Astray
import AccountLedger.Proofs.Transaction.Attempts
import AccountLedger.Proofs.Transaction.Branch
import AccountLedger.Proofs.Transaction.Custody
import AccountLedger.Proofs.Transaction.Desk
import AccountLedger.Proofs.Transaction.Filing
import AccountLedger.Proofs.Transaction.Idempotent
import AccountLedger.Proofs.Transaction.Letters
import AccountLedger.Proofs.Transaction.Lookups
import AccountLedger.Proofs.Transaction.Outpost
import AccountLedger.Proofs.Transaction.Patience
import AccountLedger.Proofs.Transaction.Recording
import AccountLedger.Proofs.Transaction.Records
import AccountLedger.Proofs.Transaction.Reply
import AccountLedger.Proofs.Transaction.Retry
import AccountLedger.Proofs.Transaction.Verdict
import AccountLedger.Proofs.Transcript
import AccountLedger.Refusal
import AccountLedger.Rehearsal.Binding
import AccountLedger.Rehearsal.DatabaseSession
import AccountLedger.Rehearsal.DatabaseStage
import AccountLedger.Rehearsal.Draft
import AccountLedger.Rehearsal.LockSession
import AccountLedger.Rehearsal.Locks
import AccountLedger.Rehearsal.Named
import AccountLedger.Rehearsal.Redaction
import AccountLedger.Rehearsal.Request
import AccountLedger.Rehearsal.Script
import AccountLedger.Rehearsal.Server
import AccountLedger.Rehearsal.Session
import AccountLedger.Rehearsal.Stage
import AccountLedger.Rehearsal.Supply
import AccountLedger.Rehearsal.Timeline
import AccountLedger.Report
import AccountLedger.ServiceError
import AccountLedger.Settings
import AccountLedger.Storage
import AccountLedger.Table
import AccountLedger.Text.Blank
import AccountLedger.Timestamp
import AccountLedger.Timestamp.Reader
import AccountLedger.Transaction.Error
import AccountLedger.Transaction.Orchestration
import AccountLedger.Transaction.Record
import AccountLedger.Transaction.Request
import AccountLedger.Uuid
