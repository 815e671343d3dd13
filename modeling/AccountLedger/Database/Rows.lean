import AccountLedger.Database.Value
import AccountLedger.Ledger.Error
import AccountLedger.Outbox.Entry
import AccountLedger.Outbox.Error
import AccountLedger.Account
import AccountLedger.Transaction.Error
import AccountLedger.Transaction.Record

/-!
Accounts, outbox entries and transaction records from their rows. Of several faults in one row the
first that is met is reported, so the order in which columns are read matters.
-/

namespace AccountLedger

namespace Account

def ofRow (row : Row) : Except LedgerError Account := do
  let column {α : Type} (read? : SqlValue → Option α) (name : String) : Except LedgerError α :=
    (row.column read? name).mapError .database
  let status ← (AccountStatus.ofName (← column SqlValue.text? "status")).mapError .corruptRow
  return {
    id := ← column SqlValue.uuid? "id"
    owner := ← column SqlValue.uuid? "owner_id"
    balance := ⟨← column SqlValue.numeric? "balance"⟩
    currency := ← column SqlValue.text? "currency"
    overdraftLimit := ← column SqlValue.numeric? "overdraft_limit"
    revision := ← column SqlValue.integer? "revision"
    status
    createdAt := ← column SqlValue.time? "created_at"
    updatedAt := ← column SqlValue.time? "updated_at" }

end Account

namespace OutboxEntry

def ofRow (row : Row) : Except OutboxError OutboxEntry := do
  let column {α : Type} (read? : SqlValue → Option α) (name : String) : Except OutboxError α :=
    (row.column read? name).mapError .database
  let status ← column SqlValue.text? "status"
  return {
    id := ← column SqlValue.uuid? "id"
    aggregate := ← column SqlValue.uuid? "aggregate_id"
    eventKind := ← column SqlValue.text? "event_type"
    topic := ← column SqlValue.text? "topic"
    payload := ← column SqlValue.text? "payload"
    status := ← (DeliveryStatus.ofName status).mapError .corruptRow
    attempts := ← column SqlValue.integer? "attempts"
    createdAt := ← column SqlValue.time? "created_at"
    lastAttemptAt := row.nullable SqlValue.time? "last_attempt_at" }

end OutboxEntry

namespace TransactionRecord

def ofRow (row : Row) : Except TransactionStoreError TransactionRecord := do
  let column {α : Type} (read? : SqlValue → Option α) (name : String) :
      Except TransactionStoreError α :=
    (row.column read? name).mapError .database
  let amount ← column SqlValue.numeric? "amount"
  let kind ← column SqlValue.text? "transaction_type"
  let status ← column SqlValue.text? "status"
  return {
    id := ← column SqlValue.uuid? "id"
    account := ← column SqlValue.uuid? "account_id"
    target := row.nullable SqlValue.uuid? "target_account_id"
    amount := ← (Amount.ofDecimal amount).mapError fun error => .corruptRow error.message
    kind := ← (TransactionKind.ofName kind).mapError .corruptRow
    reference := ← column SqlValue.text? "reference_number"
    status := ← (TransactionStatus.ofName status).mapError .corruptRow
    failureReason := row.nullable SqlValue.text? "failure_reason"
    idempotencyKey := row.nullable SqlValue.text? "idempotency_key"
    attempts := ← column SqlValue.integer? "attempts"
    createdAt := ← column SqlValue.time? "created_at"
    updatedAt := ← column SqlValue.time? "updated_at" }

end TransactionRecord

end AccountLedger
