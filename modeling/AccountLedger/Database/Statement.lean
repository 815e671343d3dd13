import AccountLedger.Account
import AccountLedger.Database.Value
import AccountLedger.Outbox.Entry
import AccountLedger.Transaction.Record

/-!
The statements that the database is sent: what each is for, its text and its parameters.
-/

namespace AccountLedger

inductive Statement where
  | ping
  | tableExists (table : String)
  | setLockTimeout (timeoutMs : Nat)
  | findAccount (id : Uuid)
  | lockAccount (id : Uuid)
  | readRevision (id : Uuid)
  | insertAccount (account : Account)
  | updateAccount (account : Account)
  | insertEntry (entry : OutboxEntry)
  | findEntry (id : Uuid)
  | listByStatus (status : DeliveryStatus) (limit : Int)
  | listStale (createdBefore : Timestamp) (limit : Int)
  | recordAttempt (id : Uuid) (status : DeliveryStatus) (time : Timestamp)
  | insertRecord (record : TransactionRecord)
  | updateRecord (record : TransactionRecord)
  | findByReference (reference : String)
  | findByKey (key : String)
  deriving DecidableEq

namespace Statement

def accountColumns : String :=
  "id, owner_id, balance, currency, overdraft_limit, revision, status, created_at, updated_at"

def entryColumns : String :=
  "id, aggregate_id, event_type, topic, payload::text AS payload, status, attempts, " ++
    "created_at, last_attempt_at"

def recordColumns : String :=
  "id, account_id, target_account_id, amount, transaction_type, reference_number, status, " ++
    "failure_reason, idempotency_key, attempts, created_at, updated_at"

/-- The text of a statement, with numbered places for its parameters. An account is only updated
in the revision that it was read in; a delivery attempt leaves an entry that was sent as it is. -/
def text : Statement → String
  | .ping => "SELECT 1"
  | .tableExists _ =>
    "SELECT EXISTS ( SELECT 1 FROM information_schema.tables " ++
      "WHERE table_schema = 'public' AND table_name = $1 )"
  | .setLockTimeout _ => "SELECT set_config('lock_timeout', $1, true)"
  | .findAccount _ => s!"SELECT {accountColumns} FROM accounts WHERE id = $1"
  | .lockAccount _ => s!"SELECT {accountColumns} FROM accounts WHERE id = $1 FOR UPDATE"
  | .readRevision _ => "SELECT revision FROM accounts WHERE id = $1"
  | .insertAccount _ =>
    "INSERT INTO accounts ( id, owner_id, balance, currency, overdraft_limit, " ++
      "revision, status, created_at, updated_at ) VALUES ($1, $2, $3, $4, $5, $6, $7, $8, $9)"
  | .updateAccount _ =>
    "UPDATE accounts SET balance = $2, status = $3, revision = revision + 1, updated_at = $4 " ++
      "WHERE id = $1 AND revision = $5"
  | .insertEntry _ =>
    "INSERT INTO outbox_entries ( id, aggregate_id, event_type, topic, payload, " ++
      "status, attempts, created_at, last_attempt_at ) " ++
      "VALUES ($1, $2, $3, $4, $5::jsonb, $6, $7, $8, $9)"
  | .findEntry _ => s!"SELECT {entryColumns} FROM outbox_entries WHERE id = $1"
  | .listByStatus .. =>
    s!"SELECT {entryColumns} FROM outbox_entries WHERE status = $1 " ++
      "ORDER BY last_attempt_at ASC NULLS FIRST, created_at ASC LIMIT $2"
  | .listStale .. =>
    s!"SELECT {entryColumns} FROM outbox_entries " ++
      "WHERE status = 'PENDING' AND attempts = 0 AND created_at < $1 " ++
      "ORDER BY created_at ASC LIMIT $2"
  | .recordAttempt .. =>
    "UPDATE outbox_entries SET status = CASE WHEN status = 'SENT' THEN 'SENT' ELSE $2 END, " ++
      s!"attempts = attempts + 1, last_attempt_at = $3 WHERE id = $1 RETURNING {entryColumns}"
  | .insertRecord _ =>
    "INSERT INTO ledger_transactions ( id, account_id, target_account_id, amount, " ++
      "transaction_type, reference_number, status, failure_reason, idempotency_key, " ++
      "attempts, created_at, updated_at ) " ++
      "VALUES ($1, $2, $3, $4, $5, $6, $7, $8, $9, $10, $11, $12)"
  | .updateRecord _ =>
    "UPDATE ledger_transactions SET status = $2, failure_reason = $3, attempts = $4, " ++
      "updated_at = $5 WHERE id = $1"
  | .findByReference _ =>
    s!"SELECT {recordColumns} FROM ledger_transactions WHERE reference_number = $1"
  | .findByKey _ =>
    s!"SELECT {recordColumns} FROM ledger_transactions WHERE idempotency_key = $1"

def parameters : Statement → List SqlValue
  | .ping => []
  | .tableExists table => [.text table]
  | .setLockTimeout timeoutMs => [.text s!"{timeoutMs}ms"]
  | .findAccount id => [.uuid id]
  | .lockAccount id => [.uuid id]
  | .readRevision id => [.uuid id]
  | .insertAccount account =>
    [.uuid account.id, .uuid account.owner, .ofDecimal account.balance.value,
      .text account.currency, .ofDecimal account.overdraftLimit, .integer account.revision,
      .text account.status.name, .ofTime account.createdAt, .ofTime account.updatedAt]
  | .updateAccount account =>
    [.uuid account.id, .ofDecimal account.balance.value, .text account.status.name,
      .ofTime account.updatedAt, .integer account.revision]
  | .insertEntry entry =>
    [.uuid entry.id, .uuid entry.aggregate, .text entry.eventKind, .text entry.topic,
      .text entry.payload, .text entry.status.name, .integer entry.attempts,
      .ofTime entry.createdAt, .ofOption .ofTime entry.lastAttemptAt]
  | .findEntry id => [.uuid id]
  | .listByStatus status limit => [.text status.name, .integer limit]
  | .listStale createdBefore limit => [.ofTime createdBefore, .integer limit]
  | .recordAttempt id status time => [.uuid id, .text status.name, .ofTime time]
  | .insertRecord record =>
    [.uuid record.id, .uuid record.account, .ofOption .uuid record.target,
      .ofDecimal record.amount.value, .text record.kind.name, .text record.reference,
      .text record.status.name, .ofOption .text record.failureReason,
      .ofOption .text record.idempotencyKey, .integer record.attempts,
      .ofTime record.createdAt, .ofTime record.updatedAt]
  | .updateRecord record =>
    [.uuid record.id, .text record.status.name, .ofOption .text record.failureReason,
      .integer record.attempts, .ofTime record.updatedAt]
  | .findByReference reference => [.text reference]
  | .findByKey key => [.text key]

/-- Whether the statement changes rows. -/
def changesRows : Statement → Bool
  | .insertAccount _ => true
  | .updateAccount _ => true
  | .insertEntry _ => true
  | .recordAttempt .. => true
  | .insertRecord _ => true
  | .updateRecord _ => true
  | _ => false

end Statement

end AccountLedger
