import AccountLedger.Table
import AccountLedger.Storage

/-!
The tables of the in-memory store and the operations that read or write them at once.
-/

namespace AccountLedger

/-- Accounts, outbox entries and transaction records by their ids, and the records' ids by
reference number and by idempotency key. -/
structure Tables where
  accounts : Table Uuid Account
  outbox : Table Uuid OutboxEntry
  records : Table Uuid TransactionRecord
  references : Table String Uuid
  keys : Table String Uuid
  deriving DecidableEq

namespace Tables

def empty : Tables := ⟨.empty, .empty, .empty, .empty, .empty⟩

/-! ## Outbox entries -/

/-- The first so many; none for a negative limit. -/
def takeFirst (limit : Int) (entries : List OutboxEntry) : List OutboxEntry :=
  entries.take limit.toNat

def olderFirst (a b : OutboxEntry) : Bool := a.createdAt.le b.createdAt

def compareAttempts : Option Timestamp → Option Timestamp → Ordering
  | none, none => .eq
  | none, some _ => .lt
  | some _, none => .gt
  | some a, some b => a.compare b

/-- Never attempted ones first, then by the time of the last attempt, then by age. -/
def lessAttemptedFirst (a b : OutboxEntry) : Bool :=
  (compareAttempts a.lastAttemptAt b.lastAttemptAt).then (a.createdAt.compare b.createdAt) != .gt

/-- All entries, oldest first. -/
def entries (tables : Tables) : List OutboxEntry := tables.outbox.rows.mergeSort olderFirst

def listByStatus (tables : Tables) (status : DeliveryStatus) (limit : Int) : List OutboxEntry :=
  takeFirst limit
    ((tables.outbox.rows.filter fun entry => entry.status == status).mergeSort lessAttemptedFirst)

/-- Whether an entry was created before a time and nobody has tried to deliver it. -/
def isStale (createdBefore : Timestamp) (entry : OutboxEntry) : Bool :=
  entry.status == .pending && entry.attempts == 0 && entry.createdAt.lt createdBefore

def listStale (tables : Tables) (createdBefore : Timestamp) (limit : Int) : List OutboxEntry :=
  takeFirst limit ((tables.outbox.rows.filter (isStale createdBefore)).mergeSort olderFirst)

/-- Store the outcome of a delivery attempt. An entry that was sent stays so. -/
def recordAttempt (tables : Tables) (id : Uuid) (status : DeliveryStatus) (time : Timestamp) :
    Except OutboxError OutboxEntry × Tables :=
  match tables.outbox.find? id with
  | none => (.error (.notFound id), tables)
  | some entry =>
    let status := if entry.status = .sent then .sent else status
    let updated := entry.attempted status time
    (.ok updated, { tables with outbox := tables.outbox.put id updated })

/-! ## Transaction records -/

/-- Whether a key is given and in use. -/
def keyInUse (tables : Tables) (key : Option String) : Option String :=
  key.filter fun key => (tables.keys.find? key).isSome

def insertRecord (tables : Tables) (record : TransactionRecord) :
    Except TransactionStoreError Unit × Tables :=
  if (tables.references.find? record.reference).isSome then
    (.error (.duplicateReference record.reference), tables)
  else match tables.keyInUse record.idempotencyKey with
    | some key => (.error (.duplicateIdempotencyKey key), tables)
    | none =>
      (.ok (),
        { tables with
          keys := match record.idempotencyKey with
            | some key => tables.keys.put key record.id
            | none => tables.keys
          references := tables.references.put record.reference record.id
          records := tables.records.put record.id record })

/-- Overwrite what may change of a stored record. -/
def updateRecord (tables : Tables) (record : TransactionRecord) :
    Except TransactionStoreError Unit × Tables :=
  match tables.records.find? record.id with
  | none => (.error (.notFound record.id), tables)
  | some stored =>
    let updated : TransactionRecord :=
      { stored with status := record.status, failureReason := record.failureReason
                    attempts := record.attempts, updatedAt := record.updatedAt }
    (.ok (), { tables with records := tables.records.put record.id updated })

def findByReference (tables : Tables) (reference : String) : Option TransactionRecord :=
  (tables.references.find? reference).bind tables.records.find?

def findByKey (tables : Tables) (key : String) : Option TransactionRecord :=
  (tables.keys.find? key).bind tables.records.find?

/-! ## Accounts -/

/-- Write an account past all locks, as an outside repair would. Its revision is raised above the
one stored. -/
def overwriteAccount (tables : Tables) (account : Account) : Tables :=
  let revision := match tables.accounts.find? account.id with
    | some current => max account.revision (current.revision + 1)
    | none => account.revision
  { tables with accounts := tables.accounts.put account.id { account with revision } }

/-- Answer a request at once. -/
def answer : (request : TableRequest) → Tables → request.Answer × Tables
  | .findAccount id, tables => (.ok (tables.accounts.find? id), tables)
  | .findEntry id, tables => (.ok (tables.outbox.find? id), tables)
  | .listByStatus status limit, tables => (.ok (tables.listByStatus status limit), tables)
  | .listStale createdBefore limit, tables => (.ok (tables.listStale createdBefore limit), tables)
  | .recordAttempt id status time, tables => tables.recordAttempt id status time
  | .insertRecord record, tables => tables.insertRecord record
  | .updateRecord record, tables => tables.updateRecord record
  | .findByReference reference, tables => (.ok (tables.findByReference reference), tables)
  | .findByKey key, tables => (.ok (tables.findByKey key), tables)

end Tables

end AccountLedger
