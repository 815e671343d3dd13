import AccountLedger.Database.Connection
import AccountLedger.Database.Rows

/-!
The operations on single tables of the database.
-/

namespace AccountLedger

/-- The code with which the server reports a value that must be unique and is not. -/
def uniqueViolation : String := "23505"

/-- Whether a name contains another one. -/
def mentions (name part : String) : Bool := (name.splitOn part).length > 1

/-- What the server's error means for a record that was to be inserted. -/
def TransactionRecord.insertError (record : TransactionRecord) :
    DatabaseError → TransactionStoreError
  | .server error =>
    if error.code = uniqueViolation then
      if mentions (error.constraint.getD "") "idempotency" then
        .duplicateIdempotencyKey (record.idempotencyKey.getD "")
      else .duplicateReference record.reference
    else .database (.server error)
  | error => .database error

namespace TableRequest

def inDatabase : (request : TableRequest) → Program database request.Answer
  | .findAccount id => ((Statement.findAccount id).first? LedgerError.database Account.ofRow).run
  | .findEntry id => ((Statement.findEntry id).first? OutboxError.database OutboxEntry.ofRow).run
  | .listByStatus status limit =>
    ((Statement.listByStatus status limit).all OutboxError.database OutboxEntry.ofRow).run
  | .listStale createdBefore limit =>
    ((Statement.listStale createdBefore limit).all OutboxError.database OutboxEntry.ofRow).run
  | .recordAttempt id status time => do
    let updated ← ((Statement.recordAttempt id status time).first?
      OutboxError.database OutboxEntry.ofRow).run
    return updated.bind fun entry? => match entry? with
      | some entry => .ok entry
      | none => .error (OutboxError.notFound id)
  | .insertRecord record => do
    let result ← ((Statement.insertRecord record).run record.insertError).run
    return result.map fun _ => ()
  | .updateRecord record => do
    let result ← ((Statement.updateRecord record).run TransactionStoreError.database).run
    return result.bind fun result =>
      if result.affected = 0 then .error (TransactionStoreError.notFound record.id) else .ok ()
  | .findByReference reference =>
    ((Statement.findByReference reference).first?
      TransactionStoreError.database TransactionRecord.ofRow).run
  | .findByKey key =>
    ((Statement.findByKey key).first? TransactionStoreError.database TransactionRecord.ofRow).run

end TableRequest

end AccountLedger
