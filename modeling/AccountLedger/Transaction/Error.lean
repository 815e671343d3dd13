import AccountLedger.Database.Error
import AccountLedger.Uuid

/-!
Errors of storing transaction records.
-/

namespace AccountLedger

inductive TransactionStoreError where
  | duplicateReference (reference : String)
  | duplicateIdempotencyKey (key : String)
  | notFound (record : Uuid)
  | database (error : DatabaseError)
  | corruptRow (reason : String)
  deriving DecidableEq, Repr

namespace TransactionStoreError

def message : TransactionStoreError → String
  | .duplicateReference reference => s!"Reference number already in use: {reference}"
  | .duplicateIdempotencyKey key => s!"Idempotency key already in use: {key}"
  | .notFound record => s!"Transaction not found: {record}"
  | .database error => s!"Database error: {error.message}"
  | .corruptRow reason => s!"Corrupt transaction row: {reason}"

end TransactionStoreError

end AccountLedger
