import AccountLedger.Database.Error
import AccountLedger.Refusal

/-!
Why a ledger operation failed, and what callers may conclude from it.
-/

namespace AccountLedger

inductive LedgerError where
  | refused (refusal : Refusal)
  | lockTimeout (account : Uuid) (waitedMs : Nat)
  | concurrentModification (account : Uuid) (expected : Int) (found : Option Int)
  | lockOrderViolation (requested held : Uuid)
  | notLocked (account : Uuid)
  | database (error : DatabaseError)
  | serialization (reason : String)
  | corruptRow (reason : String)
  deriving DecidableEq, Repr

/-- Whose fault an error is, and whether trying again may help. -/
inductive LedgerErrorKind where
  | validation
  | businessRule
  | notFound
  | transient
  | internal
  deriving DecidableEq, Repr

namespace LedgerError

def revisionText : Option Int → String
  | some revision => s!"Some({revision})"
  | none => "None"

def message : LedgerError → String
  | .refused refusal => refusal.message
  | .lockTimeout account waitedMs =>
    s!"Timed out after {waitedMs}ms waiting for lock on account {account}"
  | .concurrentModification account expected found =>
    s!"Concurrent modification of account {account}: expected revision {expected}, " ++
      s!"found {revisionText found}"
  | .lockOrderViolation requested held =>
    s!"Lock order violation: account {requested} requested while holding {held}"
  | .notLocked account => s!"Write to account {account} without holding its row lock"
  | .database error => s!"Database error: {error.message}"
  | .serialization reason => s!"Serialization error: {reason}"
  | .corruptRow reason => s!"Corrupt row: {reason}"

def kind : LedgerError → LedgerErrorKind
  | .refused refusal =>
    if refusal.isValidation then .validation
    else if refusal.isNotFound then .notFound
    else .businessRule
  | .lockTimeout .. => .transient
  | .concurrentModification .. => .transient
  | _ => .internal

def isTransient (error : LedgerError) : Bool := error.kind == .transient

def notFound (account : Uuid) : LedgerError := .refused (.accountNotFound account)

end LedgerError

end AccountLedger
