import AccountLedger.Database.Connection

/-!
Whether the database answers, and has the tables that the store needs.
-/

namespace AccountLedger

/-- Why a service does not start on its database. -/
inductive StartupError where
  | database (error : DatabaseError)
  | schemaIncomplete
  deriving DecidableEq, Repr

namespace StartupError

def message : StartupError → String
  | .database error => error.message
  | .schemaIncomplete => "Database schema incomplete"

end StartupError

namespace Schema

def requiredTables : List String := ["accounts", "outbox_entries", "ledger_transactions"]

/-- The truth value in the first row of a result. -/
def truth (result : StatementResult) : Except DatabaseError Bool :=
  match result.rows.head? with
  | none => .error .rowNotFound
  | some row => match row.nullable SqlValue.bool? "exists" with
    | some value => .ok value
    | none => .error (.unexpectedNull (.placed 0))

/-- Look for the tables in turn, up to the first that is missing. -/
def hasAll : List String → DatabaseAction DatabaseError Bool
  | [] => return true
  | table :: rest => do
    let result ← (Statement.tableExists table).run id
    if ← ExceptT.mk (pure (truth result)) then hasAll rest else return false

def isComplete : DatabaseAction DatabaseError Bool := hasAll requiredTables

/-- Go on only with a complete schema. -/
def require : DatabaseAction StartupError Unit := do
  if !(← isComplete.adapt StartupError.database) then throw .schemaIncomplete

/-- Whether the database answers at all. -/
def verify : DatabaseAction DatabaseError Unit := do
  let _ ← Statement.ping.run id

end Schema

end AccountLedger
