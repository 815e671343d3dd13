/-!
What can go wrong between the store and its database.
-/

namespace AccountLedger

/-- An error reported by the database server: its code, its text and the violated constraint. -/
structure ServerError where
  code : String
  text : String
  constraint : Option String
  deriving DecidableEq, Repr

/-- A column of a result, by its name or by its place. -/
inductive ColumnRef where
  | named (name : String)
  | placed (index : Nat)
  deriving DecidableEq, Repr

namespace ColumnRef

def text : ColumnRef → String
  | .named name => "\"" ++ name ++ "\""
  | .placed index => toString index

end ColumnRef

inductive DatabaseError where
  | rowNotFound
  | poolTimedOut
  | poolClosed
  | server (error : ServerError)
  | unexpectedNull (column : ColumnRef)
  deriving DecidableEq, Repr

namespace DatabaseError

def message : DatabaseError → String
  | .rowNotFound => "no rows returned by a query that expected to return at least one row"
  | .poolTimedOut => "pool timed out while waiting for an open connection"
  | .poolClosed => "attempted to acquire a connection on a closed pool"
  | .server error => s!"error returned from database: {error.text}"
  | .unexpectedNull column =>
    s!"error occurred while decoding column {column.text}: unexpected null; " ++
      "try decoding as an `Option`"

def serverCode? : DatabaseError → Option String
  | .server error => some error.code
  | _ => none

end DatabaseError

end AccountLedger
