import AccountLedger.Database.Error
import AccountLedger.Decimal
import AccountLedger.Timestamp
import AccountLedger.Uuid

/-!
Values in statements and in rows, and reading the columns of a row.
-/

namespace AccountLedger

inductive SqlValue where
  | null
  | bool (value : Bool)
  | integer (value : Int)
  | numeric (value : Decimal)
  | text (value : String)
  | uuid (id : Uuid)
  | time (moment : Timestamp)
  deriving DecidableEq

namespace SqlValue

/-- The start of 2000, from which stored times are counted. -/
def epoch : Timestamp := ⟨946684800, 0⟩

/-- A time in whole microseconds, cut towards the start of 2000. -/
def wholeMicros (time : Timestamp) : Timestamp :=
  let nanos := (time.seconds - epoch.seconds) * Timestamp.nanosPerSecond + time.nanos
  epoch.addNanos (nanos.tdiv 1000 * 1000)

def ofTime (time : Timestamp) : SqlValue := .time (wholeMicros time)

/-- A decimal with its scale; a zero has none. -/
def ofDecimal (value : Decimal) : SqlValue :=
  .numeric (if value.isZero then Decimal.zero else value)

def ofOption (encode : α → SqlValue) : Option α → SqlValue
  | none => .null
  | some value => encode value

end SqlValue

/-- The columns of a row by their names. -/
abbrev Row : Type := List (String × SqlValue)

/-- What a statement gives: rows, and how many it changed. -/
structure StatementResult where
  rows : List Row
  affected : Nat
  deriving DecidableEq

namespace Row

/-- A column as a value of the type that a reader wants. A column without one counts as null. -/
def column (read? : SqlValue → Option α) (name : String) (row : Row) : Except DatabaseError α :=
  match (row.lookup name).bind read? with
  | some value => .ok value
  | none => .error (.unexpectedNull (.named name))

/-- A column that may be null. -/
def nullable (read? : SqlValue → Option α) (name : String) (row : Row) : Option α :=
  (row.lookup name).bind read?

end Row

namespace SqlValue

def bool? : SqlValue → Option Bool
  | .bool value => some value
  | _ => none

def integer? : SqlValue → Option Int
  | .integer value => some value
  | _ => none

def numeric? : SqlValue → Option Decimal
  | .numeric value => some value
  | _ => none

def text? : SqlValue → Option String
  | .text value => some value
  | _ => none

def uuid? : SqlValue → Option Uuid
  | .uuid id => some id
  | _ => none

def time? : SqlValue → Option Timestamp
  | .time moment => some moment
  | _ => none

end SqlValue

end AccountLedger
