import AccountLedger.Database.Connection
import AccountLedger.Database.Rows
import AccountLedger.Lock.Held
import AccountLedger.Table

/-!
Units of work as database transactions. Rows are locked by reading them for update, one after
another in ascending order, and every wait is bounded by the lock timeout that is set for the
transaction.
-/

namespace AccountLedger

/-- What a unit of work remembers of its transaction: the rows it has locked or inserted, and the
lock timeout that was set last. -/
structure OpenUnit where
  held : HeldLocks
  lockTimeoutMs : Option Nat
  deriving DecidableEq, Repr

/-- The units of work that have been started. -/
structure OpenUnits where
  next : Nat
  units : Table Nat OpenUnit
  deriving DecidableEq

namespace OpenUnits

def none : OpenUnits := ⟨0, .empty⟩

def get (units : OpenUnits) (unit : UnitId) : OpenUnit :=
  (units.units.find? unit.number).getD ⟨HeldLocks.none, .none⟩

def set (units : OpenUnits) (unit : UnitId) (state : OpenUnit) : OpenUnits :=
  { units with units := units.units.put unit.number state }

end OpenUnits

/-- A step of a unit of work. What it remembers stays, also when the step fails. -/
abbrev UnitAction (α : Type) : Type := ExceptT LedgerError (StateT OpenUnits (Program database)) α

namespace UnitAction

def remembered (unit : UnitId) : UnitAction OpenUnit := return (← get).get unit

def remember (unit : UnitId) (state : OpenUnit) : UnitAction Unit :=
  modify fun units => units.set unit state

/-- Run a statement in the transaction. -/
def send (unit : UnitId) (statement : Statement) (wrap : DatabaseError → LedgerError) :
    UnitAction StatementResult :=
  ExceptT.mk <| StateT.lift do
    let result : Except DatabaseError StatementResult ←
      (DatabaseRequest.run (some unit) statement).perform
    return result.mapError wrap

def hold (unit : UnitId) (account : Uuid) : UnitAction Unit := do
  let state ← remembered unit
  remember unit { state with held := state.held.record account }

/-- Set the lock timeout unless it is set already. -/
def setLockTimeout (unit : UnitId) (timeoutMs : Nat) : UnitAction Unit := do
  let state ← remembered unit
  if state.lockTimeoutMs ≠ some timeoutMs then
    let _ ← send unit (.setLockTimeout timeoutMs) .database
    remember unit { state with lockTimeoutMs := some timeoutMs }

/-- The code with which the server reports that a lock could not be had in time. -/
def lockNotAvailable : String := "55P03"

/-- What the server's error means for somebody who waits for a row. -/
def lockError (account : Uuid) (timeoutMs : Nat) (error : DatabaseError) : LedgerError :=
  if error.serverCode? = some lockNotAvailable then .lockTimeout account timeoutMs
  else .database error

/-- Lock a row and read it. The lock is held from here on, also if the row cannot be read. -/
def lockRow (unit : UnitId) (timeoutMs : Nat) (account : Uuid) : UnitAction Account := do
  let result ← send unit (.lockAccount account) (lockError account timeoutMs)
  match result.rows.head? with
  | none => throw (.notFound account)
  | some row =>
    let state ← remembered unit
    if !state.held.contains account then hold unit account
    ExceptT.mk (pure (Account.ofRow row))

def lockDatabaseRows (unit : UnitId) (order : LockOrder) (timeoutMs : Nat) :
    UnitAction (List Account) := do
  let state ← remembered unit
  let _ ← ExceptT.mk (pure (state.held.permit order))
  setLockTimeout unit timeoutMs
  order.ids.mapM (lockRow unit timeoutMs)

/-- Insert a row; the transaction holds it locked. -/
def insertRow (unit : UnitId) (account : Account) : UnitAction Unit := do
  let _ ← send unit (.insertAccount account) .database
  hold unit account.id

/-- The revision that a result shows, if it has a row. -/
def revision? (result : StatementResult) : Except LedgerError (Option Int) :=
  match result.rows.head? with
  | none => .ok none
  | some row => match row.nullable SqlValue.integer? "revision" with
    | some revision => .ok (some revision)
    | none => .error (.database (.unexpectedNull (.placed 0)))

/-- Write a locked row in the revision that it was read in. -/
def saveRow (unit : UnitId) (account : Account) : UnitAction Unit := do
  let state ← remembered unit
  if !state.held.contains account.id then throw (.notLocked account.id)
  let result ← send unit (.updateAccount account) .database
  if result.affected = 0 then
    let result ← send unit (.readRevision account.id) .database
    let found ← ExceptT.mk (pure (revision? result))
    throw (.concurrentModification account.id account.revision found)

def insertEntry (unit : UnitId) (entry : OutboxEntry) : UnitAction Unit := do
  let _ ← send unit (.insertEntry entry) .database

/-- Open or commit the transaction; after a failure it is rolled back. -/
def orRollBack (unit : UnitId) (program : Program database (Except DatabaseError Unit)) :
    Program database (Except LedgerError Unit) := do
  match ← program with
  | .ok () => return .ok ()
  | .error error =>
    let () ← (DatabaseRequest.rollback unit).perform
    return .error (.database error)

end UnitAction

namespace UnitRequest

def inDatabase : (request : UnitRequest) → StateT OpenUnits (Program database) request.Answer
  | .start => do
    let units ← get
    let unit : UnitId := ⟨units.next⟩
    set { units with next := units.next + 1 }
    let begun ← StateT.lift (UnitAction.orRollBack unit (DatabaseRequest.begin unit).perform)
    return Except.map (fun () => unit) begun
  | .lock unit order timeoutMs => (UnitAction.lockDatabaseRows unit order timeoutMs).run
  | .insert unit account => (UnitAction.insertRow unit account).run
  | .save unit account => (UnitAction.saveRow unit account).run
  | .stage unit entry => (UnitAction.insertEntry unit entry).run
  | .commit unit => StateT.lift (UnitAction.orRollBack unit (DatabaseRequest.commit unit).perform)
  | .abandon unit => StateT.lift (DatabaseRequest.rollback unit).perform

end UnitRequest

end AccountLedger
