import AccountLedger.Memory.UnitOfWork

/-!
The in-memory store: tables, the table of row locks, and the open units of work. Every request is
answered in one step, except waiting for a row lock; the operations of a unit of work are programs
of such steps, so that those of different units can be interleaved.
-/

namespace AccountLedger

/-- The steps that the store answers at once. -/
inductive StoreRequest where
  | startUnit
  | permit (unit : UnitId) (order : LockOrder)
  | hold (unit : UnitId) (guards : List RowGuard)
  | rows (unit : UnitId) (order : LockOrder)
  | insert (unit : UnitId) (account : Account)
  | save (unit : UnitId) (account : Account)
  | stage (unit : UnitId) (entry : OutboxEntry)
  | apply (unit : UnitId)
  | endUnit (unit : UnitId)
  | table (request : TableRequest)

def StoreRequest.Answer : StoreRequest → Type
  | .startUnit => UnitId
  | .permit .. => Except LedgerError LockOrder
  | .hold .. => Unit
  | .rows .. => Except LedgerError (List Account)
  | .insert .. => Unit
  | .save .. => Except LedgerError Unit
  | .stage .. => Unit
  | .apply _ => Except LedgerError Unit
  | .endUnit _ => List RowGuard
  | .table request => request.Answer

inductive MemoryRequest where
  | lock (request : LockRequest)
  | store (request : StoreRequest)

def MemoryRequest.Answer : MemoryRequest → Type
  | .lock request => request.Answer
  | .store request => request.Answer

abbrev memory : Interface := ⟨MemoryRequest, MemoryRequest.Answer⟩

def StoreRequest.perform (request : StoreRequest) : Program memory request.Answer :=
  .ask (.store request) .done

namespace UnitId

open StoreRequest

def locking (program : Program lockInterface α) : Program memory α :=
  program.translate fun request => .ask (.lock request) .done

/-- Lock the rows of an order that are not locked yet, and read all of them. -/
def lockRows (unit : UnitId) (order : LockOrder) (timeoutMs : Nat) :
    Program memory (Except LedgerError (List Account)) := do
  let permitted : Except LedgerError LockOrder ← (permit unit order).perform
  match permitted with
  | .error error => return .error error
  | .ok fresh =>
    match ← locking (RowGuard.acquireAll unit.number timeoutMs [] fresh.ids) with
    | .error error => return .error error
    | .ok guards =>
      (hold unit guards).perform
      (rows unit order).perform

/-- End a unit of work and free its row locks. -/
def finish (unit : UnitId) : Program memory Unit := do
  let guards : List RowGuard ← (endUnit unit).perform
  locking (RowGuard.releaseAll guards)

end UnitId

open StoreRequest in
/-- The steps of each operation of a unit of work. -/
def UnitRequest.inMemory : (request : UnitRequest) → Program memory request.Answer
  | .start => do
    let unit : UnitId ← startUnit.perform
    return Except.ok unit
  | .lock unit order timeoutMs => unit.lockRows order timeoutMs
  | .insert unit account => do
    (StoreRequest.insert unit account).perform
    return Except.ok ()
  | .save unit account => (StoreRequest.save unit account).perform
  | .stage unit entry => do
    (StoreRequest.stage unit entry).perform
    return Except.ok ()
  | .commit unit => do
    let result : Except LedgerError Unit ← (apply unit).perform
    unit.finish
    return result
  | .abandon unit => unit.finish

structure MemoryStore where
  tables : Tables
  locks : LockTable
  units : Table Nat UnitOfWork
  nextUnit : Nat

namespace MemoryStore

def empty : MemoryStore := ⟨.empty, .empty, .empty, 0⟩

/-- A unit of work; one that was never started is empty. -/
def unit (store : MemoryStore) (id : UnitId) : UnitOfWork :=
  (store.units.find? id.number).getD UnitOfWork.empty

def setUnit (store : MemoryStore) (id : UnitId) (work : UnitOfWork) : MemoryStore :=
  { store with units := store.units.put id.number work }

def answer : (request : StoreRequest) → MemoryStore → request.Answer × MemoryStore
  | .startUnit, store =>
    let unit : UnitId := ⟨store.nextUnit⟩
    (unit, { store.setUnit unit UnitOfWork.empty with nextUnit := store.nextUnit + 1 })
  | .permit unit order, store => ((store.unit unit).held.permit order, store)
  | .hold unit guards, store => ((), store.setUnit unit ((store.unit unit).hold guards))
  | .rows unit order, store => ((store.unit unit).rows store.tables order, store)
  | .insert unit account, store => ((), store.setUnit unit ((store.unit unit).insert account))
  | .save unit account, store =>
    let (result, work) := (store.unit unit).save account
    (result, store.setUnit unit work)
  | .stage unit entry, store => ((), store.setUnit unit ((store.unit unit).stage entry))
  | .apply unit, store =>
    match (store.unit unit).apply store.tables with
    | .ok tables => (.ok (), { store with tables })
    | .error error => (.error error, store)
  | .endUnit unit, store => ((store.unit unit).guards, store.setUnit unit UnitOfWork.empty)
  | .table request, store =>
    let (result, tables) := store.tables.answer request
    (result, { store with tables })

end MemoryStore

end AccountLedger
