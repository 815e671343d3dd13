import AccountLedger.Memory.Store
import Mathlib.Logic.Function.Basic
import Mathlib.Logic.Relation

/-!
Units of work side by side on one in-memory store. Every operation of a unit of work is a program of
requests to the store; a step of the whole answers one request of one of them, so that the steps of
different units can follow each other in any order. A row lock that is waited for may be given or
the waiting may end without it, and a unit may be cut off wherever it stands.
-/

namespace AccountLedger

namespace UnitRequest

/-- The unit of work that a request belongs to; the first one of a unit belongs to none. -/
def unit? : UnitRequest → Option UnitId
  | .start => none
  | .lock unit _ _ => some unit
  | .insert unit _ => some unit
  | .save unit _ => some unit
  | .stage unit _ => some unit
  | .commit unit => some unit
  | .abandon unit => some unit

/-- Whether the unit of work ends with this request. -/
def isLast : UnitRequest → Bool
  | .commit _ => true
  | .abandon _ => true
  | _ => false

end UnitRequest

/-- One step of somebody who asks for something of the lock table: how the table changes, and the
answer unless there is none yet. Waiting starts by joining the queue and ends when the mutex has
been handed over, or at any time before that is noticed. -/
inductive LockStep : (request : LockRequest) → LockTable → Option request.Answer → LockTable → Prop
  | enter (owner account table) :
    LockStep (.enter owner account) table (some (table.enter owner account).1)
      (table.enter owner account).2
  | join {number timeoutMs table ticket} : table.ticket? number = some ticket →
    ticket.phase = .entered → LockStep (.await number timeoutMs) table none (table.join number)
  | serve {number timeoutMs table} : (table.notice number).1 = true →
    LockStep (.await number timeoutMs) table (some true) (table.notice number).2
  | expire {number timeoutMs table ticket} : table.ticket? number = some ticket →
    ticket.phase = .queued ∨ ticket.phase = .granted →
    LockStep (.await number timeoutMs) table (some false) (table.leave number).2
  | leave (number table) : LockStep (.leave number) table (some ()) (table.leave number).2
  | prune (account table) : LockStep (.prune account) table (some ()) (table.prune account)

/-- What a unit of work is doing: it has not been started or has ended, waits to be asked for
something, or is on its way through an operation. -/
inductive Activity where
  | gone
  | idle
  | busy (request : UnitRequest) (rest : Program memory request.Answer)

/-- What changed the accounts: the commit of a unit of work, or a write past all locks. -/
inductive PoolEvent where
  | committed (unit : UnitId)
  | overwritten (account : Account)
  deriving DecidableEq, Repr

/-- A store with its units of work, the rows that each of them has read from the tables under locks
that it still has, and all that has changed the accounts so far. -/
structure Pool where
  store : MemoryStore
  activity : UnitId → Activity
  reads : UnitId → List Account
  log : List PoolEvent

/-- The rows that reading an order takes from the tables; the others the unit has written itself. -/
def UnitOfWork.readRows (work : UnitOfWork) (tables : Tables) (order : LockOrder) : List Account :=
  order.ids.filterMap fun id =>
    if (work.staged? id).isSome then none else tables.accounts.find? id

namespace UnitId

/-- Give up the mutexes that are waited for. -/
def giveUp : List Ticket → Program lockInterface Unit
  | [] => return ()
  | ticket :: rest => do
    (LockRequest.leave ticket.number).perform
    giveUp rest

/-- The tickets of a unit of work that it has not taken over as guards. -/
def looseTickets (unit : UnitId) (store : MemoryStore) : List Ticket :=
  (store.locks.ticketsOf unit.number).filter fun ticket =>
    ticket.number ∉ (store.unit unit).guards.map (·.ticket)

/-- What is still done for an operation that is broken off: the mutex it waits for is given up, then
the row locks that it has taken on its way are freed. -/
def breakOff (unit : UnitId) (store : MemoryStore) : Program memory Unit := do
  let loose := unit.looseTickets store
  locking (giveUp (loose.filter fun ticket => ticket.phase ≠ .held))
  locking (RowGuard.releaseAll
    ((loose.filter fun ticket => ticket.phase = .held).map fun ticket =>
      ⟨ticket.account, ticket.number⟩))

/-- What is still done for a unit of work that is cut off. -/
def cutOff (unit : UnitId) (store : MemoryStore) : Program memory Unit := do
  unit.breakOff store
  unit.finish

end UnitId

namespace Pool

def start : Pool := ⟨MemoryStore.empty, fun _ => .gone, fun _ => [], []⟩

def tables (pool : Pool) : Tables := pool.store.tables

def withLocks (pool : Pool) (locks : LockTable) : Pool :=
  { pool with store := { pool.store with locks } }

def withTables (pool : Pool) (tables : Tables) : Pool :=
  { pool with store := { pool.store with tables } }

def withActivity (pool : Pool) (unit : UnitId) (activity : Activity) : Pool :=
  { pool with activity := Function.update pool.activity unit activity }

/-- The unit of work that is started next. -/
def nextUnit (pool : Pool) : UnitId := ⟨pool.store.nextUnit⟩

def started (pool : Pool) : Pool :=
  { pool with store := (pool.store.answer .startUnit).2 }.withActivity pool.nextUnit .idle

/-- The rows read after a request to the store. -/
def readsAfter (pool : Pool) : StoreRequest → UnitId → List Account
  | .rows unit order =>
    Function.update pool.reads unit
      (pool.reads unit ++ (pool.store.unit unit).readRows pool.tables order)
  | .endUnit unit => Function.update pool.reads unit []
  | _ => pool.reads

/-- Whether a request to the store commits a unit of work, and which. -/
def commits? (pool : Pool) : StoreRequest → Option UnitId
  | .apply unit => if ((pool.store.unit unit).apply pool.tables).toBool then some unit else none
  | _ => none

/-- A request of a unit of work to the store is answered. -/
def answered (pool : Pool) (unit : UnitId) (request : UnitRequest) (asked : StoreRequest)
    (resume : asked.Answer → Program memory request.Answer) : Pool :=
  { store := (pool.store.answer asked).2
    activity :=
      Function.update pool.activity unit (.busy request (resume (pool.store.answer asked).1))
    reads := pool.readsAfter asked
    log := pool.log ++ ((pool.commits? asked).map PoolEvent.committed).toList }

/-- One step of a unit of work on its way through an operation. -/
inductive Proceeds (pool : Pool) (unit : UnitId) : Pool → Prop
  | stored {request asked resume} :
    pool.activity unit = .busy request (.ask (.store asked) resume) →
    Proceeds pool unit (pool.answered unit request asked resume)
  | waiting {request asked resume locks} :
    pool.activity unit = .busy request (.ask (.lock asked) resume) →
    LockStep asked pool.store.locks none locks → Proceeds pool unit (pool.withLocks locks)
  | locked {request asked resume answer locks} :
    pool.activity unit = .busy request (.ask (.lock asked) resume) →
    LockStep asked pool.store.locks (some answer) locks →
    Proceeds pool unit ((pool.withLocks locks).withActivity unit (.busy request (resume answer)))

/-- An operation is begun. -/
def asked (pool : Pool) (unit : UnitId) (request : UnitRequest) : Pool :=
  pool.withActivity unit (.busy request request.inMemory)

/-- An operation is over. -/
def concluded (pool : Pool) (unit : UnitId) (request : UnitRequest) : Pool :=
  pool.withActivity unit (if request.isLast then .gone else .idle)

/-- An operation is broken off and nobody waits for its answer, but its unit of work goes on. -/
def brokenOff (pool : Pool) (unit : UnitId) (request : UnitRequest) (answer : request.Answer) :
    Pool :=
  pool.withActivity unit (.busy request do
    unit.breakOff pool.store
    return answer)

def cutOff (pool : Pool) (unit : UnitId) : Pool :=
  pool.withActivity unit (.busy (.abandon unit) (unit.cutOff pool.store))

/-- A request to the tables that needs no unit of work, such as the record of a delivery attempt. -/
def tabled (pool : Pool) (request : TableRequest) : Pool :=
  pool.withTables (pool.tables.answer request).2

/-- An account is written past all locks. -/
def overwritten (pool : Pool) (account : Account) : Pool :=
  { pool.withTables (pool.tables.overwriteAccount account) with
    log := pool.log ++ [.overwritten account] }

inductive Step (pool : Pool) : Pool → Prop
  | start : Step pool pool.started
  | ask {unit request} : pool.activity unit = .idle → request.unit? = some unit →
    Step pool (pool.asked unit request)
  | proceed {unit next} : Proceeds pool unit next → Step pool next
  | conclude {unit request answer} : pool.activity unit = .busy request (.done answer) →
    Step pool (pool.concluded unit request)
  | breakOff {unit request rest} (answer) : pool.activity unit = .busy request rest →
    request.isLast = false → Step pool (pool.brokenOff unit request answer)
  | cutOff {unit} : pool.activity unit ≠ .gone → Step pool (pool.cutOff unit)
  | table (request) : Step pool (pool.tabled request)
  | overwrite (account) : Step pool (pool.overwritten account)

/-- What a store without accounts can come to. -/
def Reachable (pool : Pool) : Prop := Relation.ReflTransGen Step start pool

end Pool

end AccountLedger
