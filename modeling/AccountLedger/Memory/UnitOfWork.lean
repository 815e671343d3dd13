import AccountLedger.Lock.Acquire
import AccountLedger.Lock.Held
import AccountLedger.Memory.Tables

/-!
Units of work of the in-memory store: row locks, and writes that are kept aside until the commit.
-/

namespace AccountLedger

/-- An account to be written, and the revision that has to be stored then. -/
structure StagedWrite where
  expected : Int
  account : Account
  deriving DecidableEq, Repr

structure UnitOfWork where
  held : HeldLocks
  guards : List RowGuard
  inserted : List Account
  writes : List StagedWrite
  entries : List OutboxEntry
  deriving DecidableEq, Repr

namespace UnitOfWork

def empty : UnitOfWork := ⟨HeldLocks.none, [], [], [], []⟩

/-- Take over row locks. -/
def hold (work : UnitOfWork) (guards : List RowGuard) : UnitOfWork :=
  { work with held := guards.foldl (fun held guard => held.record guard.account) work.held
              guards := work.guards ++ guards }

/-- An account as this unit of work has written it. -/
def staged? (work : UnitOfWork) (id : Uuid) : Option Account :=
  match work.writes.find? fun write => write.account.id == id with
  | some write => some write.account.stored
  | none => work.inserted.find? fun account => account.id == id

def row (work : UnitOfWork) (tables : Tables) (id : Uuid) : Except LedgerError Account :=
  match (work.staged? id).or (tables.accounts.find? id) with
  | some account => .ok account
  | none => .error (.notFound id)

/-- The accounts of an order as this unit of work sees them; the first missing one is reported. -/
def rows (work : UnitOfWork) (tables : Tables) (order : LockOrder) :
    Except LedgerError (List Account) :=
  order.ids.mapM (work.row tables)

def insert (work : UnitOfWork) (account : Account) : UnitOfWork :=
  { work with inserted := work.inserted ++ [account] }

/-- Put an account in the place of an earlier write of it, or last. -/
def placeWrite (account : Account) : List StagedWrite → List StagedWrite
  | [] => [⟨account.revision, account⟩]
  | write :: rest =>
    if write.account.id = account.id then { write with account } :: rest
    else write :: placeWrite account rest

/-- Write a locked account. The revision expected at the commit is that of its first write. -/
def save (work : UnitOfWork) (account : Account) : Except LedgerError Unit × UnitOfWork :=
  if work.held.contains account.id then
    (.ok (), { work with writes := placeWrite account work.writes })
  else (.error (.notLocked account.id), work)

def stage (work : UnitOfWork) (entry : OutboxEntry) : UnitOfWork :=
  { work with entries := work.entries ++ [entry] }

/-- Inserted accounts must be new. -/
def checkInserted (tables : Tables) : List Account → Except LedgerError Unit
  | [] => .ok ()
  | account :: rest =>
    if (tables.accounts.find? account.id).isSome then
      .error (.corruptRow s!"account {account.id} already exists")
    else checkInserted tables rest

/-- Written accounts must be stored in the expected revision. -/
def checkWrites (tables : Tables) : List StagedWrite → Except LedgerError Unit
  | [] => .ok ()
  | write :: rest =>
    let found := (tables.accounts.find? write.account.id).map (·.revision)
    if found = some write.expected then checkWrites tables rest
    else .error (.concurrentModification write.account.id write.expected found)

def putAccount (tables : Tables) (account : Account) : Tables :=
  { tables with accounts := tables.accounts.put account.id account }

def putEntry (tables : Tables) (entry : OutboxEntry) : Tables :=
  { tables with outbox := tables.outbox.put entry.id entry }

/-- Store everything, or nothing. -/
def apply (work : UnitOfWork) (tables : Tables) : Except LedgerError Tables := do
  checkInserted tables work.inserted
  checkWrites tables work.writes
  let tables := work.inserted.foldl putAccount tables
  let tables := (work.writes.map fun write => write.account.stored).foldl putAccount tables
  return work.entries.foldl putEntry tables

end UnitOfWork

end AccountLedger
