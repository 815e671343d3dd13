import AccountLedger.Uuid

/-!
The table of row locks. A row has a slot only while somebody holds it or waits for it; the slot
names the mutex that all of them share. Waiters of a mutex are served in the order of their
joining, and a mutex is handed to the next waiter at the moment it is unlocked.
-/

namespace AccountLedger

/-- How far somebody has come with a mutex: it knows the mutex, waits in the queue, has been
handed the mutex without having noticed, or holds it. -/
inductive TicketPhase where
  | entered
  | queued
  | granted
  | held
  deriving DecidableEq, Repr

/-- What one party has to show for its interest in a mutex. -/
structure Ticket where
  number : Nat
  owner : Nat
  account : Uuid
  mutex : Nat
  phase : TicketPhase
  deriving DecidableEq, Repr

namespace Ticket

/-- Whether nobody else can have the mutex. -/
def isExclusive (ticket : Ticket) : Bool := ticket.phase == .granted || ticket.phase == .held

end Ticket

/-- Slots, and tickets in the order of the queues. -/
structure LockTable where
  slots : List (Uuid × Nat)
  tickets : List Ticket
  nextMutex : Nat
  nextTicket : Nat
  deriving DecidableEq, Repr

namespace LockTable

def empty : LockTable := ⟨[], [], 0, 0⟩

/-- How many rows are held or waited for. -/
def activeSlots (table : LockTable) : Nat := table.slots.length

/-- The mutex of an account; one without a slot gets a new mutex. -/
def mutexOf (table : LockTable) (account : Uuid) : Nat × LockTable :=
  match table.slots.lookup account with
  | some mutex => (mutex, table)
  | none =>
    (table.nextMutex,
      { table with slots := (account, table.nextMutex) :: table.slots
                   nextMutex := table.nextMutex + 1 })

/-- Take a new ticket for the mutex of an account. -/
def enter (table : LockTable) (owner : Nat) (account : Uuid) : Nat × LockTable :=
  let (mutex, table) := table.mutexOf account
  (table.nextTicket,
    { table with tickets := table.tickets ++ [⟨table.nextTicket, owner, account, mutex, .entered⟩]
                 nextTicket := table.nextTicket + 1 })

def ticket? (table : LockTable) (number : Nat) : Option Ticket :=
  table.tickets.find? fun ticket => ticket.number == number

def isTaken (tickets : List Ticket) (mutex : Nat) : Bool :=
  tickets.any fun ticket => ticket.mutex == mutex && ticket.isExclusive

/-- The tickets without the one of this number. -/
def without (tickets : List Ticket) (number : Nat) : List Ticket :=
  tickets.filter fun ticket => ticket.number != number

/-- Take a free mutex, or queue behind all others for a taken one. -/
def join (table : LockTable) (number : Nat) : LockTable :=
  match table.ticket? number with
  | none => table
  | some ticket =>
    let others := without table.tickets number
    let phase := if isTaken others ticket.mutex then TicketPhase.queued else .granted
    { table with tickets := others ++ [{ ticket with phase }] }

/-- Notice whether the mutex has been handed over. -/
def notice (table : LockTable) (number : Nat) : Bool × LockTable :=
  match table.ticket? number with
  | none => (false, table)
  | some ticket =>
    if ticket.phase = .granted then
      (true,
        { table with tickets := table.tickets.map fun other =>
            if other.number = number then { other with phase := .held } else other })
    else (false, table)

/-- Hand a mutex to the first in its queue; the number of the ticket that got it. -/
def handOver (mutex : Nat) : List Ticket → Option Nat × List Ticket
  | [] => (none, [])
  | ticket :: rest =>
    if ticket.mutex = mutex ∧ ticket.phase = .queued then
      (some ticket.number, { ticket with phase := .granted } :: rest)
    else
      let (served, rest) := handOver mutex rest
      (served, ticket :: rest)

/-- Give a ticket up: out of the queue, or unlocking. The number of the ticket that gets the
mutex, if any. -/
def leave (table : LockTable) (number : Nat) : Option Nat × LockTable :=
  match table.ticket? number with
  | none => (none, table)
  | some ticket =>
    let others := without table.tickets number
    if ticket.isExclusive then
      let (next, tickets) := handOver ticket.mutex others
      (next, { table with tickets })
    else (none, { table with tickets := others })

/-- Remove the slot of an account that nobody holds or waits for. -/
def prune (table : LockTable) (account : Uuid) : LockTable :=
  match table.slots.lookup account with
  | none => table
  | some mutex =>
    if table.tickets.any fun ticket => ticket.mutex == mutex then table
    else { table with slots := table.slots.filter fun slot => slot.1 != account }

def ticketsOf (table : LockTable) (owner : Nat) : List Ticket :=
  table.tickets.filter fun ticket => ticket.owner == owner

end LockTable

end AccountLedger
