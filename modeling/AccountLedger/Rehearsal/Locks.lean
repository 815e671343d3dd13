import AccountLedger.Lock.Acquire
import AccountLedger.Rehearsal.Timeline

/-!
The lock table among waiting tasks: how a request for locks is answered at a given time, and whom
it wakes.
-/

namespace AccountLedger.Rehearsal

/-- The effect of handing a mutex over. -/
def handed : Option Nat → List (Effect Nat Started)
  | some ticket => [.signal ticket]
  | none => []

/-- The first look at a mutex joins its queue; waiting ends when the mutex has been handed over or
the time is up. Being served goes before being late. -/
def reactToLock (clockMs : Nat) (since : Option Nat) :
    (request : LockRequest) → LockTable → Reaction LockTable Nat Started request.Answer
  | .enter owner account, table =>
    let (ticket, table) := table.enter owner account
    .answered ticket table []
  | .await ticket timeoutMs, table =>
    let table := if since.isNone then table.join ticket else table
    let deadline := since.getD clockMs + timeoutMs
    match table.notice ticket with
    | (true, table) => .answered true table []
    | (false, table) =>
      if deadline ≤ clockMs then
        let (next, table) := table.leave ticket
        .answered false table (handed next)
      else .waiting table (some ticket) (some deadline)
  | .leave ticket, table =>
    let (next, table) := table.leave ticket
    .answered () table (handed next)
  | .prune account, table => .answered () (table.prune account) []

/-- What tasks that only take and give back locks come to. -/
abbrev LockResult : Type := Except LedgerError (List RowGuard)

abbrev LockTimeline : Type := Timeline lockInterface LockTable Nat LockResult

namespace LockTimeline

def surroundings : Surroundings lockInterface LockTable Nat LockResult :=
  ⟨reactToLock, fun _ => none⟩

/-- Cut a task off in the middle: it gives up the mutex it waits for, then the locks it has. -/
def abort (line : LockTimeline) (task owner : Nat) : LockTimeline :=
  let tickets := line.state.ticketsOf owner
  let pending := tickets.filter fun ticket => ticket.phase != .held
  let guards := tickets.filter fun ticket => ticket.phase == .held
  let line := line.removeTask task
  let leaveOne := fun (line : LockTimeline) (ticket : Ticket) =>
    let (next, table) := line.state.leave ticket.number
    (handed next).foldl Timeline.apply { line with state := table }
  let line := pending.foldl leaveOne line
  guards.foldl
    (fun line ticket =>
      let line := leaveOne line ticket
      { line with state := line.state.prune ticket.account })
    line

end LockTimeline

end AccountLedger.Rehearsal
