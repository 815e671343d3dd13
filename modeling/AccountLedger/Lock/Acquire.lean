import AccountLedger.Lock.Order
import AccountLedger.Lock.Table
import AccountLedger.Program

/-!
Taking row locks, each within a time limit, and giving them back. The steps of several parties can
be interleaved at every request.
-/

namespace AccountLedger

/-- What somebody who takes locks asks of the lock table. Waiting either ends with the lock held
or, after the time limit, with the ticket given up. -/
inductive LockRequest where
  | enter (owner : Nat) (account : Uuid)
  | await (ticket : Nat) (timeoutMs : Nat)
  | leave (ticket : Nat)
  | prune (account : Uuid)

def LockRequest.Answer : LockRequest → Type
  | .enter .. => Nat
  | .await .. => Bool
  | .leave _ => Unit
  | .prune _ => Unit

abbrev lockInterface : Interface := ⟨LockRequest, LockRequest.Answer⟩

namespace LockRequest

/-- The program that makes one request of the lock table. -/
def perform (request : LockRequest) : Program lockInterface request.Answer :=
  .ask request .done

end LockRequest

/-- A row lock that is held. -/
structure RowGuard where
  account : Uuid
  ticket : Nat
  deriving DecidableEq, Repr

namespace RowGuard

open LockRequest

/-- Lock one row. -/
def acquire (owner : Nat) (account : Uuid) (timeoutMs : Nat) :
    Program lockInterface (Except LedgerError RowGuard) := do
  let ticket : Nat ← (enter owner account).perform
  let served : Bool ← (await ticket timeoutMs).perform
  if served then return .ok ⟨account, ticket⟩
  else
    (prune account).perform
    return .error (.lockTimeout account timeoutMs)

/-- Unlock the row, then free its slot unless others queue for it. -/
def release (guard : RowGuard) : Program lockInterface Unit := do
  (leave guard.ticket).perform
  (prune guard.account).perform

def releaseAll : List RowGuard → Program lockInterface Unit
  | [] => return ()
  | guard :: rest => do
    guard.release
    releaseAll rest

/-- Lock the rows in turn; after a failure those already taken are free again. -/
def acquireAll (owner : Nat) (timeoutMs : Nat) (taken : List RowGuard) :
    List Uuid → Program lockInterface (Except LedgerError (List RowGuard))
  | [] => return .ok taken
  | account :: rest => do
    match ← acquire owner account timeoutMs with
    | .ok guard => acquireAll owner timeoutMs (taken ++ [guard]) rest
    | .error error =>
      releaseAll taken
      return .error error

end RowGuard

end AccountLedger
