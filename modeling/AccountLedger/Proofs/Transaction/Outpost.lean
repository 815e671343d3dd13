import AccountLedger.Proofs.Transaction.Patience
import AccountLedger.Proofs.Transaction.Reply

/-!
Executions of customer requests over a ledger at an address. A request reaches the ledger once at
the most, but as late as it likes; its response may come back, come back without its body or
unreadable, come too late or be lost.
-/

namespace AccountLedger

/-- How the response to a call of the ledger has come back. -/
inductive Delivery where
  | intact
  | bare
  | garbled
  | late
  | lost
  deriving DecidableEq

/-- What a call comes to when its response comes back like this. The ledger has responded where its
response is needed, otherwise it may have done anything so far. -/
inductive Delivery.Brings (office : Office) (attempt : Nat) (call : LedgerCall) :
    Delivery → CallResult → Prop
  | intact {made outcome} (correlation) : office.calls attempt = some made →
    made.returned? = some outcome →
    Brings office attempt call .intact
      (CallResult.ofServed (LedgerSite.response correlation outcome))
  -- of an error response whose body is lost the status is left
  | bare {made failure correlation response} : office.calls attempt = some made →
    made.returned? = some (.error failure) →
    LedgerSite.response correlation (.error failure) = .ok response →
    Brings office attempt call .bare (.response response.status "")
  | garbled {made reply body} : office.calls attempt = some made →
    made.returned? = some (.ok reply) →
    (∀ view, Decoder.run (LedgerQuery.movement call).viewDecoder body.toList ≠ .ok view) →
    Brings office attempt call .garbled (.response 200 body)
  | late : Brings office attempt call .late .timedOut
  | lost : Brings office attempt call .lost .disconnected

/-- A desk whose ledger is at an address: the calls that are under way to it, and for each execution
the attempts that it has heard of, with how their responses have come back. -/
structure Outpost extends Branch where
  underway : Nat → Option LedgerCall
  letters : Nat → List (Nat × Delivery)

namespace Outpost

def start : Outpost := ⟨Branch.start, fun _ => none, fun _ => []⟩

/-- An execution sends a call to the ledger. -/
def sent (outpost : Outpost) (id : Nat) (execution : Execution) (call : LedgerCall)
    (resume : Outcome DownstreamError Unit → Procedure) (attempt : Nat) : Outpost :=
  { outpost with
    desk := outpost.desk.called id execution call resume
    attempts := Function.update outpost.attempts id (outpost.attempts id ++ [attempt])
    underway := Function.update outpost.underway attempt (some call) }

/-- A call reaches the ledger, whose site makes the call of its service for it. -/
def arrived (outpost : Outpost) (attempt : Nat) (call : LedgerCall) (policy : LedgerPolicy) :
    Outpost :=
  { outpost with
    office := outpost.office.withCall attempt (Call.begun (call.serviceCall policy))
    underway := Function.update outpost.underway attempt none }

/-- An execution hears what its call has come to. -/
def answered (outpost : Outpost) (id : Nat) (execution : Execution)
    (resume : Outcome DownstreamError Unit → Procedure) (outcome : Outcome DownstreamError Unit)
    (letter : Nat × Delivery) : Outpost :=
  { outpost with
    desk := outpost.desk.answered id execution resume outcome
    letters := Function.update outpost.letters id (outpost.letters id ++ [letter]) }

/-- The office may do anything of its own, as long as its other calls leave alone those under way.
A call may reach it after its execution has given up. -/
inductive Step (root : RootAddress) (outpost : Outpost) : Outpost → Prop
  | desk {next} : outpost.desk.Proceeds next → Step root outpost { outpost with desk := next }
  | office {next} : outpost.office.Step next →
    (∀ attempt call, outpost.underway attempt = some call → next.calls attempt = none) →
    Step root outpost { outpost with office := next }
  | send {id execution call resume attempt} : outpost.desk.executions id = some execution →
    execution.stage = .running (.ask (.ledger call) resume) →
    outpost.office.calls attempt = none → (∀ other, attempt ∉ outpost.attempts other) →
    Step root outpost (outpost.sent id execution call resume attempt)
  | arrive {attempt call} (policy) : outpost.underway attempt = some call →
    Step root outpost (outpost.arrived attempt call policy)
  | hear {id execution call resume attempt result} (delivery : Delivery) :
    outpost.desk.executions id = some execution → execution.stage = .calling call resume →
    (outpost.attempts id).getLast? = some attempt →
    delivery.Brings outpost.office attempt call result →
    Step root outpost
      (outpost.answered id execution resume (call.told root result) (attempt, delivery))

/-- What comes of an empty store of records and a ledger without accounts. -/
def Reachable (root : RootAddress) (outpost : Outpost) : Prop :=
  Relation.ReflTransGen (Step root) start outpost

end Outpost

end AccountLedger
