import AccountLedger.Ledger.Query
import AccountLedger.Proofs.Ledger.Serializable
import AccountLedger.Proofs.Transaction.Custody

/-!
Executions of customer requests over a ledger in the same process: what they call the ledger for are
calls of the ledger service among all the others, and the errors of these come back as the network
would bring them.
-/

namespace AccountLedger

theorem Program.run_map {I : Interface} {ε α β : Type} (f : α → β)
    (action : ExceptT ε (Program I) α) : (f <$> action).run = Except.map f <$> action.run := by
  show Program.bind _ _ = Program.bind _ _
  congr 1
  funext outcome
  cases outcome <;> rfl

namespace LedgerCall

/-- The call of the ledger service that is made for a call of the ledger. -/
def serviceCall (policy : LedgerPolicy) : LedgerCall → ServiceCall
  | .deposit account amount => .deposit policy account amount
  | .withdraw account amount => .withdraw policy account amount
  | .transfer source target amount => .transfer policy source target amount

/-- How the outcome of the call of the ledger service comes back. -/
def answer (call : LedgerCall) (outcome : Outcome LedgerError ServiceReply) :
    Outcome DownstreamError Unit :=
  (outcome.mapError (LedgerQuery.movement call).downstreamError).map fun _ => ()

theorem answer_map {α : Type} (call : LedgerCall) (view : α → LedgerView) (reply : α → ServiceReply)
    (action : LedgerAction α) :
    (fun outcome : Outcome DownstreamError LedgerView => outcome.map fun _ => ()) <$>
        Outcome.mapError (LedgerQuery.movement call).downstreamError <$> (view <$> action).run =
      call.answer <$> (reply <$> action).run := by
  rw [Program.run_map, Program.run_map, ← comp_map, ← comp_map, ← comp_map]
  congr 1
  funext outcome
  rcases outcome with (cause | overflow) | value <;> rfl

/-- Asking a ledger in the same process is making the call of its service. -/
theorem performLocally (policy : LedgerPolicy) (call : LedgerCall) :
    (fun outcome : Outcome DownstreamError LedgerView => outcome.map fun _ => ()) <$>
        (LedgerQuery.movement call).performLocally policy =
      call.answer <$> (call.serviceCall policy).program := by
  cases call with
  | deposit account amount => exact answer_map _ _ ServiceReply.account _
  | withdraw account amount => exact answer_map _ _ ServiceReply.account _
  | transfer source target amount => exact answer_map _ _ ServiceReply.transfer _

theorem answer_eq_ok {call : LedgerCall} {outcome : Outcome LedgerError ServiceReply} :
    call.answer outcome = .ok () ↔ ∃ reply, outcome = .ok reply := by
  constructor
  · intro answered
    rcases outcome with (cause | overflow) | reply
    · cases answered
    · cases answered
    · exact ⟨reply, rfl⟩
  · rintro ⟨reply, rfl⟩
    rfl

end LedgerCall

/-- A desk and the office that its calls of the ledger go to, with the calls of the office that were
made for each execution. -/
structure Branch where
  desk : Desk
  office : Office
  attempts : Nat → List Nat

namespace Branch

def start : Branch := ⟨Desk.start, Office.start, fun _ => []⟩

/-- An execution calls the ledger. -/
def called (branch : Branch) (id : Nat) (execution : Execution) (call : LedgerCall)
    (resume : Outcome DownstreamError Unit → Procedure) (policy : LedgerPolicy) (attempt : Nat) :
    Branch :=
  { desk := branch.desk.called id execution call resume
    office := branch.office.withCall attempt (Call.begun (call.serviceCall policy))
    attempts := Function.update branch.attempts id (branch.attempts id ++ [attempt]) }

/-- The ledger answers an execution. -/
def answered (branch : Branch) (id : Nat) (execution : Execution) (call : LedgerCall)
    (resume : Outcome DownstreamError Unit → Procedure)
    (outcome : Outcome LedgerError ServiceReply) : Branch :=
  { branch with desk := branch.desk.answered id execution resume (call.answer outcome) }

/-- The office may do anything of its own: other calls come and go, units of work wait for locks or
give up, accounts are written past all locks. -/
inductive Step (branch : Branch) : Branch → Prop
  | desk {next} : branch.desk.Proceeds next → Step branch { branch with desk := next }
  | office {next} : branch.office.Step next → Step branch { branch with office := next }
  | call {id execution call resume attempt} (policy) :
    branch.desk.executions id = some execution →
    execution.stage = .running (.ask (.ledger call) resume) →
    branch.office.calls attempt = none →
    Step branch (branch.called id execution call resume policy attempt)
  | answer {id execution call resume attempt made outcome} :
    branch.desk.executions id = some execution → execution.stage = .calling call resume →
    (branch.attempts id).getLast? = some attempt → branch.office.calls attempt = some made →
    made.returned? = some outcome →
    Step branch (branch.answered id execution call resume outcome)

/-- What comes of an empty store of records and a ledger without accounts. -/
def Reachable (branch : Branch) : Prop := Relation.ReflTransGen Step start branch

variable {branch : Branch}

theorem run_desk {desk : Desk} (run : Relation.ReflTransGen Desk.Proceeds branch.desk desk) :
    Relation.ReflTransGen Step branch { branch with desk } :=
  run.lift (fun desk => { branch with desk }) fun _ _ proceeds => .desk proceeds

theorem run_office {office : Office}
    (run : Relation.ReflTransGen Office.Step branch.office office) :
    Relation.ReflTransGen Step branch { branch with office } :=
  run.lift (fun office => { branch with office }) fun _ _ step => .office step

end Branch

end AccountLedger
