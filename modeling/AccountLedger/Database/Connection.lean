import AccountLedger.Database.Statement
import AccountLedger.Storage

/-!
What the database is asked for: transactions, one for each unit of work, and statements inside one
or on their own.
-/

namespace AccountLedger

inductive DatabaseRequest where
  | begin (unit : UnitId)
  | commit (unit : UnitId)
  | rollback (unit : UnitId)
  | run (unit : Option UnitId) (statement : Statement)
  deriving DecidableEq

/-- A transaction that could not be opened or committed has still to be rolled back. -/
def DatabaseRequest.Answer : DatabaseRequest → Type
  | .begin _ => Except DatabaseError Unit
  | .commit _ => Except DatabaseError Unit
  | .rollback _ => Unit
  | .run .. => Except DatabaseError StatementResult

abbrev database : Interface := ⟨DatabaseRequest, DatabaseRequest.Answer⟩

namespace DatabaseRequest

def perform (request : DatabaseRequest) : Program database request.Answer := .ask request .done

end DatabaseRequest

/-- A program on the database that may end with an error. -/
abbrev DatabaseAction (ε α : Type) : Type := ExceptT ε (Program database) α

namespace Statement

/-- Run a statement on its own. -/
def run (statement : Statement) (wrap : DatabaseError → ε) : DatabaseAction ε StatementResult :=
  ExceptT.mk do
    let result : Except DatabaseError StatementResult ←
      (DatabaseRequest.run none statement).perform
    return result.mapError wrap

/-- The first row that a statement gives, read as a value. -/
def first? (statement : Statement) (wrap : DatabaseError → ε) (read : Row → Except ε α) :
    DatabaseAction ε (Option α) := do
  let result ← statement.run wrap
  match result.rows.head? with
  | none => return none
  | some row => return some (← ExceptT.mk (pure (read row)))

/-- All rows that a statement gives, read as values. -/
def all (statement : Statement) (wrap : DatabaseError → ε) (read : Row → Except ε α) :
    DatabaseAction ε (List α) := do
  let result ← statement.run wrap
  ExceptT.mk (pure (result.rows.mapM read))

end Statement

end AccountLedger
