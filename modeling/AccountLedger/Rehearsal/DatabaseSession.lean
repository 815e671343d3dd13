import AccountLedger.Rehearsal.Binding
import AccountLedger.Rehearsal.DatabaseStage
import AccountLedger.Rehearsal.Draft

/-!
Sessions on a scripted database server: every step comes with the replies that its statements find,
and is answered together with the statements that it has sent.
-/

namespace AccountLedger.Rehearsal

structure DatabaseSession where
  stage : DatabaseStage
  policy : LedgerPolicy
  retry : RetryPolicy
  drafts : Named Draft
  bindings : Bindings

namespace DatabaseSession

def start (stage : DatabaseStage) (policy : LedgerPolicy) (retry : RetryPolicy) :
    DatabaseSession :=
  ⟨stage, policy, retry, [], Bindings.none⟩

/-- A session of services with these settings, whose ledger and broker are out of reach. -/
def ofSettings (settings : Settings) (ledgerBase : String) : DatabaseSession :=
  start (DatabaseStage.start (.absent ledgerBase) settings.brokerUrl settings.sendTimeoutMs)
    settings.ledgerPolicy settings.retryPolicy

/-- Get ready for a step. Scripted errors of the ledger replace those that are left over. -/
def cued (session : DatabaseSession) (server : ScriptedServer)
    (ledger : Option (List DownstreamError)) : DatabaseSession :=
  { session with stage := { session.stage with
      server
      ledger := (ledger.map LedgerPeer.scripted).getD session.stage.ledger } }

/-- Carry out a step and all deliveries that it starts. -/
def perform (session : DatabaseSession) (step : Staged α) : α × DatabaseSession :=
  let (answer, stage) := (do let answer ← step; DatabaseStage.deliverAll; return answer).run
    session.stage
  (answer, { session with stage })

/-- Carry out a step that leaves a draft under a name, or ends it. -/
def playDraft (session : DatabaseSession) (name : String)
    (program : Program service (Json × Option Draft)) : Json × DatabaseSession :=
  let ((answer, draft), session) := session.perform (DatabaseStage.play program)
  let drafts := match draft with
    | some draft => session.drafts.keep name draft
    | none => session.drafts.forget name
  (answer, { session with drafts })

/-- Keep a row at hand without asking for it. -/
def keepRow (session : DatabaseSession) (name : String) (draft : Draft) (row : Account) :
    DatabaseSession :=
  { session with drafts := session.drafts.keep name (draft.withRow row) }

/-- An answer with the statements of its step. -/
def told (session : DatabaseSession) (answer : Json) : Json :=
  answer.extended session.stage.server.account

end DatabaseSession

end AccountLedger.Rehearsal
