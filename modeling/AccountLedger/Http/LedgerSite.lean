import AccountLedger.Http.Site
import AccountLedger.Ledger.Service

/-!
The ledger service over HTTP.
-/

namespace AccountLedger

inductive LedgerEndpoint where
  | health
  | accounts
  | account (id : String)
  | close (id : String)
  | deposit (id : String)
  | withdraw (id : String)
  | transfers
  | entry (id : String)
  deriving DecidableEq, Repr

namespace LedgerEndpoint

/-- The endpoint of a path; its parameters are not empty. -/
def ofPath? : List String → Option LedgerEndpoint
  | ["health"] => some .health
  | ["api", "v1", "accounts"] => some .accounts
  | ["api", "v1", "accounts", id] => if id.isEmpty then none else some (.account id)
  | ["api", "v1", "accounts", id, action] =>
    if id.isEmpty then none
    else if action = "close" then some (.close id)
    else if action = "deposit" then some (.deposit id)
    else if action = "withdraw" then some (.withdraw id)
    else none
  | ["api", "v1", "transfers"] => some .transfers
  | ["api", "v1", "outbox", id] => if id.isEmpty then none else some (.entry id)
  | _ => none

def method : LedgerEndpoint → String
  | .health => "GET"
  | .account _ => "GET"
  | .entry _ => "GET"
  | _ => "POST"

/-- All endpoints but the health check are logged. -/
def isLogged (endpoint : LedgerEndpoint) : Bool := endpoint != .health

end LedgerEndpoint

structure OpenAccountBody where
  owner : Uuid
  currency : String
  overdraftLimit : Option Decimal

def OpenAccountBody.decode : Decoder OpenAccountBody :=
  (OpenAccountBody.mk
    <$> .required "owner_id" Decoder.uuid
    <*> .required "currency" Decoder.string
    <*> .defaulted "overdraft_limit" Decoder.decimal : RecordDecoder OpenAccountBody).decode

def decodeAmountBody : Decoder String :=
  (RecordDecoder.required "amount" Decoder.string).decode

structure TransferBody where
  source : Uuid
  target : Uuid
  amount : String

def TransferBody.decode : Decoder TransferBody :=
  (TransferBody.mk
    <$> .required "from_account_id" Decoder.uuid
    <*> .required "to_account_id" Decoder.uuid
    <*> .required "amount" Decoder.string : RecordDecoder TransferBody).decode

namespace LedgerSite

abbrev Handler (α : Type) : Type := ExceptT (Failure HttpError) (Program service) α

def check (result : Except HttpError α) : Handler α := ExceptT.mk (pure (Outcome.ofExcept result))

def onLedger (action : LedgerAction α) : Handler α :=
  ExceptT.mk (Outcome.mapError (fun error => .failed (.ledger error)) <$> action.run)

def change (policy : LedgerPolicy)
    (operation : LedgerPolicy → Uuid → Amount → LedgerAction Account) (segment : String)
    (request : HttpRequest) : Handler HttpResponse := do
  let id ← check (HttpRequest.idParameter segment)
  let text ← check (request.jsonBody decodeAmountBody)
  let amount ← check (readAmount text)
  let account ← onLedger (operation policy id amount)
  return HttpResponse.json 200 account.toJson

def serve (policy : LedgerPolicy) :
    LedgerEndpoint → HttpRequest → Handler HttpResponse
  | .health, _ => return ⟨200, none, .text "OK"⟩
  | .accounts, request => do
    let body ← check (request.jsonBody OpenAccountBody.decode)
    let account ← onLedger (policy.openAccount body.owner body.currency body.overdraftLimit)
    return HttpResponse.json 201 account.toJson
  | .account segment, _ => do
    let id ← check (HttpRequest.idParameter segment)
    let account ← onLedger (LedgerAction.getAccount id)
    return HttpResponse.json 200 account.toJson
  | .close segment, _ => do
    let id ← check (HttpRequest.idParameter segment)
    let account ← onLedger (policy.closeAccount id)
    return HttpResponse.json 200 account.toJson
  | .deposit segment, request => change policy LedgerPolicy.deposit segment request
  | .withdraw segment, request => change policy LedgerPolicy.withdraw segment request
  | .transfers, request => do
    let body ← check (request.jsonBody TransferBody.decode)
    let amount ← check (readAmount body.amount)
    let receipt ← onLedger (policy.transfer body.source body.target amount)
    return HttpResponse.json 200 receipt.toJson
  | .entry segment, _ => do
    let id ← check (HttpRequest.idParameter segment)
    let found : Except OutboxError (Option OutboxEntry) ←
      ExceptT.lift (TableRequest.findEntry id).perform
    match found with
    | .error error => throw (.error (.failed (.outbox error)))
    | .ok none => throw (.error (.failed (.notFound s!"outbox entry {id}")))
    | .ok (some entry) => return HttpResponse.json 200 entry.toJson

end LedgerSite

/-- The site of the ledger service. -/
def ledgerSite (policy : LedgerPolicy) : Site service LedgerEndpoint :=
  { ofPath? := LedgerEndpoint.ofPath?, method := LedgerEndpoint.method
    isLogged := LedgerEndpoint.isLogged, serve := LedgerSite.serve policy
    freshId := HostRequest.freshId.perform }

end AccountLedger
