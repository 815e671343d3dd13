import AccountLedger.Http.Site
import AccountLedger.Transaction.Orchestration

/-!
The transaction service over HTTP.
-/

namespace AccountLedger

inductive TransactionEndpoint where
  | health
  | transactions
  | transaction (reference : String)
  deriving DecidableEq, Repr

namespace TransactionEndpoint

/-- The endpoint of a path; its parameters are not empty. -/
def ofPath? : List String → Option TransactionEndpoint
  | ["health"] => some .health
  | ["api", "v1", "transactions"] => some .transactions
  | ["api", "v1", "transactions", reference] =>
    if reference.isEmpty then none else some (.transaction reference)
  | _ => none

def method : TransactionEndpoint → String
  | .transactions => "POST"
  | _ => "GET"

/-- All endpoints but the health check are logged. -/
def isLogged (endpoint : TransactionEndpoint) : Bool := endpoint != .health

end TransactionEndpoint

structure CreateTransactionBody where
  account : Uuid
  target : Option Uuid
  amount : String
  kind : TransactionKind
  idempotencyKey : Option String

def CreateTransactionBody.decode : Decoder CreateTransactionBody :=
  (CreateTransactionBody.mk
    <$> .required "account_id" Decoder.uuid
    <*> .defaulted "target_account_id" Decoder.uuid
    <*> .required "amount" Decoder.string
    <*> .required "type" TransactionKind.decode
    <*> .defaulted "idempotency_key" Decoder.string : RecordDecoder CreateTransactionBody).decode

namespace TransactionSite

abbrev Handler (α : Type) : Type := ExceptT (Failure HttpError) (Program orchestration) α

def check (result : Except HttpError α) : Handler α := ExceptT.mk (pure (Outcome.ofExcept result))

def onOrchestrator (action : Orchestration α) : Handler α :=
  ExceptT.mk (Outcome.mapError (fun error => .failed (.orchestration error)) <$> action.run)

def idempotencyHeader : String := "idempotency-key"

/-- The key in the header wins over the one in the body. -/
def idempotencyKey (request : HttpRequest) (body : CreateTransactionBody) : Option String :=
  (request.headers.text? idempotencyHeader).or body.idempotencyKey

def serve (policy : RetryPolicy) :
    TransactionEndpoint → HttpRequest → Handler HttpResponse
  | .health, _ => return ⟨200, none, .text "OK"⟩
  | .transactions, request => do
    let body ← check (request.jsonBody CreateTransactionBody.decode)
    let amount ← check (readAmount body.amount)
    let record ← onOrchestrator (Orchestration.execute policy
      { account := body.account, target := body.target, amount, kind := body.kind
        idempotencyKey := idempotencyKey request body })
    return HttpResponse.json 200 record.toJson
  | .transaction segment, _ => do
    let reference ← check (HttpRequest.parameter segment)
    match ← onOrchestrator (Orchestration.findByReference reference) with
    | some record => return HttpResponse.json 200 record.toJson
    | none => throw (.error (.failed (.notFound s!"transaction {reference}")))

end TransactionSite

/-- The site of the transaction service. -/
def transactionSite (policy : RetryPolicy) : Site orchestration TransactionEndpoint :=
  { ofPath? := TransactionEndpoint.ofPath?, method := TransactionEndpoint.method
    isLogged := TransactionEndpoint.isLogged, serve := TransactionSite.serve policy
    freshId := Orchestration.host .freshId }

end AccountLedger
