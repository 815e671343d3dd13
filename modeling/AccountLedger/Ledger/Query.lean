import AccountLedger.Ledger.Service
import AccountLedger.ServiceError

/-!
The ledger as other services see it: what they can ask, what they are shown, and how errors reach
them. A ledger in the same process answers with the errors that the network would bring.
-/

namespace AccountLedger

/-- An account as seen from outside the ledger. -/
structure AccountView where
  id : Uuid
  owner : Uuid
  balance : Decimal
  currency : String
  status : AccountStatus
  deriving DecidableEq, Repr

namespace AccountView

def ofAccount (account : Account) : AccountView :=
  ⟨account.id, account.owner, account.balance.value, account.currency, account.status⟩

def toJson (view : AccountView) : Json :=
  Json.record [
    ("id", .string (toString view.id)),
    ("owner_id", .string (toString view.owner)),
    ("balance", view.balance.toJson),
    ("currency", .string view.currency),
    ("status", .string view.status.name)]

def decoder : RecordDecoder AccountView :=
  AccountView.mk
    <$> .required "id" Decoder.uuid
    <*> .required "owner_id" Decoder.uuid
    <*> .required "balance" Decoder.decimal
    <*> .required "currency" Decoder.string
    <*> .required "status" AccountStatus.decode

def decode : Decoder AccountView := decoder.decode

end AccountView

/-- A committed transfer as seen from outside the ledger. -/
structure TransferView where
  transfer : Uuid
  source : AccountView
  target : AccountView
  amount : Decimal
  deriving DecidableEq, Repr

namespace TransferView

def ofReceipt (receipt : TransferReceipt) : TransferView :=
  ⟨receipt.transfer, AccountView.ofAccount receipt.source, AccountView.ofAccount receipt.target,
    receipt.amount.value⟩

def toJson (view : TransferView) : Json :=
  Json.record [
    ("transfer_id", .string (toString view.transfer)),
    ("from", view.source.toJson),
    ("to", view.target.toJson),
    ("amount", view.amount.toJson)]

def decoder : RecordDecoder TransferView :=
  TransferView.mk
    <$> .required "transfer_id" Decoder.uuid
    <*> .required "from" AccountView.decode
    <*> .required "to" AccountView.decode
    <*> .required "amount" Decoder.decimal

def decode : Decoder TransferView := decoder.decode

end TransferView

/-- What the ledger can be asked for from outside. -/
inductive LedgerQuery where
  | movement (call : LedgerCall)
  | lookUp (id : Uuid)
  deriving DecidableEq

inductive LedgerView where
  | account (view : AccountView)
  | transfer (view : TransferView)
  deriving DecidableEq, Repr

namespace LedgerView

def toJson : LedgerView → Json
  | .account view => view.toJson
  | .transfer view => view.toJson

end LedgerView

namespace LedgerQuery

def ledgerServiceName : String := "ledger-service"

def name : LedgerQuery → String
  | .movement (.deposit ..) => "deposit"
  | .movement (.withdraw ..) => "withdraw"
  | .movement (.transfer ..) => "transfer"
  | .lookUp _ => "get_account"

def path : LedgerQuery → String
  | .movement (.deposit account _) => s!"/api/v1/accounts/{account}/deposit"
  | .movement (.withdraw account _) => s!"/api/v1/accounts/{account}/withdraw"
  | .movement (.transfer ..) => "/api/v1/transfers"
  | .lookUp id => s!"/api/v1/accounts/{id}"

def method : LedgerQuery → String
  | .movement _ => "POST"
  | .lookUp _ => "GET"

/-- The endpoint that serves a query. -/
def endpoint (query : LedgerQuery) : String := s!"{query.method} {query.path}"

/-- Ask a ledger in the same process. -/
def perform (policy : LedgerPolicy) : LedgerQuery → LedgerAction LedgerView
  | .movement (.deposit account amount) =>
    (.account ∘ AccountView.ofAccount) <$> policy.deposit account amount
  | .movement (.withdraw account amount) =>
    (.account ∘ AccountView.ofAccount) <$> policy.withdraw account amount
  | .movement (.transfer source target amount) =>
    (.transfer ∘ TransferView.ofReceipt) <$> policy.transfer source target amount
  | .lookUp id => (.account ∘ AccountView.ofAccount) <$> LedgerAction.getAccount id

/-- A ledger error as its answer over the network reads. -/
def downstreamError (query : LedgerQuery) (error : LedgerError) : DownstreamError :=
  let error := ServiceError.ledger error
  DownstreamError.ofResponse ledgerServiceName query.endpoint error.reply.status error.body.text

/-- Ask a ledger in the same process, with errors as the network would bring them. -/
def performLocally (policy : LedgerPolicy) (query : LedgerQuery) :
    Program service (Outcome DownstreamError LedgerView) :=
  Outcome.mapError query.downstreamError <$> (query.perform policy).run

end LedgerQuery

end AccountLedger
