import AccountLedger.Http.Exchange
import AccountLedger.Http.LedgerSite
import AccountLedger.Ledger.Query

/-!
The ledger asked over the network.
-/

namespace AccountLedger.LedgerQuery

def body? : LedgerQuery → Option Json
  | .movement (.deposit _ amount) => some (Json.record [("amount", amount.value.toJson)])
  | .movement (.withdraw _ amount) => some (Json.record [("amount", amount.value.toJson)])
  | .movement (.transfer source target amount) =>
    some (Json.record [("from_account_id", .string (toString source)),
      ("to_account_id", .string (toString target)), ("amount", amount.value.toJson)])
  | .lookUp _ => none

/-- The call that asks a ledger with this base address. -/
def call (query : LedgerQuery) (base : String) : HttpCall :=
  ⟨query.method, Url.ofText (baseAddress base ++ query.path), query.body?⟩

/-- Transfers are answered with a transfer, everything else with an account. -/
def viewDecoder : LedgerQuery → Decoder LedgerView
  | .movement (.transfer ..) => fun json => (TransferView.decode json).map .transfer
  | _ => fun json => (AccountView.decode json).map .account

/-- What a call tells about the query. -/
def ofCall (query : LedgerQuery) (base : String) :
    CallResult → Except DownstreamError LedgerView
  | .response status body =>
    if isSuccessStatus status then
      match Decoder.run query.viewDecoder body.toList with
      | .ok view => .ok view
      | .error _ =>
        .error (DownstreamError.malformed ledgerServiceName query.endpoint HttpCall.decodingText)
    else
      .error (DownstreamError.ofResponse ledgerServiceName query.endpoint status (bodyText body))
  | _ =>
    .error (DownstreamError.unreachable ledgerServiceName query.endpoint
      (query.call base).failureText)

/-- Ask a ledger over the network whose site is at hand: every message arrives. -/
def performRemotely (policy : LedgerPolicy) (base : String) (query : LedgerQuery) :
    Program service (Except DownstreamError LedgerView) := do
  let served ← (ledgerSite policy).answer (query.call base).request
  return query.ofCall base (CallResult.ofServed served)

end AccountLedger.LedgerQuery
