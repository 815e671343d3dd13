import AccountLedger.Failure
import AccountLedger.Http.Call
import AccountLedger.Http.Message

/-!
Calls that a site at hand answers: the request that a call makes, and what its caller sees of the
response.
-/

namespace AccountLedger

namespace HttpCall

/-- The request of a call. -/
def request (call : HttpCall) : HttpRequest :=
  { method := call.method
    target := call.url.target
    headers := Headers.ofList (match call.body with
      | some _ => [("content-type", "application/json")]
      | none => [])
    body := (call.body.map Json.text).getD "" }

end HttpCall

namespace CallResult

/-- A handler that ends in an overflow leaves no response. -/
def ofServed : Except Overflow HttpResponse → CallResult
  | .ok served => .response served.status served.body.content
  | .error _ => .disconnected

end CallResult

end AccountLedger
