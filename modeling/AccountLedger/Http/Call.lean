import AccountLedger.Http.Url
import AccountLedger.Json

/-!
Calls to other servers over HTTP and what they come to.
-/

namespace AccountLedger

/-- A call; a body is sent as JSON. -/
structure HttpCall where
  method : String
  url : Url
  body : Option Json

/-- What a call comes to: a response, none in time, or a connection that fails. -/
inductive CallResult where
  | response (status : Nat) (body : String)
  | timedOut
  | disconnected
  deriving DecidableEq, Repr

namespace HttpCall

/-- The text of a call without a usable response. -/
def failureText (call : HttpCall) : String := s!"error sending request for url ({call.url})"

/-- The text of a response that is not what was asked for. -/
def decodingText : String := "error decoding response body"

end HttpCall

def isSuccessStatus (status : Nat) : Bool := 200 ≤ status && status < 300

/-- A body as text, without a byte order mark in front. -/
def bodyText (body : String) : String :=
  match body.toList with
  | c :: rest => if c.toNat = 0xFEFF then String.ofList rest else body
  | [] => body

end AccountLedger
