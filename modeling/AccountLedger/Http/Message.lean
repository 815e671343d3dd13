import AccountLedger.Http.Header
import AccountLedger.Json
import AccountLedger.Uuid

/-!
HTTP requests and responses as the services see them.
-/

namespace AccountLedger

/-- A request; the target is its path, perhaps with a query. -/
structure HttpRequest where
  method : String
  target : String
  headers : Headers
  body : String
  deriving DecidableEq, Repr

inductive HttpBody where
  | empty
  | text (text : String)
  | json (value : Json)
  deriving Repr

/-- A response; requests that are logged carry a correlation id back. -/
structure HttpResponse where
  status : Nat
  correlation : Option Uuid
  body : HttpBody
  deriving Repr

namespace HttpResponse

def empty (status : Nat) : HttpResponse := ⟨status, none, .empty⟩

def json (status : Nat) (value : Json) : HttpResponse := ⟨status, none, .json value⟩

end HttpResponse

namespace HttpBody

/-- The body as it is sent. -/
def content : HttpBody → String
  | .empty => ""
  | .text content => content
  | .json value => value.text

end HttpBody

end AccountLedger
