import AccountLedger.Http.Message
import AccountLedger.Json.Access

/-!
HTTP requests written down as JSON objects.
-/

namespace AccountLedger

namespace Json

/-- The pairs of strings in a member. -/
def pairs (json : Json) (name : String) : List (String × String) :=
  (json.list name).filterMap fun pair => match pair with
    | .array [.string name, .string value] => some (name, value)
    | _ => none

end Json

namespace HttpRequest

/-- A `body` is sent as JSON and declared as such, unless `no_content_type` is set; a `raw` body is
sent as it is. -/
def ofJson (json : Json) : HttpRequest :=
  let given := json.pairs "headers"
  let (body, headers) := match json.member? "body", json.string? "raw" with
    | some body, _ =>
      (body.text,
        if json.holds "no_content_type" then given
        else ("content-type", "application/json") :: given)
    | none, some raw => (raw, given)
    | none, none => ("", given)
  { method := (json.string? "method").getD "GET", target := (json.string? "path").getD ""
    headers := Headers.ofList headers, body }

end HttpRequest

end AccountLedger
