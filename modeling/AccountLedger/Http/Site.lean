import AccountLedger.Decimal
import AccountLedger.Failure
import AccountLedger.Http.MediaType
import AccountLedger.Http.Message
import AccountLedger.Http.Path
import AccountLedger.Json.Decoder
import AccountLedger.Program
import AccountLedger.ServiceError

/-!
Sites: which endpoint serves a request, what its parts must look like, and the correlation id that
goes with it.
-/

namespace AccountLedger

/-- Why a request is not answered as it should be: it does not fit its endpoint, or the service
refused or failed it. -/
inductive HttpError where
  | rejected (status : Nat)
  | failed (error : ServiceError)
  deriving DecidableEq

namespace HttpError

def response : HttpError → HttpResponse
  | .rejected status => HttpResponse.empty status
  | .failed error => HttpResponse.json error.reply.status error.body

end HttpError

namespace HttpRequest

/-- The text of a path parameter. -/
def parameter (segment : String) : Except HttpError String :=
  match Path.decode? segment with
  | some text => .ok text
  | none => .error (.rejected 400)

/-- A path parameter that is an id. -/
def idParameter (segment : String) : Except HttpError Uuid := do
  match Uuid.read? (← parameter segment).toList with
  | some id => .ok id
  | none => .error (.rejected 400)

def hasJson (request : HttpRequest) : Bool :=
  ((request.headers.text? "content-type").map MediaType.isJson).getD false

/-- The body, which has to be declared as JSON; what follows its first value is not read. -/
def jsonBody (request : HttpRequest) (decode : Decoder α) : Except HttpError α :=
  if request.hasJson then
    match Decoder.runOnFirst decode request.body.toList with
    | .ok value => .ok value
    | .error .malformed => .error (.rejected 400)
    | .error _ => .error (.rejected 422)
  else .error (.rejected 415)

def correlationHeader : String := "x-correlation-id"

/-- The correlation id that the caller chose. -/
def correlation? (request : HttpRequest) : Option Uuid :=
  (request.headers.text? correlationHeader).bind fun text => Uuid.read? text.toList

end HttpRequest

/-- The endpoints of a service and how they are served. -/
structure Site (I : Interface) (Endpoint : Type) where
  ofPath? : List String → Option Endpoint
  method : Endpoint → String
  isLogged : Endpoint → Bool
  serve : Endpoint → HttpRequest → ExceptT (Failure HttpError) (Program I) HttpResponse
  freshId : Program I Uuid

namespace Site

/-- What a handler's end means for the response; an overflow leaves none. -/
def conclude : Except (Failure HttpError) HttpResponse → Except Overflow HttpResponse
  | .ok response => .ok response
  | .error (.error error) => .ok error.response
  | .error (.overflow overflow) => .error overflow

/-- Whether an endpoint serves a method; one that is read can also be asked for its headers. -/
def serves (site : Site I Endpoint) (endpoint : Endpoint) (method : String) : Bool :=
  method == site.method endpoint || (method == "HEAD" && site.method endpoint == "GET")

def respond (site : Site I Endpoint) (endpoint : Endpoint) (request : HttpRequest) :
    Program I (Except Overflow HttpResponse) := do
  if site.serves endpoint request.method then
    let outcome := conclude (← (site.serve endpoint request).run)
    if request.method == "HEAD" then
      return outcome.map fun response => { response with body := .empty }
    else return outcome
  else return .ok (HttpResponse.empty 405)

/-- Answer a request. -/
def answer (site : Site I Endpoint) (request : HttpRequest) :
    Program I (Except Overflow HttpResponse) := do
  match (Path.segments? request.target).bind site.ofPath? with
  | none => return .ok (HttpResponse.empty 404)
  | some endpoint =>
    if site.isLogged endpoint then
      let correlation ← match request.correlation? with
        | some id => pure id
        | none => site.freshId
      let outcome ← site.respond endpoint request
      return outcome.map fun response => { response with correlation := some correlation }
    else site.respond endpoint request

end Site

/-- An amount in a request, with blanks around it allowed. -/
def readAmount (text : String) : Except HttpError Amount :=
  match Amount.read (Text.trim text.toList) with
  | .ok amount => .ok amount
  | .error error => .error (.failed (.refused (.invalidAmount error.message)))

end AccountLedger
