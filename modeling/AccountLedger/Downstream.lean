import AccountLedger.Json.Decoder

/-!
Failures of calls to another service, brought to one form: which call, the status if a response
arrived, and the error code its body named.
-/

namespace AccountLedger

inductive DownstreamKind where
  | badRequest
  | notFound
  | accessDenied
  | unavailable
  | generic
  deriving DecidableEq, Repr

namespace DownstreamKind

def ofStatus (status : Nat) : DownstreamKind :=
  if status = 400 ∨ status = 409 ∨ status = 422 then .badRequest
  else if status = 404 then .notFound
  else if status = 401 ∨ status = 403 then .accessDenied
  else if 502 ≤ status ∧ status ≤ 504 then .unavailable
  else .generic

def name : DownstreamKind → String
  | .badRequest => "bad_request"
  | .notFound => "not_found"
  | .accessDenied => "access_denied"
  | .unavailable => "unavailable"
  | .generic => "generic"

end DownstreamKind

structure DownstreamError where
  kind : DownstreamKind
  service : String
  endpoint : String
  status : Option Nat
  code : Option String
  body : String
  deriving DecidableEq, Repr

namespace DownstreamError

/-- Codes of lock contention: only these make a repetition worth while. -/
def transientCodes : List String := ["lock_timeout", "concurrent_modification"]

def codeDecoder : RecordDecoder (Option String) := .nullable "error_code" Decoder.string

/-- The error code in a response body, if the body is an error object that has one. -/
def codeOf (body : String) : Option String :=
  match Decoder.run codeDecoder.decode body.toList with
  | .ok code => code
  | .error _ => none

/-- A response that reports a failure. -/
def ofResponse (service endpoint : String) (status : Nat) (body : String) : DownstreamError :=
  { kind := DownstreamKind.ofStatus status, service, endpoint, status := some status
    code := codeOf body, body }

/-- A call that never got a response. -/
def unreachable (service endpoint reason : String) : DownstreamError :=
  { kind := .unavailable, service, endpoint, status := none, code := none, body := reason }

/-- A response that could not be understood. -/
def malformed (service endpoint reason : String) : DownstreamError :=
  { kind := .generic, service, endpoint, status := none, code := none, body := reason }

def isTransient (error : DownstreamError) : Bool :=
  match error.code with
  | some code => transientCodes.contains code
  | none => false

/-- The reason kept on a failed transaction record. -/
def summary (error : DownstreamError) : String :=
  match error.code, error.status with
  | some code, some status => s!"{code} (HTTP {status})"
  | some code, none => code
  | none, some status => s!"HTTP {status}"
  | none, none => error.body

def message (error : DownstreamError) : String :=
  s!"{error.service} {error.endpoint} failed ({error.kind.name}): {error.summary}"

end DownstreamError

end AccountLedger
