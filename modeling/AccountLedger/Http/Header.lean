/-!
HTTP headers: names without regard to case, values as they came, and what may be shown of them.
-/

namespace AccountLedger

/-- A header with its name in lower case. -/
structure Header where
  name : String
  value : String
  deriving DecidableEq, Repr

/-- Headers in the order of the first occurrence of each name. -/
structure Headers where
  entries : List Header
  deriving DecidableEq, Repr

namespace Headers

def empty : Headers := ⟨[]⟩

/-- Put a header behind the last one of its name, or at the end. -/
def place (header : Header) : List Header → List Header
  | [] => [header]
  | first :: rest =>
    if first.name = header.name ∧ !rest.any (·.name = header.name) then first :: header :: rest
    else first :: place header rest

def add (headers : Headers) (name value : String) : Headers :=
  ⟨place ⟨String.ofList (name.toList.map Char.toLower), value⟩ headers.entries⟩

def ofList (pairs : List (String × String)) : Headers :=
  pairs.foldl (fun headers (name, value) => headers.add name value) empty

/-- The first value of a header. -/
def get? (headers : Headers) (name : String) : Option String :=
  (headers.entries.find? fun header => header.name == name).map (·.value)

/-- Whether a value consists of visible ASCII, blanks and tabs. -/
def isPlain (value : String) : Bool :=
  value.toList.all fun c => c = '\t' || (0x20 ≤ c.toNat && c.toNat ≤ 0x7E)

/-- The first value of a header, if it is plain. -/
def text? (headers : Headers) (name : String) : Option String :=
  (headers.get? name).filter isPlain

def sensitiveNames : List String := ["authorization", "cookie", "set-cookie", "x-api-key"]

/-- The headers as they may be logged. -/
def masked (headers : Headers) : List (String × String) :=
  headers.entries.map fun header =>
    (header.name,
      if sensitiveNames.contains header.name then "[REDACTED]"
      else if isPlain header.value then header.value
      else "[invalid utf8]")

end Headers

end AccountLedger
