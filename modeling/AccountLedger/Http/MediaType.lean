/-!
Media types of request bodies.
-/

namespace AccountLedger.MediaType

/-- Characters of names, and of values that are not quoted. -/
def isToken (c : Char) : Bool :=
  c.isAlphanum || "!#$%&'*+-.^_`|~".toList.contains c

def isQuotable (c : Char) : Bool := 0x20 ≤ c.toNat && c.toNat != 0x7F

/-- How far a parameter has been read. -/
inductive ParameterPlace where
  | before
  | name
  | valueStart
  | value
  | quoteStart
  | quoted
  | afterQuoted
  deriving DecidableEq, Repr

/-- Whether parameters are well formed from some place on: each has a name, a sign of equality and a
value, quoted or not, and there is a semicolon between two of them. -/
def wellFormedFrom : ParameterPlace → List Char → Bool
  | .before, [] => true
  | .name, [] => false
  | .valueStart, [] => true
  | .value, [] => true
  | .quoteStart, [] => false
  | .quoted, [] => false
  | .afterQuoted, [] => true
  | .before, c :: rest =>
    if c = ' ' then wellFormedFrom .before rest else isToken c && wellFormedFrom .name rest
  | .name, c :: rest =>
    if c = '=' then wellFormedFrom .valueStart rest else isToken c && wellFormedFrom .name rest
  | .valueStart, c :: rest =>
    if c = '"' then wellFormedFrom .quoteStart rest else isToken c && wellFormedFrom .value rest
  | .value, c :: rest =>
    if c = ';' then wellFormedFrom .before rest else isToken c && wellFormedFrom .value rest
  | .quoteStart, c :: rest => isQuotable c && wellFormedFrom .quoted rest
  | .quoted, c :: rest =>
    if c = '"' then wellFormedFrom .afterQuoted rest
    else isQuotable c && wellFormedFrom .quoted rest
  | .afterQuoted, c :: rest =>
    if c = ' ' then wellFormedFrom .afterQuoted rest
    else c == ';' && wellFormedFrom .before rest

/-- The part before the last plus sign that is not at the start, and the part after it. -/
def splitSuffix (name : List Char) : List Char × Option (List Char) :=
  match name.reverse.span (· != '+') with
  | (_, []) => (name, none)
  | (_, [_]) => (name, none)
  | (suffix, _ :: before) => (before.reverse, some suffix.reverse)

/-- Whether a body of this type holds JSON: `application/json`, or a type built on JSON. What the
parameters say does not matter, nor does case. -/
def isJson (text : String) : Bool :=
  match (text.toList.map Char.toLower).span (· != '/') with
  | (name, _ :: rest) =>
    let subtype := rest.takeWhile fun c => c != ';' && c != ' '
    let (base, suffix) := splitSuffix subtype
    name == "application".toList && !subtype.isEmpty && subtype.all isToken &&
      (base == "json".toList || suffix == some "json".toList) &&
      wellFormedFrom .before ((rest.drop subtype.length).drop 1)
  | _ => false

end AccountLedger.MediaType
