import AccountLedger.Digits

/-!
Addresses of HTTP calls, brought to the form in which they are sent: dots resolved, and characters
that may not stand in an address written as percent signs and hexadecimal bytes.
-/

namespace AccountLedger

/-- An absolute address: the server, the path there, and what follows `?` and `#`. -/
structure Url where
  origin : String
  path : String
  query : Option String
  fragment : Option String
  deriving DecidableEq, Repr

namespace Url

/-- Characters that are written as bytes everywhere in an address. -/
def isReserved (c : Char) : Bool :=
  c.toNat ≤ 0x20 || 0x7F ≤ c.toNat || c == '"' || c == '<' || c == '>'

def isReservedInPath (c : Char) : Bool :=
  isReserved c || ['#', '?', '\x60', '\x7b', '\x7d'].contains c

def isReservedInQuery (c : Char) : Bool := isReserved c || c == '#' || c == '\''

def isReservedInFragment (c : Char) : Bool := isReserved c || c == '\x60'

/-- A byte as a percent sign and two digits. -/
def encodeByte (byte : UInt8) : List Char := '%' :: (digitsPadded 16 2 byte.toNat).map Char.toUpper

def encodeChar (isReserved : Char → Bool) (c : Char) : List Char :=
  if isReserved c then (String.singleton c).toUTF8.toList.flatMap encodeByte else [c]

def encode (isReserved : Char → Bool) (text : List Char) : String :=
  String.ofList (text.flatMap (encodeChar isReserved))

/-- Whether a segment of a path means the place where it stands. -/
def isHere (segment : List Char) : Bool :=
  [".", "%2e"].contains (String.ofList (segment.map Char.toLower))

/-- Whether a segment of a path means to go up. -/
def isUp (segment : List Char) : Bool :=
  ["..", ".%2e", "%2e.", "%2e%2e"].contains (String.ofList (segment.map Char.toLower))

/-- Put a further segment behind those so far, in reverse order. The last one leaves a trailing
slash if it is a dot. -/
def resolve (done : List (List Char)) : List (List Char) → List (List Char)
  | [] => done
  | [last] =>
    if isUp last then [] :: done.tail
    else if isHere last then [] :: done
    else last :: done
  | segment :: rest =>
    if isUp segment then resolve done.tail rest
    else if isHere segment then resolve done rest
    else resolve (segment :: done) rest

/-- A path with its slashes and dots as they are sent. -/
def pathOf (text : List Char) : String :=
  let slashes := text.map fun c => if c = '\\' then '/' else c
  let segments := ((slashes.flatMap (encodeChar isReservedInPath)).splitOn '/').drop 1
  String.ofList ('/' :: ['/'].intercalate (resolve [] segments).reverse)

def isBlank (c : Char) : Bool := c.toNat ≤ 0x20

/-- The characters of an address: blanks at its ends, line breaks and tabs are no part of it. -/
def charsOf (text : String) : List Char :=
  let trimmed := ((text.toList.dropWhile isBlank).reverse.dropWhile isBlank).reverse
  trimmed.filter fun c => !(['\t', '\n', '\r'].contains c)

/-- An address that consists of a scheme, a server and the rest. -/
def ofText (text : String) : Url :=
  let chars := charsOf text
  let scheme := chars.takeWhile (· != '/')
  let rest := chars.drop (scheme.length + 2)
  let server := rest.takeWhile fun c => !(['/', '\\', '?', '#'].contains c)
  let rest := rest.drop server.length
  let path := rest.takeWhile fun c => c != '?' && c != '#'
  let rest := rest.drop path.length
  let query := rest.takeWhile (· != '#')
  { origin := String.ofList (scheme ++ '/' :: '/' :: server)
    path := pathOf path
    query := if query.isEmpty then none else some (encode isReservedInQuery (query.drop 1))
    fragment := match rest.drop query.length with
      | [] => none
      | _ :: fragment => some (encode isReservedInFragment fragment) }

/-- What is asked for at the server. -/
def target (url : Url) : String :=
  url.path ++ (url.query.map ("?" ++ ·)).getD ""

instance : ToString Url :=
  ⟨fun url => url.origin ++ url.target ++ (url.fragment.map ("#" ++ ·)).getD ""⟩

end Url

/-- The base of addresses without slashes at its end. -/
def baseAddress (text : String) : String :=
  String.ofList (text.toList.reverse.dropWhile (· == '/')).reverse

end AccountLedger
