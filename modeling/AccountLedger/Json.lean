import AccountLedger.Digits

/-!
JSON values as they are written: numbers keep their digits and objects the order of their members.
A text that stops being JSON somewhere is a value too, with a `broken` part at that place, so that
a reader who meets another fault first can report that one.
-/

namespace AccountLedger

/-- A number as written. No fraction digits means no point. The exponent is a sign and digits. -/
structure Numeral where
  negative : Bool
  whole : List Char
  fraction : List Char
  exponent : Option (Bool × List Char)
  deriving DecidableEq, Repr

/-- A JSON value. A string or a member name that holds half of a surrogate pair has no text. -/
inductive Json where
  | null
  | bool (value : Bool)
  | number (numeral : Numeral)
  | string (text : String)
  | unpaired
  | array (items : List Json)
  | object (members : List (Option String × Json))
  | broken
  deriving Repr, Inhabited

namespace Json

def ofInt (value : Int) : Json :=
  .number ⟨value < 0, decimalDigits value.natAbs, [], none⟩

def ofNat (value : Nat) : Json := .number ⟨false, decimalDigits value, [], none⟩

def ofOption (encode : α → Json) : Option α → Json
  | none => .null
  | some value => encode value

/-- An object with these members. -/
def record (members : List (String × Json)) : Json :=
  .object (members.map fun (name, value) => (some name, value))

/-- A character inside a string: control characters, quotes and backslashes are escaped. -/
def escape (c : Char) : List Char :=
  if c = '"' then ['\\', '"']
  else if c = '\\' then ['\\', '\\']
  else if 0x20 ≤ c.toNat then [c]
  else if c.toNat = 0x08 then ['\\', 'b']
  else if c.toNat = 0x09 then ['\\', 't']
  else if c.toNat = 0x0A then ['\\', 'n']
  else if c.toNat = 0x0C then ['\\', 'f']
  else if c.toNat = 0x0D then ['\\', 'r']
  else '\\' :: 'u' :: digitsPadded 16 4 c.toNat

def quote (text : List Char) : List Char := '"' :: text.flatMap escape ++ ['"']

def numeralText (n : Numeral) : List Char :=
  (if n.negative then ['-'] else []) ++ n.whole ++
    (if n.fraction.isEmpty then [] else '.' :: n.fraction) ++
    (match n.exponent with
      | none => []
      | some (negative, digits) => 'e' :: (if negative then '-' :: digits else digits))

/-- Parts with commas between them. -/
def separated : List (List Char) → List Char
  | [] => []
  | [part] => part
  | part :: rest => part ++ ',' :: separated rest

mutual

/-- The value without blanks. -/
def render : Json → List Char
  | .null => ['n', 'u', 'l', 'l']
  | .bool true => ['t', 'r', 'u', 'e']
  | .bool false => ['f', 'a', 'l', 's', 'e']
  | .number numeral => numeralText numeral
  | .string text => quote text.toList
  | .unpaired => []
  | .array items => '[' :: separated (renderItems items) ++ [']']
  | .object members => '\x7b' :: separated (renderMembers members) ++ ['\x7d']
  | .broken => []

def renderItems : List Json → List (List Char)
  | [] => []
  | item :: rest => render item :: renderItems rest

def renderMembers : List (Option String × Json) → List (List Char)
  | [] => []
  | (name, value) :: rest =>
    (quote (name.getD "").toList ++ ':' :: render value) :: renderMembers rest

end

def text (json : Json) : String := String.ofList json.render

end Json

end AccountLedger
