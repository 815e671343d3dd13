import AccountLedger.Json

/-!
Reading JSON text. Reading never fails: where the text is not JSON, the value has a broken part,
and nothing after that place is read.
-/

namespace AccountLedger.Json

/-- What was read: a value, and the text after it unless the value is broken somewhere. -/
structure Reading (α : Type) where
  value : α
  rest : Option (List Char)

def isSpace (c : Char) : Bool := c = ' ' || c = '\t' || c = '\n' || c = '\r'

def skipSpace (text : List Char) : List Char := text.dropWhile isSpace

def isDigit (c : Char) : Bool := '0' ≤ c && c ≤ '9'

/-- Four hexadecimal digits. -/
def readHex? (text : List Char) : Option (Nat × List Char) :=
  match text with
  | a :: b :: c :: d :: rest => (digitsValue? 16 [a, b, c, d]).map fun value => (value, rest)
  | _ => none

def isLeading (unit : Nat) : Bool := 0xD800 ≤ unit && unit < 0xDC00

def isTrailing (unit : Nat) : Bool := 0xDC00 ≤ unit && unit < 0xE000

/-- The second half of a surrogate pair. -/
def readTrailing? (text : List Char) : Option (Nat × List Char) :=
  match text with
  | '\\' :: 'u' :: digits => (readHex? digits).filter fun (unit, _) => isTrailing unit
  | _ => none

def pairValue (leading trailing : Nat) : Nat :=
  0x10000 + (leading - 0xD800) * 0x400 + (trailing - 0xDC00)

/-- What one backslash and the characters after it stand for; half of a pair stands for nothing. -/
def readEscape? (text : List Char) : Option (Option Char × List Char) :=
  match text with
  | '"' :: rest => some (some '"', rest)
  | '\\' :: rest => some (some '\\', rest)
  | '/' :: rest => some (some '/', rest)
  | 'b' :: rest => some (some (Char.ofNat 0x08), rest)
  | 'f' :: rest => some (some (Char.ofNat 0x0C), rest)
  | 'n' :: rest => some (some '\n', rest)
  | 'r' :: rest => some (some '\r', rest)
  | 't' :: rest => some (some '\t', rest)
  | 'u' :: digits =>
    match readHex? digits with
    | none => none
    | some (unit, rest) =>
      if isLeading unit then
        match readTrailing? rest with
        | some (trailing, rest) => some (some (Char.ofNat (pairValue unit trailing)), rest)
        | none => some (none, rest)
      else if isTrailing unit then some (none, rest)
      else some (some (Char.ofNat unit), rest)
  | _ => none

/-- The characters up to the closing quote, if they are all whole, and the text after it. -/
def readChars : Nat → List Char → Option (Option (List Char) × List Char)
  | 0, _ => none
  | fuel + 1, text =>
    match text with
    | [] => none
    | '"' :: rest => some (some [], rest)
    | '\\' :: rest => do
      let (c, rest) ← readEscape? rest
      let (chars, rest) ← readChars fuel rest
      some (do return (← c) :: (← chars), rest)
    | c :: rest =>
      if c.toNat < 0x20 then none
      else do
        let (chars, rest) ← readChars fuel rest
        some (chars.map (c :: ·), rest)

/-- A string after its opening quote. -/
def readText? (text : List Char) : Option (Option String × List Char) :=
  (readChars (text.length + 1) text).map fun (chars, rest) => (chars.map String.ofList, rest)

/-- One or more digits. -/
def readDigits? (text : List Char) : Option (List Char × List Char) :=
  let digits := text.takeWhile isDigit
  if digits.isEmpty then none else some (digits, text.dropWhile isDigit)

def readFraction? (text : List Char) : Option (List Char × List Char) :=
  match text with
  | '.' :: rest => readDigits? rest
  | _ => some ([], text)

def readExponent? (text : List Char) : Option (Option (Bool × List Char) × List Char) :=
  match text with
  | c :: rest =>
    if c = 'e' ∨ c = 'E' then
      match rest with
      | '-' :: digits => (readDigits? digits).map fun (digits, rest) => (some (true, digits), rest)
      | '+' :: digits => (readDigits? digits).map fun (digits, rest) => (some (false, digits), rest)
      | _ => (readDigits? rest).map fun (digits, rest) => (some (false, digits), rest)
    else some (none, text)
  | [] => some (none, [])

/-- A number: no leading zero, digits on both sides of a point, digits in an exponent. -/
def readNumeral? (text : List Char) : Option (Numeral × List Char) := do
  let (negative, text) := match text with
    | '-' :: rest => (true, rest)
    | _ => (false, text)
  let (whole, rest) ← readDigits? text
  if whole.head? = some '0' ∧ 1 < whole.length then none
  let (fraction, rest) ← readFraction? rest
  let (exponent, rest) ← readExponent? rest
  some (⟨negative, whole, fraction, exponent⟩, rest)

/-- The rest of the text after this word. -/
def readWord? : List Char → List Char → Option (List Char)
  | [], text => some text
  | _ :: _, [] => none
  | c :: word, d :: text => if c = d then readWord? word text else none

def literal (word : String) (value : Json) (text : List Char) : Reading Json :=
  match readWord? word.toList text with
  | some rest => ⟨value, some rest⟩
  | none => ⟨.broken, none⟩

def stringOf : Option String → Json
  | some text => .string text
  | none => .unpaired

mutual

/-- A value after optional space. The fuel bounds the number of values and separators read. -/
def readValue : Nat → List Char → Reading Json
  | 0, _ => ⟨.broken, none⟩
  | fuel + 1, text =>
    match skipSpace text with
    | [] => ⟨.broken, none⟩
    | '"' :: rest =>
      match readText? rest with
      | some (text, rest) => ⟨stringOf text, some rest⟩
      | none => ⟨.broken, none⟩
    | '[' :: rest =>
      match skipSpace rest with
      | ']' :: rest => ⟨.array [], some rest⟩
      | _ =>
        let items := readItems fuel rest
        ⟨.array items.value, items.rest⟩
    | '\x7b' :: rest =>
      match skipSpace rest with
      | '\x7d' :: rest => ⟨.object [], some rest⟩
      | _ =>
        let members := readMembers fuel rest
        ⟨.object members.value, members.rest⟩
    | 'n' :: rest => literal "null" .null ('n' :: rest)
    | 't' :: rest => literal "true" (.bool true) ('t' :: rest)
    | 'f' :: rest => literal "false" (.bool false) ('f' :: rest)
    | c :: rest =>
      match readNumeral? (c :: rest) with
      | some (numeral, rest) => ⟨.number numeral, some rest⟩
      | none => ⟨.broken, none⟩

/-- One or more items and the closing bracket. -/
def readItems : Nat → List Char → Reading (List Json)
  | 0, _ => ⟨[.broken], none⟩
  | fuel + 1, text =>
    let first := readValue fuel text
    match first.rest with
    | none => ⟨[first.value], none⟩
    | some rest =>
      match skipSpace rest with
      | ']' :: rest => ⟨[first.value], some rest⟩
      | ',' :: rest =>
        let others := readItems fuel rest
        ⟨first.value :: others.value, others.rest⟩
      | _ => ⟨[first.value, .broken], none⟩

/-- One or more members and the closing brace. -/
def readMembers : Nat → List Char → Reading (List (Option String × Json))
  | 0, _ => ⟨[(none, .broken)], none⟩
  | fuel + 1, text =>
    match skipSpace text with
    | '"' :: rest =>
      match readText? rest with
      | none => ⟨[(none, .broken)], none⟩
      | some (name, rest) =>
        match skipSpace rest with
        | ':' :: rest =>
          let first := readValue fuel rest
          match first.rest with
          | none => ⟨[(name, first.value)], none⟩
          | some rest =>
            match skipSpace rest with
            | '\x7d' :: rest => ⟨[(name, first.value)], some rest⟩
            | ',' :: rest =>
              let others := readMembers fuel rest
              ⟨(name, first.value) :: others.value, others.rest⟩
            | _ => ⟨[(name, first.value), (none, .broken)], none⟩
        | _ => ⟨[(name, .broken)], none⟩
    | _ => ⟨[(none, .broken)], none⟩

end

/-- The first value of a text and whether only space follows it. -/
def readDocument (text : List Char) : Json × Bool :=
  let reading := readValue (text.length + 1) text
  (reading.value, match reading.rest with
    | some rest => (skipSpace rest).isEmpty
    | none => false)

end AccountLedger.Json
