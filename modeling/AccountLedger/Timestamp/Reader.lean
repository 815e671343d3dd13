import AccountLedger.Timestamp

/-!
Reading RFC 3339 times, with the latitude that blanks may stand between the parts, a blank may
take the place of the `T`, and numbers may have fewer digits than usual.
-/

namespace AccountLedger.Timestamp

open Text

def isDecimalDigit (c : Char) : Bool := '0' ≤ c && c ≤ '9'

/-- The number that at most `width` leading digits denote, and the text after them. -/
def readNumber? (width : Nat) (text : List Char) : Option (Nat × List Char) := do
  let digits := (text.take width).takeWhile isDecimalDigit
  if digits.isEmpty then none
  let value ← digitsValue? 10 digits
  if value < 0x8000000000000000 then some (value, text.drop digits.length) else none

/-- Blanks, then a number that has to lie in the given range. -/
def readField? (width low high : Nat) (text : List Char) : Option (Nat × List Char) := do
  let (value, rest) ← readNumber? width (trimStart text)
  if low ≤ value ∧ value ≤ high then some (value, rest) else none

/-- Blanks, then a year: four digits at most, or any number of them after a sign. -/
def readYear? (text : List Char) : Option (Int × List Char) :=
  match trimStart text with
  | '-' :: rest => (readNumber? rest.length rest).map fun (value, rest) => (-(value : Int), rest)
  | '+' :: rest => (readNumber? rest.length rest).map fun (value, rest) => ((value : Int), rest)
  | rest => (readNumber? 4 rest).map fun (value, rest) => ((value : Int), rest)

/-- Blanks, then this character. -/
def readMark? (mark : Char) (text : List Char) : Option (List Char) :=
  match trimStart text with
  | c :: rest => if c = mark then some rest else none
  | [] => none

/-- A point and digits, the first nine of which count, or nothing. -/
def readFraction? (text : List Char) : Option (Nat × List Char) :=
  match text with
  | '.' :: rest => do
    let digits := (rest.take 9).takeWhile isDecimalDigit
    if digits.isEmpty then none
    let value ← digitsValue? 10 digits
    some (value * Nat.pow 10 (9 - digits.length),
      (rest.drop digits.length).dropWhile isDecimalDigit)
  | _ => some (0, text)

def readTwoDigits? (text : List Char) : Option (Nat × List Char) :=
  match text with
  | a :: b :: rest => (digitsValue? 10 [a, b]).map fun value => (value, rest)
  | _ => none

/-- An offset from UTC in seconds: `Z`, `UTC`, or signed hours and minutes. -/
def readOffset? (text : List Char) : Option (Int × List Char) :=
  if (text.take 3).map Char.toUpper = ['U', 'T', 'C'] then some (0, text.drop 3)
  else
    match text with
    | [] => none
    | sign :: rest =>
      if sign = 'Z' ∨ sign = 'z' then some (0, rest)
      else if sign = '+' ∨ sign = '-' ∨ sign = '−' then do
        let (hours, rest) ← readTwoDigits? rest
        let (minutes, rest) ← readTwoDigits? (rest.dropWhile fun c => c = ':' || isBlank c)
        if minutes < 60 then
          let seconds : Int := hours * 3600 + minutes * 60
          some (if sign = '+' then seconds else -seconds, rest)
        else none
      else none

def readSeparator? (text : List Char) : Option (List Char) :=
  match text with
  | c :: rest => if c = 'T' ∨ c = 't' ∨ c = ' ' then some rest else none
  | [] => none

def read? (text : List Char) : Option Timestamp := do
  let (year, text) ← readYear? text
  let text ← readMark? '-' text
  let (month, text) ← readField? 2 1 12 text
  let text ← readMark? '-' text
  let (day, text) ← readField? 2 1 31 text
  let text ← readSeparator? text
  let (hour, text) ← readField? 2 0 23 text
  let text ← readMark? ':' text
  let (minute, text) ← readField? 2 0 59 text
  let text ← readMark? ':' text
  let (second, text) ← readField? 2 0 60 text
  let (fraction, text) ← readFraction? text
  let (offset, text) ← readOffset? (trimStart text)
  let date : CivilDate := ⟨year, month, day⟩
  if !(trimStart text).isEmpty || !date.isValid || 86400 ≤ offset.natAbs then none
  else
    let leap := second = 60
    let seconds : Int :=
      date.toDays * 86400 + hour * 3600 + minute * 60 + (if leap then 59 else second) - offset
    let result : Timestamp := ⟨seconds, fraction + (if leap then nanosPerSecond else 0)⟩
    if result.inRange then some result else none

end AccountLedger.Timestamp
