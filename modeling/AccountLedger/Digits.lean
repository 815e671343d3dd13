/-!
Digit strings of natural numbers, in any base up to sixteen, and the plain integer texts that
settings and exponents are written in.
-/

namespace AccountLedger

/-- The lower-case character of a digit below sixteen. -/
def digitChar (digit : Nat) : Char :=
  if digit < 10 then Char.ofNat (48 + digit) else Char.ofNat (87 + digit)

/-- The value of a hexadecimal digit of either case. -/
def digitValue? (c : Char) : Option Nat :=
  if '0' ≤ c ∧ c ≤ '9' then some (c.toNat - 48)
  else if 'a' ≤ c ∧ c ≤ 'f' then some (c.toNat - 87)
  else if 'A' ≤ c ∧ c ≤ 'F' then some (c.toNat - 55)
  else none

/-- The last `width` digits of a number, most significant first. -/
def digitsPadded (base : Nat) : Nat → Nat → List Char
  | 0, _ => []
  | width + 1, value => digitsPadded base width (value / base) ++ [digitChar (value % base)]

/-- Decimal digits of a number, without a leading zero unless the number is zero. -/
def decimalDigits (value : Nat) : List Char :=
  if value < 10 then [digitChar value]
  else decimalDigits (value / 10) ++ [digitChar (value % 10)]
termination_by value
decreasing_by omega

/-- The number a digit string denotes; any other character makes it no number. -/
def digitsValue? (base : Nat) (text : List Char) : Option Nat :=
  text.foldl
    (fun total c => do
      let total ← total
      let digit ← digitValue? c
      if digit < base then some (total * base + digit) else none)
    (some 0)

/-- A whole number no larger than `limit`, with an optional plus sign. -/
def parseWhole? (limit : Nat) (text : List Char) : Option Nat :=
  let digits := match text with
    | '+' :: rest => rest
    | rest => rest
  if digits.isEmpty then none
  else (digitsValue? 10 digits).filter (· ≤ limit)

/-- An integer between `-limit - 1` and `limit`, with an optional sign. -/
def parseInteger? (limit : Nat) (text : List Char) : Option Int :=
  match text with
  | '-' :: digits =>
    if digits.isEmpty then none
    else ((digitsValue? 10 digits).filter (· ≤ limit + 1)).map (fun value => -(value : Int))
  | _ => (parseWhole? limit text).map (fun value => (value : Int))

/-- An integer as text: a minus sign for negative numbers, then the decimal digits. -/
def integerText (value : Int) : List Char :=
  (if value < 0 then ['-'] else []) ++ decimalDigits value.natAbs

end AccountLedger
