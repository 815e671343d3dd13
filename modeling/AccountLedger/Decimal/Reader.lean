import AccountLedger.Decimal

/-!
Reading decimals from text. A plain number has an optional sign, digits with at most one point
among them, and underscores after the first digit. Digits after the point that do not fit the 96
bits or the 28 decimals are rounded away on the first of them.
-/

namespace AccountLedger.Decimal

/-- Why a text is no decimal. -/
inductive ReadError where
  | empty
  | unknownCharacter
  | twoPoints
  | noDigits
  | leadingUnderscore
  | tooManyDigits
  | roundedOverflow
  | badExponent
  | exponentTooLarge (exponent : Nat)
  | tooLarge
  deriving DecidableEq, Repr

namespace ReadError

def message : ReadError → String
  | .empty => "Invalid decimal: empty"
  | .unknownCharacter => "Invalid decimal: unknown character"
  | .twoPoints => "Invalid decimal: two decimal points"
  | .noDigits => "Invalid decimal: no digits found"
  | .leadingUnderscore => "Invalid decimal: must start lead with a number"
  | .tooManyDigits => "Invalid decimal: overflow from too many digits"
  | .roundedOverflow => "Invalid decimal: overflow from mantissa after rounding"
  | .badExponent => "Failed to parse"
  | .exponentTooLarge exponent =>
    s!"Scale exceeds the maximum precision allowed: {exponent} > {maxScale}"
  | .tooLarge => "Number exceeds maximum value that can be represented."

end ReadError

/-- What has been read of a plain number: its digits as a number, how many of them stand after the
point, whether the point and whether any digit has been seen. -/
structure Scan where
  magnitude : Nat
  scale : Nat
  pointSeen : Bool
  digitSeen : Bool

/-- The complaint about a character that cannot stand where it does. -/
def rejectCharacter (c : Char) : ReadError :=
  if c = '.' then .twoPoints
  else if c = '_' then .leadingUnderscore
  else .unknownCharacter

def isDigit (c : Char) : Bool := '0' ≤ c && c ≤ '9'

def digit (c : Char) : Nat := c.toNat - 48

/-- Finish a number whose remaining digits no longer fit: the first of them decides the rounding of
the last digit kept, half up, and the others only have to be digits. -/
def roundOff (scan : Scan) (rest : List Char) : Except ReadError (Nat × Nat) :=
  match rest.find? (fun c => !isDigit c && c != '_') with
  | some c => .error (rejectCharacter c)
  | none =>
    if ((rest.find? isDigit).map digit).getD 0 < 5 then .ok (scan.magnitude, scan.scale)
    else if scan.magnitude + 1 < coefficientLimit then .ok (scan.magnitude + 1, scan.scale)
    else if scan.scale = 0 then .error .roundedOverflow
    else .ok ((scan.magnitude + 1 + 4) / 10, scan.scale - 1)

/-- Read the digits of a plain number from left to right. -/
def scanDigits (scan : Scan) : List Char → Except ReadError (Nat × Nat)
  | [] => if scan.digitSeen then .ok (scan.magnitude, scan.scale) else .error .noDigits
  | c :: rest =>
    if scan.pointSeen && scan.scale ≥ maxScale && scan.digitSeen then
      roundOff scan (c :: rest)
    else if isDigit c then
      let magnitude := scan.magnitude * 10 + digit c
      if magnitude < coefficientLimit then
        scanDigits
          { scan with
            magnitude := magnitude
            scale := if scan.pointSeen then scan.scale + 1 else 0
            digitSeen := true }
          rest
      else if scan.pointSeen then roundOff scan (c :: rest)
      else .error .tooManyDigits
    else if c = '.' && !scan.pointSeen then scanDigits { scan with pointSeen := true } rest
    else if c = '_' && scan.digitSeen then scanDigits scan rest
    else .error (rejectCharacter c)

/-- The decimal of a sign, a magnitude and a scale that a reader found. -/
def ofReading (negative : Bool) (magnitude scale : Nat) : Except ReadError Decimal :=
  match ofParts? (if negative then -(magnitude : Int) else magnitude) scale with
  | some value => .ok value
  | none => .error .tooLarge

def scanStart : Scan := ⟨0, 0, false, false⟩

/-- A number without exponent. -/
def readPlain (text : List Char) : Except ReadError Decimal :=
  match text with
  | [] => .error .empty
  | '-' :: rest => do
    let (magnitude, scale) ← scanDigits scanStart rest
    ofReading true magnitude scale
  | '+' :: rest => do
    let (magnitude, scale) ← scanDigits scanStart rest
    ofReading false magnitude scale
  | _ => do
    let (magnitude, scale) ← scanDigits scanStart text
    ofReading false magnitude scale

def maxExponent : Nat := 0xFFFFFFFF

def readExponent (text : List Char) : Except ReadError Nat :=
  match parseWhole? maxExponent text with
  | none => .error .badExponent
  | some exponent =>
    if exponent > maxScale then .error (.exponentTooLarge exponent) else .ok exponent

/-- The magnitude with `dropped` fewer decimals, halves away from zero. -/
def divideHalfUp (value divisor : Nat) : Nat := (value + divisor / 2) / divisor

/-- Move the point `exponent` places to the left, rounding to 28 decimals. -/
def shiftLeft (a : Decimal) (exponent : Nat) : Except ReadError Decimal :=
  if a.scale + exponent ≤ maxScale then
    ofReading (a.coefficient < 0) a.coefficient.natAbs (a.scale + exponent)
  else
    ofReading (a.coefficient < 0)
      (divideHalfUp a.coefficient.natAbs (Nat.pow 10 (a.scale + exponent - maxScale))) maxScale

/-- Move the point `exponent` places to the right. -/
def shiftRight (a : Decimal) (exponent : Nat) : Except ReadError Decimal :=
  if exponent ≤ a.scale then
    ofReading (a.coefficient < 0) a.coefficient.natAbs (a.scale - exponent)
  else
    ofReading (a.coefficient < 0) (a.coefficient.natAbs * Nat.pow 10 (exponent - a.scale)) 0

def isExponentMark (c : Char) : Bool := c = 'e' || c = 'E'

/-- A plain number, or one followed by a power of ten. -/
def read (text : List Char) : Except ReadError Decimal :=
  match readPlain text with
  | .ok value => .ok value
  | .error plainError =>
    match text.dropWhile (fun c => !isExponentMark c) with
    | [] => .error plainError
    | _ :: exponentText => do
      let base ← readPlain (text.takeWhile (fun c => !isExponentMark c))
      match exponentText with
      | '-' :: digits => shiftLeft base (← readExponent digits)
      | _ => shiftRight base (← readExponent exponentText)

end AccountLedger.Decimal
