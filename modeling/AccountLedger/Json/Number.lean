import AccountLedger.Binary64
import AccountLedger.Decimal.Reader
import AccountLedger.Json

/-!
The numbers that JSON numerals denote. Whole numbers of 64 bits are exact; all others are binary
floating-point numbers, read with at most twenty leading digits.
-/

namespace AccountLedger

/-- A number read from JSON. -/
inductive JsonNumber where
  | natural (value : Nat)
  | negative (magnitude : Nat)
  | floating (negative : Bool) (magnitude : Binary64)
  deriving DecidableEq, Repr

namespace Numeral

def significandLimit : Nat := 0x10000000000000000

/-- Append digits to a significand as long as it stays below the limit; the digits left over. -/
def accumulate (significand : Nat) : List Char → Nat × List Char
  | [] => (significand, [])
  | c :: rest =>
    let next := significand * 10 + (c.toNat - 48)
    if next < significandLimit then accumulate next rest else (significand, c :: rest)

def maxExponent : Nat := 0x7FFFFFFF

/-- The floating-point number of a significand, the power of ten it is to be multiplied by, and a
written exponent. Nothing if it is too large. -/
def floating? (negative : Bool) (significand : Nat) (power : Int)
    (exponent : Option (Bool × List Char)) : Option JsonNumber :=
  let finish := fun (power : Int) =>
    (Binary64.ofScientific? significand power).map (JsonNumber.floating negative)
  match exponent with
  | none => finish power
  | some (downwards, digits) =>
    let written := (digitsValue? 10 digits).getD 0
    if maxExponent < written then
      if significand ≠ 0 ∧ !downwards then none
      else some (.floating negative Binary64.zero)
    else finish (if downwards then power - written else power + written)

/-- The number, unless it is beyond the largest one. -/
def value? (n : Numeral) : Option JsonNumber :=
  let (significand, excess) := accumulate 0 n.whole
  if n.fraction.isEmpty && n.exponent.isNone && excess.isEmpty then
    if !n.negative then some (.natural significand)
    else if significand = 0 ∨ 0x8000000000000000 < significand then
      floating? true significand 0 none
    else some (.negative significand)
  else
    let (significand, ignored) := accumulate significand n.fraction
    let power : Int := (excess.length : Int) - (n.fraction.length - ignored.length : Nat)
    floating? n.negative significand power n.exponent

end Numeral

namespace JsonNumber

def toInt? : JsonNumber → Option Int
  | .natural value => some value
  | .negative magnitude => some (-(magnitude : Int))
  | .floating _ _ => none

/-- The decimal of the number; a floating-point number counts by its shortest text. -/
def toDecimal? : JsonNumber → Option Decimal
  | .natural value => Decimal.ofParts? value 0
  | .negative magnitude => Decimal.ofParts? (-(magnitude : Int)) 0
  | .floating minus magnitude =>
    (Decimal.read ((if minus then ['-'] else []) ++ magnitude.toText)).toOption

end JsonNumber

end AccountLedger
