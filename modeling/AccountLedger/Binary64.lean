import AccountLedger.Decimal

/-!
Non-negative binary floating-point numbers of 53 bits, as far as numbers in JSON texts need them:
rounding a quotient of naturals to the nearest one, and the shortest decimal that reads back.
-/

namespace AccountLedger

/-- The number `mantissa * 2 ^ exponent`, with `mantissa < 2 ^ 53` and `-1074 ≤ exponent ≤ 971`. -/
structure Binary64 where
  mantissa : Nat
  exponent : Int
  deriving DecidableEq, Repr

namespace Binary64

def zero : Binary64 := ⟨0, -1074⟩

def isZero (x : Binary64) : Bool := x.mantissa == 0

/-- Numerator of the number denoted, over `denominator`. -/
def numerator (x : Binary64) : Nat := x.mantissa * Nat.pow 2 x.exponent.toNat

def denominator (x : Binary64) : Nat := Nat.pow 2 (-x.exponent).toNat

/-- The quotient in units of `2 ^ exponent`, ties to the even neighbour. -/
def unitsOf (numerator denominator : Nat) (exponent : Int) : Nat :=
  Decimal.divideHalfEven (numerator * Nat.pow 2 (-exponent).toNat)
    (denominator * Nat.pow 2 exponent.toNat)

/-- The exponent at which the quotient has 53 bits, or the least one. -/
def exponentOf (numerator denominator : Nat) : Int :=
  let guess := max (-1074) ((Nat.log2 numerator : Int) - Nat.log2 denominator - 53)
  let units := numerator * Nat.pow 2 (-guess).toNat / (denominator * Nat.pow 2 guess.toNat)
  if units < 0x20000000000000 then guess else guess + 1

/-- The nearest such number to a quotient; nothing if that is beyond the largest. -/
def round? (numerator denominator : Nat) : Option Binary64 :=
  if numerator = 0 then some zero
  else
    let exponent := exponentOf numerator denominator
    let units := unitsOf numerator denominator exponent
    let (units, exponent) :=
      if units = 0x20000000000000 then (0x10000000000000, exponent + 1) else (units, exponent)
    if exponent ≤ 971 then some ⟨units, exponent⟩ else none

def mul? (x y : Binary64) : Option Binary64 :=
  round? (x.numerator * y.numerator) (x.denominator * y.denominator)

def div? (x y : Binary64) : Option Binary64 :=
  round? (x.numerator * y.denominator) (x.denominator * y.numerator)

/-- `10 ^ power` to the nearest. -/
def tenPower (power : Nat) : Binary64 := (round? (Nat.pow 10 power) 1).getD zero

/-- The number written as `significand * 10 ^ exponent`, computed with one rounding for each step:
the significand, a power of ten, and their product or quotient. -/
def ofScientific? (significand : Nat) (exponent : Int) : Option Binary64 := do
  let start ← round? significand 1
  if 0 ≤ exponent then
    if exponent ≤ 308 then mul? start (tenPower exponent.toNat)
    else if start.isZero then some start
    else none
  else divide start exponent.natAbs exponent.natAbs
where
  divide (x : Binary64) (power : Nat) : Nat → Option Binary64
    | 0 => some x
    | fuel + 1 =>
      if power ≤ 308 then div? x (tenPower power)
      else if x.isZero then some x
      else do divide (← div? x (tenPower 308)) (power - 308) fuel

/-- Twice the number and the midpoints to its neighbours, all over twice the denominator. -/
structure Interval where
  low : Nat
  high : Nat
  denominator : Nat
  closed : Bool

/-- The numbers that round to `x`. -/
def interval (x : Binary64) : Interval :=
  let unit := Nat.pow 2 x.exponent.toNat
  let narrow := x.mantissa = 0x10000000000000 ∧ -1074 < x.exponent
  { low := if narrow then 4 * x.numerator - unit else 4 * x.numerator - 2 * unit
    high := 4 * x.numerator + 2 * unit
    denominator := 4 * x.denominator
    closed := x.mantissa % 2 = 0 }

/-- Whether `digits * 10 ^ place` lies in the interval. -/
def Interval.contains (range : Interval) (digits : Nat) (place : Int) : Bool :=
  let value := digits * Nat.pow 10 place.toNat * range.denominator
  let low := range.low * Nat.pow 10 (-place).toNat
  let high := range.high * Nat.pow 10 (-place).toNat
  if range.closed then low ≤ value && value ≤ high else low < value && value < high

/-- Number of digits before the point, or the negated number of zeros after it. -/
def magnitude (numerator denominator : Nat) : Int :=
  if denominator ≤ numerator then (decimalDigits (numerator / denominator)).length
  else
    let fits := fun zeros => decide (denominator ≤ numerator * Nat.pow 10 (zeros + 1))
    Int.negOfNat (((List.range 400).find? fits).getD 0)

/-- The nearer of the two neighbours of the number on the grid of `10 ^ place` that lie in the
interval. -/
def onGrid? (x : Binary64) (range : Interval) (place : Int) : Option Nat :=
  let scaledNumerator := x.numerator * Nat.pow 10 (-place).toNat
  let scaledDenominator := x.denominator * Nat.pow 10 place.toNat
  let below := scaledNumerator / scaledDenominator
  let remainder := scaledNumerator % scaledDenominator
  let belowFits := range.contains below place
  let aboveFits := range.contains (below + 1) place
  if belowFits && (2 * remainder < scaledDenominator || !aboveFits) then some below
  else if aboveFits then some (below + 1)
  else none

/-- The fewest digits that read back as `x`, of these the nearest: `(digits, place)` stands for
`digits * 10 ^ place`. -/
def shortest (x : Binary64) : Nat × Int :=
  if x.isZero then (0, 0)
  else
    let range := x.interval
    let top := magnitude x.numerator x.denominator
    let found := (List.range 17).findSome? fun count =>
      let place := top - (count + 1 : Nat)
      (onGrid? x range place).map fun digits => (digits, place)
    found.getD (x.numerator / x.denominator, 0)

/-- The shortest decimal, written without an exponent. -/
def toText (x : Binary64) : List Char :=
  let (digits, place) := x.shortest
  if 0 ≤ place then decimalDigits (digits * Nat.pow 10 place.toNat)
  else
    let (stripped, scale) := Decimal.strip place.natAbs digits
    Decimal.magnitudeText stripped.natAbs scale

end Binary64

end AccountLedger
