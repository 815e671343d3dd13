import AccountLedger.Digits

/-!
Decimal numbers with a 96-bit coefficient and up to 28 decimals. The scale is part of the value:
`1.50` and `1.5` are different decimals that denote the same number.
-/

namespace AccountLedger

/-- The number `coefficient / 10 ^ scale`. -/
structure Decimal where
  coefficient : Int
  scale : Nat
  coefficient_lt : coefficient.natAbs < 0x1000000000000000000000000
  scale_le : scale ≤ 28
  deriving DecidableEq, Repr

/-- A sum or difference whose integer part needs more than 96 bits. -/
inductive Overflow where
  | addition
  | subtraction
  deriving DecidableEq, Repr

namespace Overflow

def message : Overflow → String
  | .addition => "Addition overflowed"
  | .subtraction => "Subtraction overflowed"

end Overflow

namespace Decimal

def maxScale : Nat := 28

def coefficientLimit : Nat := 0x1000000000000000000000000

/-- The decimal with these parts, if they are in range. -/
def ofParts? (coefficient : Int) (scale : Nat) : Option Decimal :=
  if bounded : coefficient.natAbs < 0x1000000000000000000000000 ∧ scale ≤ 28 then
    some ⟨coefficient, scale, bounded.1, bounded.2⟩
  else none

def zero : Decimal := ⟨0, 0, by decide, by decide⟩

instance : Inhabited Decimal := ⟨zero⟩

/-- Every 64-bit integer is a decimal of scale zero. -/
def ofInt64 (value : Int64) : Decimal :=
  ⟨value.toInt, 0, by
    have low := value.le_toInt
    have high := value.toInt_lt
    omega, by decide⟩

/-- Order of the numbers denoted, whatever the scales. -/
def compare (a b : Decimal) : Ordering :=
  Ord.compare (a.coefficient * Nat.pow 10 b.scale) (b.coefficient * Nat.pow 10 a.scale)

def isZero (a : Decimal) : Bool := a.coefficient == 0

def lt (a b : Decimal) : Bool := a.compare b == .lt

def le (a b : Decimal) : Bool := a.compare b != .gt

def neg (a : Decimal) : Decimal :=
  ⟨-a.coefficient, a.scale, by simpa using a.coefficient_lt, a.scale_le⟩

/-- The smallest scale, at most the given one, at which the coefficient is still whole, and the
coefficient at that scale. -/
def strip : Nat → Int → Int × Nat
  | 0, coefficient => (coefficient, 0)
  | scale + 1, coefficient =>
    if coefficient % 10 = 0 then strip scale (coefficient / 10) else (coefficient, scale + 1)

theorem strip_scale_le (scale : Nat) (coefficient : Int) : (strip scale coefficient).2 ≤ scale := by
  induction scale generalizing coefficient with
  | zero => simp [strip]
  | succ scale ih =>
    unfold strip
    split
    · exact Nat.le_succ_of_le (ih _)
    · exact Nat.le_refl _

theorem strip_natAbs_le (scale : Nat) (coefficient : Int) :
    (strip scale coefficient).1.natAbs ≤ coefficient.natAbs := by
  induction scale generalizing coefficient with
  | zero => simp [strip]
  | succ scale ih =>
    unfold strip
    split
    · have := ih (coefficient / 10)
      omega
    · exact Nat.le_refl _

/-- The same number without trailing zeros after the point. -/
def normalize (a : Decimal) : Decimal :=
  ⟨(strip a.scale a.coefficient).1, (strip a.scale a.coefficient).2,
    Nat.lt_of_le_of_lt (strip_natAbs_le _ _) a.coefficient_lt,
    Nat.le_trans (strip_scale_le _ _) a.scale_le⟩

/-- The nearest natural number to `value / divisor`, ties to the even neighbour. -/
def divideHalfEven (value divisor : Nat) : Nat :=
  let quotient := value / divisor
  let twice := 2 * (value % divisor)
  if twice < divisor then quotient
  else if twice = divisor ∧ quotient % 2 = 0 then quotient
  else quotient + 1

/-- The coefficient with `dropped` fewer decimals, ties to the even neighbour. -/
def dropDigits (coefficient : Int) (dropped : Nat) : Int :=
  coefficient.sign * divideHalfEven coefficient.natAbs (Nat.pow 10 dropped)

/-- The decimal nearest to `coefficient / 10 ^ scale` with as many decimals as 96 bits allow. -/
def fit? (coefficient : Int) (scale : Nat) : Option Decimal :=
  (List.range (scale + 1)).findSome? fun dropped =>
    ofParts? (dropDigits coefficient dropped) (scale - dropped)

/-- The coefficient of `a` written with `scale` decimals. -/
def scaledTo (a : Decimal) (scale : Nat) : Int := a.coefficient * Nat.pow 10 (scale - a.scale)

/-- Sum at the larger scale of the two, or at the largest smaller one that fits. A zero adds
nothing, not even decimals. -/
def sum? (a b : Decimal) : Option Decimal :=
  if a.isZero then some b
  else if b.isZero then some a
  else
    let scale := max a.scale b.scale
    fit? (a.scaledTo scale + b.scaledTo scale) scale

def add (a b : Decimal) : Except Overflow Decimal :=
  match a.sum? b with
  | some total => .ok total
  | none => .error .addition

def sub (a b : Decimal) : Except Overflow Decimal :=
  match a.sum? b.neg with
  | some total => .ok total
  | none => .error .subtraction

/-- Digits of a coefficient with the point before the last `scale` of them and at least one digit
before the point. -/
def magnitudeText (magnitude scale : Nat) : List Char :=
  decimalDigits (magnitude / Nat.pow 10 scale) ++
    (if scale = 0 then [] else '.' :: digitsPadded 10 scale (magnitude % Nat.pow 10 scale))

def toText (a : Decimal) : List Char :=
  (if a.coefficient < 0 then ['-'] else []) ++ magnitudeText a.coefficient.natAbs a.scale

instance : ToString Decimal := ⟨fun a => String.ofList a.toText⟩

end Decimal

end AccountLedger
