import AccountLedger.Decimal

/-!
How a computation can end without a value: with an error of its layer, or with an overflow of
decimal arithmetic, which no layer handles and which ends the whole call.
-/

namespace AccountLedger

inductive Failure (ε : Type) where
  | error (cause : ε)
  | overflow (overflow : Overflow)
  deriving DecidableEq, Repr

abbrev Outcome (ε α : Type) := Except (Failure ε) α

namespace Outcome

def fail (cause : ε) : Outcome ε α := .error (.error cause)

/-- A result of arithmetic as a step of a longer computation. -/
def ofArithmetic : Except Overflow α → Outcome ε α
  | .ok value => .ok value
  | .error overflow => .error (.overflow overflow)

def ofExcept : Except ε α → Outcome ε α
  | .ok value => .ok value
  | .error cause => .error (.error cause)

/-- The same outcome with its error seen from another layer. -/
def mapError (f : ε → δ) : Outcome ε α → Outcome δ α
  | .ok value => .ok value
  | .error (.error cause) => .error (.error (f cause))
  | .error (.overflow overflow) => .error (.overflow overflow)

end Outcome

end AccountLedger
