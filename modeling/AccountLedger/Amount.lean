import AccountLedger.Decimal.Reader
import AccountLedger.Json.Decoder

/-!
Amounts that can be moved, and account balances. An amount is positive, has at most four decimals
that matter, and is at most a trillion; it keeps the scale it was written with.
-/

namespace AccountLedger

/-- Why a number is no amount. -/
inductive AmountError where
  | notPositive (value : Decimal)
  | tooManyDecimals (scale : Nat)
  | tooLarge
  | unreadable (error : Decimal.ReadError)
  deriving DecidableEq, Repr

namespace Amount

def maxScale : Nat := 4

def maximum : Decimal :=
  { Decimal.zero with coefficient := 1000000000000, coefficient_lt := by decide }

end Amount

namespace AmountError

def message : AmountError → String
  | .notPositive value => s!"Amount must be positive (got {value})"
  | .tooManyDecimals scale =>
    s!"Amount has too many decimal places (max {Amount.maxScale}, got {scale})"
  | .tooLarge => s!"Amount exceeds maximum allowed value ({Amount.maximum})"
  | .unreadable error => s!"Invalid amount format: {error.message}"

end AmountError

namespace Amount

/-- The first complaint about a number as an amount. -/
def complaint? (value : Decimal) : Option AmountError :=
  if value.le Decimal.zero then some (.notPositive value)
  else if maxScale < value.normalize.scale then some (.tooManyDecimals value.normalize.scale)
  else if maximum.lt value then some .tooLarge
  else none

end Amount

/-- A number that can be moved between accounts. -/
structure Amount where
  value : Decimal
  admitted : Amount.complaint? value = none
  deriving DecidableEq

namespace Amount

def ofDecimal (value : Decimal) : Except AmountError Amount :=
  match complaint : complaint? value with
  | some error => .error error
  | none => .ok ⟨value, complaint⟩

def ofInt64 (value : Int64) : Except AmountError Amount := ofDecimal (Decimal.ofInt64 value)

def read (text : List Char) : Except AmountError Amount :=
  match Decimal.read text with
  | .ok value => ofDecimal value
  | .error error => .error (.unreadable error)

def compare (a b : Amount) : Ordering := a.value.compare b.value

instance : ToString Amount := ⟨fun a => toString a.value⟩

def decode : Decoder Amount := fun json => do
  let value ← Decoder.decimal json
  match ofDecimal value with
  | .ok amount => .ok amount
  | .error error => .error (.refused error.message)

end Amount

/-- What an account holds; it may be negative. -/
structure Balance where
  value : Decimal
  deriving DecidableEq, Repr, Inhabited

namespace Balance

def zero : Balance := ⟨Decimal.zero⟩

/-- What can be taken out with this overdraft limit. -/
def available (balance : Balance) (overdraftLimit : Decimal) : Except Overflow Decimal :=
  balance.value.add overdraftLimit

/-- Whether taking the amount out stays within the overdraft limit. -/
def canCover (balance : Balance) (amount : Amount) (overdraftLimit : Decimal) :
    Except Overflow Bool := do
  let left ← balance.value.sub amount.value
  return overdraftLimit.neg.le left

def credit (balance : Balance) (amount : Amount) : Except Overflow Balance :=
  (balance.value.add amount.value).map Balance.mk

def debit (balance : Balance) (amount : Amount) : Except Overflow Balance :=
  (balance.value.sub amount.value).map Balance.mk

end Balance

/-- The JSON form of a decimal: its text. -/
def Decimal.toJson (value : Decimal) : Json := .string (toString value)

end AccountLedger
