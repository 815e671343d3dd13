import AccountLedger.Decimal
import AccountLedger.Uuid

/-!
The rules of the ledger that a request can break.
-/

namespace AccountLedger

inductive Refusal where
  | insufficientFunds (account : Uuid) (requested available : Decimal)
  | accountClosed (account : Uuid)
  | nonZeroBalance (account : Uuid) (balance : Decimal)
  | invalidAmount (reason : String)
  | accountNotFound (account : Uuid)
  | sameAccountTransfer
  | currencyMismatch (source target : String)
  | invalid (reason : String)
  deriving DecidableEq, Repr

namespace Refusal

def message : Refusal → String
  | .insufficientFunds account requested available =>
    s!"Insufficient funds in account {account}: requested {requested}, available {available}"
  | .accountClosed account => s!"Account is closed: {account}"
  | .nonZeroBalance account balance => s!"Account {account} has non-zero balance {balance}"
  | .invalidAmount reason => s!"Invalid amount: {reason}"
  | .accountNotFound account => s!"Account not found: {account}"
  | .sameAccountTransfer => "Cannot transfer to the same account"
  | .currencyMismatch source target => s!"Currency mismatch: {source} -> {target}"
  | .invalid reason => s!"Validation failed: {reason}"

/-- Whether the request itself is at fault, whatever the accounts hold. -/
def isValidation : Refusal → Bool
  | .invalidAmount _ => true
  | .invalid _ => true
  | .sameAccountTransfer => true
  | _ => false

def isNotFound : Refusal → Bool
  | .accountNotFound _ => true
  | _ => false

end Refusal

end AccountLedger
