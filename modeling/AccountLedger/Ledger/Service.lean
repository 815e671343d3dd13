import AccountLedger.Ledger.Action
import AccountLedger.Settings

/-!
The ledger service: changes of the ledger whose outbox entries are dispatched once they are
committed.
-/

namespace AccountLedger

/-- How long a row lock is waited for, and the overdraft limit of accounts opened without one. -/
structure LedgerPolicy where
  lockTimeoutMs : Nat
  defaultOverdraftLimit : Decimal
  deriving DecidableEq

/-- The policy that the settings ask for. -/
def Settings.ledgerPolicy (settings : Settings) : LedgerPolicy :=
  ⟨settings.lockTimeoutMs, settings.defaultOverdraftLimit⟩

namespace LedgerPolicy

/-- Start the delivery of a committed change. -/
def publish (action : LedgerAction (Committed α)) : LedgerAction α := do
  let committed ← action
  let () ← ExceptT.lift (HostRequest.dispatch committed.entry).perform
  return committed.value

def openAccount (policy : LedgerPolicy) (owner : Uuid) (currency : String)
    (overdraftLimit : Option Decimal) : LedgerAction Account :=
  publish (LedgerAction.openAccount owner currency
    (overdraftLimit.getD policy.defaultOverdraftLimit))

def closeAccount (policy : LedgerPolicy) (account : Uuid) : LedgerAction Account :=
  publish (LedgerAction.closeAccount account policy.lockTimeoutMs)

def deposit (policy : LedgerPolicy) (account : Uuid) (amount : Amount) : LedgerAction Account :=
  publish (LedgerAction.deposit account amount policy.lockTimeoutMs)

def withdraw (policy : LedgerPolicy) (account : Uuid) (amount : Amount) : LedgerAction Account :=
  publish (LedgerAction.withdraw account amount policy.lockTimeoutMs)

def transfer (policy : LedgerPolicy) (source target : Uuid) (amount : Amount) :
    LedgerAction TransferReceipt :=
  publish (LedgerAction.transfer source target amount policy.lockTimeoutMs)

end LedgerPolicy

end AccountLedger
