import AccountLedger.Proofs.Ledger.Movement
import Mathlib.Algebra.BigOperators.Group.List.Basic

/-!
The ledger told from its events: what each event means for an account, and that every movement keeps
the stored accounts in step with the events recorded so far.
-/

namespace AccountLedger

namespace LedgerEvent

/-- The accounts that an event names. -/
def accounts : LedgerEvent → List Uuid
  | .accountOpened account _ _ _ => [account]
  | .accountClosed account _ => [account]
  | .fundsDeposited account _ _ _ => [account]
  | .fundsWithdrawn account _ _ _ => [account]
  | .fundsTransferred _ source target _ _ => [source, target]

/-- What an event pays into an account; what it takes out counts negative. -/
def payment (id : Uuid) : LedgerEvent → ℚ
  | .accountOpened .. => 0
  | .accountClosed .. => 0
  | .fundsDeposited account amount _ _ => if account = id then amount.toRat else 0
  | .fundsWithdrawn account amount _ _ => if account = id then -amount.toRat else 0
  | .fundsTransferred _ source target amount _ =>
    (if target = id then amount.toRat else 0) - (if source = id then amount.toRat else 0)

def opens (id : Uuid) : LedgerEvent → Bool
  | .accountOpened account _ _ _ => account = id
  | _ => false

def closes (id : Uuid) : LedgerEvent → Bool
  | .accountClosed account _ => account = id
  | _ => false

/-- An event that names an account and is not that of its opening. -/
def changes (id : Uuid) : LedgerEvent → Bool
  | .accountOpened .. => false
  | event => id ∈ event.accounts

variable {id : Uuid} {event : LedgerEvent}

/-- An event means nothing for accounts that it does not name. -/
theorem payment_of_not_mem (unnamed : id ∉ event.accounts) : event.payment id = 0 := by
  cases event <;> simp_all [accounts, payment, eq_comm]

theorem opens_of_not_mem (unnamed : id ∉ event.accounts) : event.opens id = false := by
  cases event <;> simp_all [accounts, opens, eq_comm]

theorem closes_of_not_mem (unnamed : id ∉ event.accounts) : event.closes id = false := by
  cases event <;> simp_all [accounts, closes, eq_comm]

theorem changes_of_not_mem (unnamed : id ∉ event.accounts) : event.changes id = false := by
  cases event <;> simp_all [changes]

end LedgerEvent

/-- A stored account is what the events say. -/
structure RowTold (row : Account) (events : List LedgerEvent) : Prop where
  money : row.balance.value.IsMoney
  balance : row.balance.value.toRat = (events.map (LedgerEvent.payment row.id)).sum
  revision : row.revision = events.countP (LedgerEvent.changes row.id)
  opened : events.countP (LedgerEvent.opens row.id) = 1
  closed : events.countP (LedgerEvent.closes row.id) = if row.status = .closed then 1 else 0

/-- All stored accounts are what the events say, and these name no others. -/
structure Told (accounts : Table Uuid Account) (events : List LedgerEvent) : Prop where
  stored : ∀ id row, accounts.find? id = some row → RowTold row events
  named : ∀ event ∈ events, ∀ id ∈ event.accounts, ∃ row, accounts.find? id = some row

/-- What one event says of a stored account. -/
structure Tallied (row after : Account) (event : LedgerEvent) : Prop where
  id : after.id = row.id
  revision : after.revision = row.revision + 1
  balance : row.balance.value.IsMoney → |after.balance.value.toRat| ≤ Decimal.moneyLimit →
    after.balance.value.toRat = row.balance.value.toRat + event.payment row.id ∧
      after.balance.value.IsMoney
  changes : event.changes row.id = true
  opens : event.opens row.id = false
  closes : event.closes row.id = true ∧ row.status = .active ∧ after.status = .closed ∨
    event.closes row.id = false ∧ after.status = row.status

variable {row after : Account} {events : List LedgerEvent} {event : LedgerEvent}

theorem RowTold.tallied (told : RowTold row events) (tallied : Tallied row after event)
    (bounded : |after.balance.value.toRat| ≤ Decimal.moneyLimit) :
    RowTold after (events ++ [event]) := by
  obtain ⟨balance, money⟩ := tallied.balance told.money bounded
  refine ⟨money, ?_, ?_, ?_, ?_⟩ <;> rw [tallied.id]
  · rw [balance, told.balance]
    simp
  · rw [tallied.revision, told.revision]
    simp [tallied.changes]
  · rw [← told.opened]
    simp [tallied.opens]
  · have before := told.closed
    rcases tallied.closes with ⟨closes, active, closed⟩ | ⟨closes, same⟩
    · rw [active] at before
      simp [closes, closed, before]
    · rw [same, ← before]
      simp [closes]

/-- Events that do not name an account leave what is told of it. -/
theorem RowTold.unnamed (told : RowTold row events) (unnamed : row.id ∉ event.accounts) :
    RowTold row (events ++ [event]) := by
  refine ⟨told.money, ?_, ?_, ?_, ?_⟩
  · rw [told.balance]
    simp [LedgerEvent.payment_of_not_mem unnamed]
  · rw [told.revision]
    simp [LedgerEvent.changes_of_not_mem unnamed]
  · rw [← told.opened]
    simp [LedgerEvent.opens_of_not_mem unnamed]
  · rw [← told.closed]
    simp [LedgerEvent.closes_of_not_mem unnamed]

/-- A new account is told of by its opening alone. -/
theorem RowTold.opened_new {id owner : Uuid} {code : String} {limit : Decimal} {created : Timestamp}
    (unnamed : ∀ event ∈ events, id ∉ event.accounts) :
    RowTold (Account.opened id owner code limit created)
      (events ++ [.accountOpened id owner code created]) := by
  have payments : (events.map (LedgerEvent.payment id)).sum = 0 := by
    apply List.sum_eq_zero
    intro payment member
    obtain ⟨event, inside, rfl⟩ := List.mem_map.mp member
    exact LedgerEvent.payment_of_not_mem (unnamed event inside)
  have changes : events.countP (LedgerEvent.changes id) = 0 :=
    List.countP_eq_zero.mpr fun event inside => by
      simp [LedgerEvent.changes_of_not_mem (unnamed event inside)]
  have openings : events.countP (LedgerEvent.opens id) = 0 :=
    List.countP_eq_zero.mpr fun event inside => by
      simp [LedgerEvent.opens_of_not_mem (unnamed event inside)]
  have closings : events.countP (LedgerEvent.closes id) = 0 :=
    List.countP_eq_zero.mpr fun event inside => by
      simp [LedgerEvent.closes_of_not_mem (unnamed event inside)]
  refine ⟨⟨0, ?_⟩, ?_, ?_, ?_, ?_⟩
  · simp [Account.opened, Balance.zero, Decimal.zero_toRat]
  · simp [Account.opened, Balance.zero, Decimal.zero_toRat, payments, LedgerEvent.payment]
  · simp [Account.opened, changes, LedgerEvent.changes]
  · simp [Account.opened, openings, LedgerEvent.opens]
  · simp [Account.opened, closings, LedgerEvent.closes]

theorem tallied_closed {now : Timestamp} (done : row.close now = .ok after) :
    Tallied row after.stored (.accountClosed row.id now) := by
  obtain ⟨active, zero, rfl⟩ := Account.close_ok.mp done
  refine ⟨rfl, rfl, fun money _ => ⟨(add_zero _).symm, money⟩, ?_, rfl,
    Or.inl ⟨?_, active, rfl⟩⟩
  · simp [LedgerEvent.changes, LedgerEvent.accounts]
  · simp [LedgerEvent.closes]

/-- A credit that an event tells of. -/
theorem tallied_credited {amount : Amount} {now : Timestamp}
    (done : row.credit amount now = .ok after)
    (payment : event.payment row.id = amount.value.toRat) (changes : event.changes row.id = true)
    (opens : event.opens row.id = false) (closes : event.closes row.id = false) :
    Tallied row after.stored event := by
  obtain ⟨active, balance, credited, rfl⟩ := Account.credit_ok.mp done
  refine ⟨rfl, rfl, fun money bounded => ?_, changes, opens, Or.inr ⟨closes, rfl⟩⟩
  have exact := Balance.credit_exact money credited bounded
  exact ⟨payment ▸ exact, Decimal.IsMoney.of_toRat_add money amount.isMoney exact⟩

theorem tallied_debited {amount : Amount} {now : Timestamp}
    (done : row.debit amount now = .ok after)
    (payment : event.payment row.id = -amount.value.toRat) (changes : event.changes row.id = true)
    (opens : event.opens row.id = false) (closes : event.closes row.id = false) :
    Tallied row after.stored event := by
  obtain ⟨active, _, balance, debited, rfl⟩ := Account.debit_ok.mp done
  refine ⟨rfl, rfl, fun money bounded => ?_, changes, opens, Or.inr ⟨closes, rfl⟩⟩
  have exact : balance.value.toRat = row.balance.value.toRat + -amount.value.toRat := by
    rw [Balance.debit_exact money debited bounded, sub_eq_add_neg]
  refine ⟨payment ▸ exact, ?_⟩
  rw [← Decimal.neg_toRat] at exact
  exact Decimal.IsMoney.of_toRat_add money amount.isMoney.neg exact

namespace Movement

variable {tables : Tables} {rows : List Account}

/-- A movement stores just the accounts that its event names. -/
theorem accounts (movement : Movement tables rows event) : event.accounts = rows.map (·.id) := by
  have same : ∀ {row after : Account}, row.Moved after → after.stored.id = row.id :=
    fun moved => moved.terms.id
  cases movement with
  | opened => rfl
  | closed _ done => simp [LedgerEvent.accounts, same (Account.close_moved done)]
  | deposited _ done => simp [LedgerEvent.accounts, same (Account.credit_moved done)]
  | withdrawn _ done => simp [LedgerEvent.accounts, same (Account.debit_moved done)]
  | transferred _ _ _ paid received =>
    simp [LedgerEvent.accounts, same (Account.debit_moved paid),
      same (Account.credit_moved received)]

/-- What is stored by a movement is what the events say, its own included. -/
theorem rowTold (movement : Movement tables rows event) (told : Told tables.accounts events)
    {after : Account} (member : after ∈ rows)
    (bounded : |after.balance.value.toRat| ≤ Decimal.moneyLimit) :
    RowTold after (events ++ [event]) := by
  have changed : ∀ {row : Account}, tables.accounts.find? row.id = some row →
      Tallied row after event → RowTold after (events ++ [event]) :=
    fun stored tallied => (told.stored _ _ stored).tallied tallied bounded
  cases movement with
  | opened new =>
    cases List.mem_singleton.mp member
    apply RowTold.opened_new
    intro event inside named
    obtain ⟨row, stored⟩ := told.named event inside _ named
    cases new.symm.trans stored
  | closed stored done =>
    cases List.mem_singleton.mp member
    exact changed stored (tallied_closed done)
  | deposited stored done =>
    cases List.mem_singleton.mp member
    refine changed stored (tallied_credited done ?_ ?_ rfl rfl) <;>
      simp [LedgerEvent.payment, LedgerEvent.changes, LedgerEvent.accounts]
  | withdrawn stored done =>
    cases List.mem_singleton.mp member
    refine changed stored (tallied_debited done ?_ ?_ rfl rfl) <;>
      simp [LedgerEvent.payment, LedgerEvent.changes, LedgerEvent.accounts]
  | transferred paying paid differ debited credited =>
    rcases List.mem_cons.mp member with rfl | other
    · refine changed paying (tallied_debited debited ?_ ?_ rfl rfl) <;>
        simp [LedgerEvent.payment, LedgerEvent.changes, LedgerEvent.accounts, differ.symm]
    · cases List.mem_singleton.mp other
      refine changed paid (tallied_credited credited ?_ ?_ rfl rfl) <;>
        simp [LedgerEvent.payment, LedgerEvent.changes, LedgerEvent.accounts, differ]

/-- Every movement keeps the accounts in step with the events. -/
theorem told (movement : Movement tables rows event) (before : Told tables.accounts events)
    (keyed : tables.Keyed)
    (bounded : ∀ id row, (tables.accounts.putAll Account.id rows).find? id = some row →
      |row.balance.value.toRat| ≤ Decimal.moneyLimit) :
    Told (tables.accounts.putAll Account.id rows) (events ++ [event]) := by
  refine ⟨fun id row stored => ?_, fun other inside id named => ?_⟩
  · rcases tables.accounts.putAll_find? Account.id rows id with
      ⟨absent, found⟩ | ⟨after, member, rfl, found⟩
    · have earlier := found.symm.trans stored
      apply (before.stored id row earlier).unnamed
      rw [movement.accounts, keyed id row earlier]
      exact absent
    · cases found.symm.trans stored
      exact movement.rowTold before member (bounded _ row stored)
  · rcases tables.accounts.putAll_find? Account.id rows id with
      ⟨absent, found⟩ | ⟨after, member, rfl, found⟩
    · rw [found]
      rcases List.mem_append.mp inside with earlier | now
      · exact before.named other earlier id named
      · cases List.mem_singleton.mp now
        rw [movement.accounts] at named
        exact absurd named absent
    · exact ⟨after, found⟩

end Movement

end AccountLedger
