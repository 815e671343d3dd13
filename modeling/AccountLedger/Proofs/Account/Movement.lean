import AccountLedger.Account

/-!
When money can be moved into or out of an account, when it can be closed, and what changes then.
-/

namespace AccountLedger

namespace Outcome

variable {ε α β : Type}

theorem ofExcept_eq_ok {result : Except ε α} {value : α} :
    ofExcept result = .ok value ↔ result = .ok value := by
  cases result <;> simp [ofExcept]

theorem ofArithmetic_eq_ok {result : Except Overflow α} {value : α} :
    (ofArithmetic result : Outcome ε α) = .ok value ↔ result = .ok value := by
  cases result <;> simp [ofArithmetic]

theorem bind_eq_ok {outcome : Outcome ε α} {next : α → Outcome ε β} {value : β} :
    outcome >>= next = .ok value ↔ ∃ first, outcome = .ok first ∧ next first = .ok value := by
  cases outcome <;> simp [bind, Except.bind]

end Outcome

namespace Account

variable {account after : Account} {amount : Amount} {now : Timestamp}

theorem ensureActive_ok : account.ensureActive = .ok () ↔ account.status = .active := by
  unfold ensureActive
  split <;> simp_all [Outcome.fail]

theorem ensureFunds_ok : account.ensureFunds amount = .ok () ↔
    account.balance.canCover amount account.overdraftLimit = .ok true := by
  unfold ensureFunds
  rw [Outcome.bind_eq_ok]
  simp only [Outcome.ofArithmetic_eq_ok]
  constructor
  · rintro ⟨covered, known, result⟩
    split at result
    · next yes => rw [known, yes]
    · obtain ⟨available, _, failed⟩ := Outcome.bind_eq_ok.mp result
      cases failed
  · intro covered
    exact ⟨true, covered, rfl⟩

theorem credit_ok : account.credit amount now = .ok after ↔
    account.status = .active ∧ ∃ balance, account.balance.credit amount = .ok balance ∧
      after = { account with balance, updatedAt := now } := by
  unfold credit
  simp only [Outcome.bind_eq_ok, Outcome.ofArithmetic_eq_ok]
  constructor
  · rintro ⟨_, active, balance, credited, result⟩
    cases result
    exact ⟨ensureActive_ok.mp active, balance, credited, rfl⟩
  · rintro ⟨active, balance, credited, rfl⟩
    exact ⟨(), ensureActive_ok.mpr active, balance, credited, rfl⟩

theorem debit_ok : account.debit amount now = .ok after ↔
    account.status = .active ∧
      account.balance.canCover amount account.overdraftLimit = .ok true ∧
      ∃ balance, account.balance.debit amount = .ok balance ∧
        after = { account with balance, updatedAt := now } := by
  unfold debit
  simp only [Outcome.bind_eq_ok, Outcome.ofArithmetic_eq_ok]
  constructor
  · rintro ⟨_, active, _, covered, balance, debited, result⟩
    cases result
    exact ⟨ensureActive_ok.mp active, ensureFunds_ok.mp covered, balance, debited, rfl⟩
  · rintro ⟨active, covered, balance, debited, rfl⟩
    exact ⟨(), ensureActive_ok.mpr active, (), ensureFunds_ok.mpr covered, balance, debited, rfl⟩

theorem close_ok : account.close now = .ok after ↔
    account.status = .active ∧ account.balance.value.isZero = true ∧
      after = { account with status := .closed, updatedAt := now } := by
  unfold close
  rw [Outcome.bind_eq_ok]
  constructor
  · rintro ⟨_, active, result⟩
    split at result
    · next zero =>
      cases result
      exact ⟨ensureActive_ok.mp active, zero, rfl⟩
    · cases result
  · rintro ⟨active, zero, rfl⟩
    refine ⟨(), ensureActive_ok.mpr active, ?_⟩
    rw [if_pos zero]
    rfl

/-- What stays of an account as long as it is stored. -/
structure SameTerms (account other : Account) : Prop where
  id : other.id = account.id
  owner : other.owner = account.owner
  currency : other.currency = account.currency
  overdraftLimit : other.overdraftLimit = account.overdraftLimit
  createdAt : other.createdAt = account.createdAt

theorem SameTerms.refl (account : Account) : SameTerms account account := ⟨rfl, rfl, rfl, rfl, rfl⟩

theorem SameTerms.trans {first second third : Account} (one : SameTerms first second)
    (two : SameTerms second third) : SameTerms first third :=
  ⟨two.id.trans one.id, two.owner.trans one.owner, two.currency.trans one.currency,
    two.overdraftLimit.trans one.overdraftLimit, two.createdAt.trans one.createdAt⟩

/-- A change of an account as the ledger makes them: of an active account, with the same terms, in
the same revision. -/
structure Moved (account after : Account) : Prop where
  active : account.status = .active
  terms : SameTerms account after
  revision : after.revision = account.revision

theorem credit_moved (credited : account.credit amount now = .ok after) : Moved account after := by
  obtain ⟨active, balance, _, rfl⟩ := credit_ok.mp credited
  exact ⟨active, ⟨rfl, rfl, rfl, rfl, rfl⟩, rfl⟩

theorem debit_moved (debited : account.debit amount now = .ok after) : Moved account after := by
  obtain ⟨active, _, balance, _, rfl⟩ := debit_ok.mp debited
  exact ⟨active, ⟨rfl, rfl, rfl, rfl, rfl⟩, rfl⟩

theorem close_moved (closed : account.close now = .ok after) : Moved account after := by
  obtain ⟨active, _, rfl⟩ := close_ok.mp closed
  exact ⟨active, ⟨rfl, rfl, rfl, rfl, rfl⟩, rfl⟩

end Account

end AccountLedger
