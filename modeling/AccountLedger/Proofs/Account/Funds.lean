import AccountLedger.Proofs.Account.Balance
import AccountLedger.Proofs.Decimal.Sum

/-!
What an account can pay. Amounts are added to and taken from balances of money without rounding, and
the one sum that may fail is that of a shortage too large to be told.
-/

namespace AccountLedger

/-- A balance that is a multiple of 0.0001, of fewer than 25 digits before the point. -/
structure Account.Regular (account : Account) : Prop where
  money : account.balance.value.IsMoney
  bounded : |account.balance.value.toRat| < 10 ^ 24

/-- The amount is within the balance and the overdraft limit. -/
def Account.Covers (account : Account) (amount : Amount) : Prop :=
  -account.overdraftLimit.toRat ≤ account.balance.value.toRat - amount.value.toRat

namespace Account

variable {account : Account} (regular : account.Regular) (amount : Amount)
include regular

/-- The digits that a balance and an amount need together. -/
theorem Regular.sum?_money {change : Decimal} (money : change.IsMoney)
    (small : |change.toRat| ≤ 10 ^ 12) : ∃ total,
      account.balance.value.sum? change = some total ∧
        total.toRat = account.balance.value.toRat + change.toRat := by
  apply Decimal.sum?_money regular.money money
  have bounded := regular.bounded
  have apart := abs_add_le account.balance.value.toRat change.toRat
  have limit : (10 : ℚ) ^ 24 + 10 ^ 12 ≤ Decimal.moneyLimit := by
    norm_num [Decimal.moneyLimit, Decimal.coefficientLimit]
  linarith

theorem Regular.sub : ∃ left, account.balance.value.sub amount.value = .ok left ∧
    left.toRat = account.balance.value.toRat - amount.value.toRat := by
  have positive := amount.positive
  have small : |amount.value.neg.toRat| ≤ 10 ^ 12 := by
    rw [Decimal.neg_toRat, abs_neg, abs_of_pos positive]
    exact amount.le_maximum
  obtain ⟨left, summed, exact⟩ := regular.sum?_money amount.isMoney.neg small
  refine ⟨left, Decimal.sub_eq_ok.mpr summed, ?_⟩
  rw [exact, Decimal.neg_toRat]
  ring

theorem Regular.add : ∃ total, account.balance.value.add amount.value = .ok total ∧
    total.toRat = account.balance.value.toRat + amount.value.toRat := by
  have small : |amount.value.toRat| ≤ 10 ^ 12 := by
    rw [abs_of_pos amount.positive]
    exact amount.le_maximum
  obtain ⟨total, summed, exact⟩ := regular.sum?_money amount.isMoney small
  exact ⟨total, Decimal.add_eq_ok.mpr summed, exact⟩

theorem Regular.debit : ∃ balance, account.balance.debit amount = .ok balance ∧
    balance.value.toRat = account.balance.value.toRat - amount.value.toRat := by
  obtain ⟨left, subtracted, exact⟩ := regular.sub amount
  refine ⟨⟨left⟩, ?_, exact⟩
  rw [Balance.debit, subtracted]
  rfl

theorem Regular.credit : ∃ balance, account.balance.credit amount = .ok balance ∧
    balance.value.toRat = account.balance.value.toRat + amount.value.toRat := by
  obtain ⟨total, added, exact⟩ := regular.add amount
  refine ⟨⟨total⟩, ?_, exact⟩
  rw [Balance.credit, added]
  rfl

theorem Regular.canCover : ∃ covered,
    account.balance.canCover amount account.overdraftLimit = .ok covered ∧
      (covered = true ↔ account.Covers amount) := by
  obtain ⟨left, subtracted, exact⟩ := regular.sub amount
  refine ⟨account.overdraftLimit.neg.le left, ?_, ?_⟩
  · rw [Balance.canCover, subtracted]
    rfl
  · rw [Decimal.le_iff, Decimal.neg_toRat, exact]
    rfl

theorem Regular.ensureFunds_covered (covers : account.Covers amount) :
    account.ensureFunds amount = .ok () := by
  obtain ⟨covered, found, exact⟩ := regular.canCover amount
  rw [ensureFunds, found, exact.mpr covers]
  rfl

/-- The shortage that is told, or an overflow where it cannot be told. -/
inductive Short (account : Account) (amount : Amount) : Failure Refusal → Prop
  | told {funds : Decimal} :
    account.balance.available account.overdraftLimit = .ok funds →
    Short account amount (.error (.insufficientFunds account.id amount.value funds))
  | untold : account.balance.available account.overdraftLimit = .error .addition →
    account.balance.value.toRat + account.overdraftLimit.toRat ≤ -(2 ^ 96 - 1 / 2) →
    Short account amount (.overflow .addition)

omit regular in
theorem Short.unique {first second : Failure Refusal} (one : Short account amount first)
    (two : Short account amount second) : first = second := by
  cases one with
  | told funds =>
    cases two with
    | told same =>
      cases funds.symm.trans same
      rfl
    | untold none _ => cases funds.symm.trans none
  | untold none _ =>
    cases two with
    | told funds => cases none.symm.trans funds
    | untold _ _ => rfl

theorem Regular.ensureFunds_short (short : ¬ account.Covers amount) :
    ∃ failure, account.ensureFunds amount = .error failure ∧ Short account amount failure := by
  obtain ⟨covered, found, exact⟩ := regular.canCover amount
  have uncovered : covered = false := by
    rw [← Bool.not_eq_true, exact]
    exact short
  cases summed : account.balance.value.sum? account.overdraftLimit with
  | some funds =>
    have available : account.balance.available account.overdraftLimit = .ok funds :=
      Decimal.add_eq_ok.mpr summed
    refine ⟨_, ?_, .told available⟩
    rw [ensureFunds, found, uncovered, available]
    rfl
  | none =>
    have available : account.balance.available account.overdraftLimit = .error .addition := by
      rw [Balance.available, Decimal.add, summed]
    refine ⟨.overflow .addition, ?_, .untold available ?_⟩
    · rw [ensureFunds, found, uncovered, available]
      rfl
    · have large := Decimal.sum?_eq_none summed
      have small := amount.le_maximum
      unfold Covers at short
      have limit : (Decimal.coefficientLimit : ℚ) = 2 ^ 96 := by norm_num [Decimal.coefficientLimit]
      rw [limit] at large
      rcases abs_cases (account.balance.value.toRat + account.overdraftLimit.toRat) with
        ⟨same, _⟩ | ⟨same, _⟩ <;> linarith

end Account

end AccountLedger
