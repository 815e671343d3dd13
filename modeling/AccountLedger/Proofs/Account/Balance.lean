import AccountLedger.Proofs.Account.Movement
import AccountLedger.Proofs.Decimal.Value

/-!
What credits and debits do to the number that a balance denotes.
-/

namespace AccountLedger

namespace Amount

theorem positive (amount : Amount) : 0 < amount.value.toRat := by
  have admitted := amount.admitted
  unfold complaint? at admitted
  by_cases negative : amount.value.le Decimal.zero = true
  · rw [if_pos negative] at admitted
    cases admitted
  · rw [Decimal.le_iff, Decimal.zero_toRat, not_le] at negative
    exact negative

theorem isMoney (amount : Amount) : amount.value.IsMoney := by
  have admitted := amount.admitted
  unfold complaint? at admitted
  apply Decimal.isMoney_of_normalize_scale
  by_contra long
  split at admitted
  · cases admitted
  · rw [if_pos (show maxScale < amount.value.normalize.scale by unfold maxScale; omega)] at admitted
    cases admitted

theorem le_maximum (amount : Amount) : amount.value.toRat ≤ 10 ^ 12 := by
  have admitted := amount.admitted
  unfold complaint? at admitted
  have within : ¬ maximum.lt amount.value = true := by
    intro large
    rw [if_pos large] at admitted
    split at admitted
    · cases admitted
    · split at admitted <;> cases admitted
  rw [Decimal.lt_iff, not_lt] at within
  refine within.trans_eq ?_
  norm_num [maximum, Decimal.zero, Decimal.toRat]

end Amount

namespace Balance

variable {balance after : Balance} {amount : Amount} {overdraftLimit : Decimal}

theorem credit_sum? (credited : balance.credit amount = .ok after) :
    balance.value.sum? amount.value = some after.value := by
  unfold credit at credited
  cases added : balance.value.add amount.value with
  | ok total =>
    rw [added] at credited
    cases credited
    exact Decimal.add_eq_ok.mp added
  | error error =>
    rw [added] at credited
    cases credited

theorem debit_sum? (debited : balance.debit amount = .ok after) :
    balance.value.sum? amount.value.neg = some after.value := by
  unfold debit at debited
  cases subtracted : balance.value.sub amount.value with
  | ok total =>
    rw [subtracted] at debited
    cases debited
    exact Decimal.sub_eq_ok.mp subtracted
  | error error =>
    rw [subtracted] at debited
    cases debited

/-- A credit takes no balance below where it was, unless it was above zero. -/
theorem credit_floor (credited : balance.credit amount = .ok after) :
    min 0 balance.value.toRat ≤ after.value.toRat :=
  Decimal.min_le_sum? amount.positive.le (credit_sum? credited)

/-- What a debit leaves is what was found to be covered. -/
theorem debit_floor (covered : balance.canCover amount overdraftLimit = .ok true)
    (debited : balance.debit amount = .ok after) : -overdraftLimit.toRat ≤ after.value.toRat := by
  unfold canCover at covered
  rw [Decimal.sub_eq_ok.mpr (debit_sum? debited)] at covered
  rw [← Decimal.neg_toRat, ← Decimal.le_iff]
  exact Except.ok.inj covered

theorem credit_exact (money : balance.value.IsMoney) (credited : balance.credit amount = .ok after)
    (bounded : |after.value.toRat| ≤ Decimal.moneyLimit) :
    after.value.toRat = balance.value.toRat + amount.value.toRat :=
  Decimal.sum?_exact money amount.isMoney (credit_sum? credited) bounded

theorem debit_exact (money : balance.value.IsMoney) (debited : balance.debit amount = .ok after)
    (bounded : |after.value.toRat| ≤ Decimal.moneyLimit) :
    after.value.toRat = balance.value.toRat - amount.value.toRat := by
  rw [Decimal.sum?_exact money amount.isMoney.neg (debit_sum? debited) bounded, Decimal.neg_toRat]
  exact (sub_eq_add_neg _ _).symm

end Balance

end AccountLedger
