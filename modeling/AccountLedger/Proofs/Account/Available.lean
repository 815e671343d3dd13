import AccountLedger.Proofs.Account.Funds
import AccountLedger.Proofs.Decimal.Nearest

/-!
The funds that are reported, and the check that reports them. The check subtracts the amount from
the balance, which is exact; the report adds the overdraft limit to the balance, which is rounded
where the limit has too many digits. Rounding never takes the reported funds past an amount, but it
can take them up to the amount that was just refused.
-/

namespace AccountLedger

namespace Account

open Decimal (Denotable)

/-- The funds that the account has for withdrawals, before they are rounded. -/
def funds (account : Account) : ℚ := account.balance.value.toRat + account.overdraftLimit.toRat

theorem covers_iff {account : Account} {amount : Amount} :
    account.Covers amount ↔ amount.value.toRat ≤ account.funds := by
  unfold Covers funds
  constructor <;> intro <;> linarith

section Reported

variable {account : Account} (regular : account.Regular) (amount : Amount)
include regular

theorem Regular.ensureFunds_iff : account.ensureFunds amount = .ok () ↔ account.Covers amount := by
  constructor
  · intro granted
    by_contra short
    obtain ⟨failure, refused, _⟩ := regular.ensureFunds_short amount short
    cases granted.symm.trans refused
  · exact regular.ensureFunds_covered amount

omit regular in
/-- Reported funds lie on the same side of every amount as the funds themselves, or on it. -/
theorem available_covers {reported : Decimal}
    (available : account.balance.available account.overdraftLimit = .ok reported) :
    (account.Covers amount → amount.value.toRat ≤ reported.toRat) ∧
      (¬ account.Covers amount → reported.toRat ≤ amount.value.toRat) := by
  have summed : account.balance.value.sum? account.overdraftLimit = some reported :=
    Decimal.add_eq_ok.mp available
  have small : |amount.value.toRat| ≤ 10 ^ 12 := by
    rw [abs_of_pos amount.positive]
    exact amount.le_maximum
  rw [covers_iff]
  exact ⟨Decimal.money_le_sum? summed amount.isMoney small,
    fun short => Decimal.sum?_le_money summed amount.isMoney small (not_le.mp short).le⟩

/-- With a limit that is not negative the funds of a refusal can always be told. -/
theorem Regular.refusal (unlimited : 0 ≤ account.overdraftLimit.toRat)
    (short : ¬ account.Covers amount) : ∃ reported,
      account.balance.available account.overdraftLimit = .ok reported ∧
        account.ensureFunds amount =
          .error (.error (.insufficientFunds account.id amount.value reported)) := by
  obtain ⟨failure, refused, cause⟩ := regular.ensureFunds_short amount short
  cases cause with
  | told available => exact ⟨_, available, refused⟩
  | untold _ beyond =>
    have bounded := (abs_lt.mp regular.bounded).1
    norm_num at beyond bounded
    linarith

end Reported

/-- Funds cannot be told only if they are beyond every amount. -/
theorem Regular.untold {account : Account} (regular : account.Regular) {overflow : Overflow}
    (unlimited : 0 ≤ account.overdraftLimit.toRat)
    (untold : account.balance.available account.overdraftLimit = .error overflow) :
    (2 : ℚ) ^ 96 - 1 / 2 ≤ account.funds := by
  have summed : account.balance.value.sum? account.overdraftLimit = none := by
    by_contra some
    obtain ⟨total, found⟩ := Option.ne_none_iff_exists'.mp some
    cases untold.symm.trans (Decimal.add_eq_ok.mpr found)
  have large := Decimal.sum?_eq_none summed
  have bounded := (abs_lt.mp regular.bounded).1
  have limit : (Decimal.coefficientLimit : ℚ) = 2 ^ 96 := by norm_num [Decimal.coefficientLimit]
  rw [limit] at large
  rcases le_abs.mp large with above | below
  · exact above
  · norm_num at below bounded
    linarith

/-- The funds check and the reported funds. The check is exact, its refusal always tells the funds,
and these are the nearest that a decimal can tell: at least every amount that is granted, and at
most every amount that is refused. Where a decimal can tell the funds as they are, the check grants
exactly the amounts that do not exceed the reported funds. -/
theorem funds_reported {account : Account} (money : account.balance.value.IsMoney)
    (bounded : |account.balance.value.toRat| ≤ 10 ^ 12)
    (allowed : account.overdraftLimit.lt Decimal.zero = false) (amount : Amount) :
    (account.ensureFunds amount = .ok () ↔ amount.value.toRat ≤ account.funds) ∧
    (account.ensureFunds amount ≠ .ok () → ∃ reported,
      account.balance.available account.overdraftLimit = .ok reported ∧
      account.ensureFunds amount =
        .error (.error (.insufficientFunds account.id amount.value reported)) ∧
      reported.le amount.value = true) ∧
    (∀ reported, account.balance.available account.overdraftLimit = .ok reported →
      |reported.toRat - account.funds| ≤ 1 / 2 / 10 ^ reported.scale ∧
      (account.ensureFunds amount = .ok () → amount.value.le reported = true)) ∧
    (∀ overflow, account.balance.available account.overdraftLimit = .error overflow →
      2 ^ 96 - 1 / 2 ≤ account.funds ∧ account.ensureFunds amount = .ok ()) ∧
    (Denotable account.funds → ∃ reported,
      account.balance.available account.overdraftLimit = .ok reported ∧
      (account.ensureFunds amount = .ok () ↔ amount.value.le reported = true) ∧
      (account.ensureFunds amount ≠ .ok () →
        account.ensureFunds amount =
          .error (.error (.insufficientFunds account.id amount.value reported)) ∧
        reported.lt amount.value = true)) := by
  have regular : account.Regular := ⟨money, bounded.trans_lt (by norm_num)⟩
  have unlimited : 0 ≤ account.overdraftLimit.toRat := by
    rw [← not_lt, ← Decimal.zero_toRat, ← Decimal.lt_iff, allowed]
    decide
  have check := regular.ensureFunds_iff amount
  simp only [ne_eq, check, Decimal.le_iff, Decimal.lt_iff]
  refine ⟨covers_iff, fun short => ?_, fun reported available => ⟨?_, ?_⟩,
    fun overflow untold => ?_, fun denotable => ?_⟩
  · obtain ⟨reported, available, refused⟩ := regular.refusal amount unlimited short
    exact ⟨reported, available, refused, (available_covers amount available).2 short⟩
  · exact (Decimal.sum?_rounds (Decimal.add_eq_ok.mp available)).near
  · exact (available_covers amount available).1
  · have beyond := regular.untold unlimited untold
    have small := amount.le_maximum
    refine ⟨beyond, covers_iff.mpr ?_⟩
    norm_num at beyond small
    linarith
  · obtain ⟨reported, summed, exact⟩ := Decimal.sum?_of_denotable denotable
    have told : reported.toRat = account.funds := exact
    refine ⟨reported, Decimal.add_eq_ok.mpr summed, ?_, fun short => ?_⟩
    · rw [covers_iff, told]
    · obtain ⟨same, available, refused⟩ := regular.refusal amount unlimited short
      cases (Decimal.add_eq_ok.mp available).symm.trans summed
      rw [covers_iff, not_le] at short
      exact ⟨refused, told.trans_lt short⟩

/-- An account that holds so much. -/
def holding (balance overdraftLimit : Decimal) : Account :=
  { Account.opened .nil .nil "USD" overdraftLimit ⟨0, 0⟩ with balance := ⟨balance⟩ }

theorem thousand_money {balance : Decimal} (thousand : balance.toRat = 1000) :
    balance.IsMoney ∧ |balance.toRat| ≤ 10 ^ 12 := by
  rw [Decimal.IsMoney, thousand]
  exact ⟨⟨10000000, by norm_num⟩, by norm_num⟩

/-- A limit of 25 decimals just below 1 leaves just less than 1001, and that is what is reported. -/
theorem funds_reported_long :
    let account := holding ⟨1000, 0, by decide, by decide⟩
      ⟨9999999999999999999999999, 25, by decide, by decide⟩
    let amount : Amount := ⟨⟨1001, 0, by decide, by decide⟩, by decide⟩
    let reported : Decimal := ⟨10009999999999999999999999999, 25, by decide, by decide⟩
    account.balance.value.IsMoney ∧ |account.balance.value.toRat| ≤ 10 ^ 12 ∧
      account.overdraftLimit.lt Decimal.zero = false ∧ Denotable account.funds ∧
      account.ensureFunds amount =
        .error (.error (.insufficientFunds account.id amount.value reported)) ∧
      reported.lt amount.value = true := by
  intro account amount reported
  obtain ⟨money, bounded⟩ := @thousand_money account.balance.value (by
    norm_num [account, holding, Decimal.toRat])
  have allowed : account.overdraftLimit.lt Decimal.zero = false := by decide
  have denotable : Denotable account.funds := by
    refine ⟨reported, ?_⟩
    norm_num [account, reported, holding, Account.opened, funds, Decimal.toRat]
  have short : account.ensureFunds amount ≠ .ok () := by decide
  obtain ⟨told, available, _, refused⟩ :=
    (@funds_reported account money bounded allowed amount).2.2.2.2 denotable
  have computed : account.balance.available account.overdraftLimit = .ok reported := by decide
  cases available.symm.trans computed
  exact ⟨money, bounded, allowed, denotable, refused short⟩

/-- A limit of 28 decimals just below 1: the check refuses to pay 1001, but as 32 digits do not fit
a decimal, 1001 is what it reports. -/
theorem refused_amount_reported : ∃ (account : Account) (amount : Amount) (reported : Decimal),
    account.balance.value.IsMoney ∧ |account.balance.value.toRat| ≤ 10 ^ 12 ∧
      account.overdraftLimit.lt Decimal.zero = false ∧
      account.balance.available account.overdraftLimit = .ok reported ∧
      account.ensureFunds amount =
        .error (.error (.insufficientFunds account.id amount.value reported)) ∧
      amount.value.le reported = true := by
  let account := holding ⟨1000, 0, by decide, by decide⟩
    ⟨9999999999999999999999999999, 28, by decide, by decide⟩
  obtain ⟨money, bounded⟩ := @thousand_money account.balance.value (by
    norm_num [account, holding, Decimal.toRat])
  exact ⟨account, ⟨⟨1001, 0, by decide, by decide⟩, by decide⟩,
    ⟨10010000000000000000000000000, 25, by decide, by decide⟩, money, bounded, by decide,
    by decide, by decide, by decide⟩

end Account

end AccountLedger
