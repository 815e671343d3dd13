import AccountLedger.Proofs.Account.Balance
import AccountLedger.Proofs.Decimal.Sum

/-!
Money is neither made nor lost by rounding. As long as the result stays within the limit a credit or
a debit is found and is exact, whatever scales the balance and the amount are written with, so that
one undoes the other, credits can be made in any order, and a transfer leaves the sum of the two
balances as it was.
-/

namespace AccountLedger

namespace Balance

open Decimal (Denotable moneyLimit)

variable {balance : Balance} {amount : Amount}

theorem credit_of_denotable (denotable : Denotable (balance.value.toRat + amount.value.toRat)) :
    ∃ after, balance.credit amount = .ok after ∧
      after.value.toRat = balance.value.toRat + amount.value.toRat := by
  obtain ⟨total, summed, exact⟩ := Decimal.sum?_of_denotable denotable
  refine ⟨⟨total⟩, ?_, exact⟩
  rw [credit, Decimal.add_eq_ok.mpr summed]
  rfl

theorem debit_of_denotable (denotable : Denotable (balance.value.toRat - amount.value.toRat)) :
    ∃ after, balance.debit amount = .ok after ∧
      after.value.toRat = balance.value.toRat - amount.value.toRat := by
  rw [sub_eq_add_neg, ← Decimal.neg_toRat] at denotable ⊢
  obtain ⟨total, summed, exact⟩ := Decimal.sum?_of_denotable denotable
  refine ⟨⟨total⟩, ?_, exact⟩
  rw [debit, Decimal.sub_eq_ok.mpr summed]
  rfl

theorem credit_money (money : balance.value.IsMoney)
    (bounded : |balance.value.toRat + amount.value.toRat| ≤ moneyLimit) :
    ∃ after, balance.credit amount = .ok after ∧
      after.value.toRat = balance.value.toRat + amount.value.toRat ∧ after.value.IsMoney := by
  obtain ⟨units, whole⟩ := money.add amount.isMoney
  obtain ⟨after, credited, exact⟩ :=
    credit_of_denotable (Decimal.denotable_of_units whole bounded)
  exact ⟨after, credited, exact, units, exact ▸ whole⟩

theorem debit_money (money : balance.value.IsMoney)
    (bounded : |balance.value.toRat - amount.value.toRat| ≤ moneyLimit) :
    ∃ after, balance.debit amount = .ok after ∧
      after.value.toRat = balance.value.toRat - amount.value.toRat ∧ after.value.IsMoney := by
  obtain ⟨units, whole⟩ := money.add amount.isMoney.neg
  rw [Decimal.neg_toRat, ← sub_eq_add_neg] at whole
  obtain ⟨after, debited, exact⟩ := debit_of_denotable (Decimal.denotable_of_units whole bounded)
  exact ⟨after, debited, exact, units, exact ▸ whole⟩

/-- A debit takes back what was credited, wherever the credit was exact. -/
theorem debit_of_credit {after : Balance}
    (exact : after.value.toRat = balance.value.toRat + amount.value.toRat) :
    ∃ restored, after.debit amount = .ok restored ∧
      restored.value.toRat = balance.value.toRat := by
  have back : after.value.toRat - amount.value.toRat = balance.value.toRat := by
    rw [exact, add_sub_cancel_right]
  rw [← back]
  exact debit_of_denotable ⟨balance.value, back.symm⟩

theorem credit_of_debit {after : Balance}
    (exact : after.value.toRat = balance.value.toRat - amount.value.toRat) :
    ∃ restored, after.credit amount = .ok restored ∧
      restored.value.toRat = balance.value.toRat := by
  have back : after.value.toRat + amount.value.toRat = balance.value.toRat := by
    rw [exact, sub_add_cancel]
  rw [← back]
  exact credit_of_denotable ⟨balance.value, back.symm⟩

/-- One credit after another. -/
theorem credit_twice {other : Amount} (money : balance.value.IsMoney)
    (first : |balance.value.toRat + amount.value.toRat| ≤ moneyLimit)
    (second : |balance.value.toRat + amount.value.toRat + other.value.toRat| ≤ moneyLimit) :
    ∃ between after, balance.credit amount = .ok between ∧ between.credit other = .ok after ∧
      after.value.toRat = balance.value.toRat + amount.value.toRat + other.value.toRat := by
  obtain ⟨between, credited, exact, stillMoney⟩ := credit_money money first
  rw [← exact] at second ⊢
  obtain ⟨after, creditedAgain, exactAgain, _⟩ := credit_money stillMoney second
  exact ⟨between, after, credited, creditedAgain, exactAgain⟩

/-- Within the limit a credit and a debit of a balance of money are found, exact, and undone by each
other; credits commute, and a transfer between two balances conserves their sum. -/
theorem money_conserved (balance : Balance) (amount : Amount) (money : balance.value.IsMoney) :
    (|balance.value.toRat + amount.value.toRat| ≤ moneyLimit →
      ∃ after, balance.credit amount = .ok after ∧
        after.value.toRat = balance.value.toRat + amount.value.toRat ∧ after.value.IsMoney ∧
        ∃ restored, after.debit amount = .ok restored ∧
          restored.value.toRat = balance.value.toRat) ∧
    (|balance.value.toRat - amount.value.toRat| ≤ moneyLimit →
      ∃ after, balance.debit amount = .ok after ∧
        after.value.toRat = balance.value.toRat - amount.value.toRat ∧ after.value.IsMoney ∧
        ∃ restored, after.credit amount = .ok restored ∧
          restored.value.toRat = balance.value.toRat) ∧
    (∀ other : Amount, |balance.value.toRat + amount.value.toRat| ≤ moneyLimit →
      |balance.value.toRat + other.value.toRat| ≤ moneyLimit →
      |balance.value.toRat + amount.value.toRat + other.value.toRat| ≤ moneyLimit →
      ∃ first second one two, balance.credit amount = .ok first ∧ first.credit other = .ok one ∧
        balance.credit other = .ok second ∧ second.credit amount = .ok two ∧
        one.value.toRat = two.value.toRat) ∧
    ∀ target : Balance, target.value.IsMoney →
      |balance.value.toRat - amount.value.toRat| ≤ moneyLimit →
      |target.value.toRat + amount.value.toRat| ≤ moneyLimit →
      ∃ left gained, balance.debit amount = .ok left ∧ target.credit amount = .ok gained ∧
        left.value.toRat + gained.value.toRat = balance.value.toRat + target.value.toRat := by
  refine ⟨fun bounded => ?_, fun bounded => ?_, fun other one two both => ?_,
    fun target targetMoney lower upper => ?_⟩
  · obtain ⟨after, credited, exact, stillMoney⟩ := credit_money money bounded
    exact ⟨after, credited, exact, stillMoney, debit_of_credit exact⟩
  · obtain ⟨after, debited, exact, stillMoney⟩ := debit_money money bounded
    exact ⟨after, debited, exact, stillMoney, credit_of_debit exact⟩
  · obtain ⟨first, last, credited, creditedAgain, exact⟩ := credit_twice money one both
    rw [add_right_comm] at both
    obtain ⟨second, final, creditedOther, creditedLast, same⟩ := credit_twice money two both
    refine ⟨first, second, last, final, credited, creditedAgain, creditedOther, creditedLast, ?_⟩
    rw [exact, same, add_right_comm]
  · obtain ⟨left, debited, lost, _⟩ := debit_money money lower
    obtain ⟨gained, credited, won, _⟩ := credit_money targetMoney upper
    refine ⟨left, gained, debited, credited, ?_⟩
    rw [lost, won]
    ring

/-- A balance with 28 decimals and an amount of thirteen digits: 41 digits would be needed to write
their sum with all these decimals. -/
theorem long_balance_conserved :
    let balance : Balance := ⟨⟨70000000000000000000000000000, 28, by decide, by decide⟩⟩
    let amount : Amount := ⟨Amount.maximum, by decide⟩
    2 ^ 96 ≤ balance.value.scaledTo 28 + amount.value.scaledTo 28 ∧
      ∃ after restored, balance.credit amount = .ok after ∧
        after.value.toRat = 1000000000007 ∧ after.debit amount = .ok restored ∧
        restored.value.toRat = balance.value.toRat := by
  intro balance amount
  have seven : balance.value.toRat = 7 := by norm_num [balance, Decimal.toRat]
  have trillion : amount.value.toRat = 10 ^ 12 := by
    norm_num [amount, Amount.maximum, Decimal.zero, Decimal.toRat]
  have money : balance.value.IsMoney := ⟨70000, by rw [seven]; norm_num⟩
  obtain ⟨after, credited, exact, _, restored, debited, same⟩ :=
    (money_conserved balance amount money).1 (by
      rw [seven, trillion]
      norm_num [moneyLimit, Decimal.coefficientLimit])
  refine ⟨by decide, after, restored, credited, ?_, debited, same⟩
  rw [exact, seven, trillion]
  norm_num

end Balance

end AccountLedger
