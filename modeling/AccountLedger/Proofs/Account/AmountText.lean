import AccountLedger.Http.Site
import AccountLedger.Proofs.Account.Balance
import AccountLedger.Proofs.Decimal.Exponent

/-!
An amount that is read of a text against the number that the text denotes. The checks on an amount
see what was read and not what was written, so they hold of the number written wherever reading has
not rounded it.
-/

namespace AccountLedger

namespace Amount

open Decimal (Denotable)

theorem value_of_ofDecimal {value : Decimal} {amount : Amount}
    (admitted : ofDecimal value = .ok amount) : amount.value = value := by
  unfold ofDecimal at admitted
  split at admitted
  · cases admitted
  · cases admitted
    rfl

theorem read_eq_ok {text : List Char} {amount : Amount} (accepted : read text = .ok amount) :
    Decimal.read text = .ok amount.value := by
  unfold read at accepted
  split at accepted
  · next value written =>
    rw [written, value_of_ofDecimal accepted]
  · cases accepted

theorem readAmount_eq_ok {raw : String} {amount : Amount} (accepted : readAmount raw = .ok amount) :
    read (Text.trim raw.toList) = .ok amount := by
  unfold readAmount at accepted
  split at accepted
  · next written =>
    cases accepted
    exact written
  · cases accepted

/-- An accepted text denotes a number, and the amount is within a unit of its own last decimal of
it. It is that number exactly where decimals can hold the number, with its exponent and without;
there the number is positive, at most a trillion and a multiple of 0.0001. -/
theorem read_denotes {text : List Char} {amount : Amount}
    (accepted : read text = .ok amount ∨
      ∃ raw : String, Text.trim raw.toList = text ∧ readAmount raw = .ok amount) :
    ∃ numeral, WrittenNumber.ofText? text = some numeral ∧
      |amount.value.toRat - numeral.value| ≤ 1 / 10 ^ amount.value.scale ∧
      (amount.value.toRat = numeral.value ↔
        Denotable numeral.mantissa ∧ Denotable numeral.value) ∧
      (Denotable numeral.mantissa → Denotable numeral.value →
        0 < numeral.value ∧ numeral.value ≤ 10 ^ 12 ∧
          ∃ units : ℤ, numeral.value * 10 ^ 4 = units) := by
  have written : read text = .ok amount := by
    rcases accepted with accepted | ⟨raw, rfl, accepted⟩
    · exact accepted
    · exact readAmount_eq_ok accepted
  obtain ⟨numeral, denotes, near, exact⟩ := Decimal.read_reads (read_eq_ok written)
  refine ⟨numeral, denotes, near, exact, fun mantissa value => ?_⟩
  rw [← exact.mpr ⟨mantissa, value⟩]
  exact ⟨amount.positive, amount.le_maximum, amount.isMoney⟩

/-- A hundred and a quarter, with an exponent. -/
theorem read_denotes_quarter : ∃ amount numeral,
    read "1_002.50e-1".toList = .ok amount ∧
      WrittenNumber.ofText? "1_002.50e-1".toList = some numeral ∧
      numeral.value = 401 / 4 ∧ amount.value.toRat = numeral.value := by
  let value : Decimal := ⟨100250, 3, by decide, by decide⟩
  have accepted : read "1_002.50e-1".toList = .ok ⟨value, by decide⟩ := by decide +kernel
  have written : WrittenNumber.ofText? "1_002.50e-1".toList = some ⟨false, 100250, 2, -1⟩ := by
    decide +kernel
  have mantissa : (⟨false, 100250, 2, -1⟩ : WrittenNumber).mantissa = 2005 / 2 := by
    norm_num [WrittenNumber.mantissa, WrittenNumber.sign]
  have quarter : (⟨false, 100250, 2, -1⟩ : WrittenNumber).value = 401 / 4 := by
    rw [WrittenNumber.value, mantissa]
    norm_num
  obtain ⟨numeral, denotes, _, exact, _⟩ := read_denotes (Or.inl accepted)
  cases written.symm.trans denotes
  refine ⟨_, _, accepted, written, quarter, exact.mpr ⟨?_, ?_⟩⟩
  · exact ⟨⟨10025, 1, by decide, by decide⟩, by rw [mantissa]; norm_num [Decimal.toRat]⟩
  · exact ⟨⟨10025, 2, by decide, by decide⟩, by rw [quarter]; norm_num [Decimal.toRat]⟩

/-- The twenty-ninth decimal is lost, so a number that is no multiple of 0.0001 is accepted as one
that is. -/
theorem read_alters_text : ∃ amount numeral,
    read "1.00000000000000000000000000004".toList = .ok amount ∧
      WrittenNumber.ofText? "1.00000000000000000000000000004".toList = some numeral ∧
      amount.value.toRat = 1 ∧ numeral.value ≠ amount.value.toRat ∧
      ¬ ∃ units : ℤ, numeral.value * 10 ^ 4 = units := by
  let value : Decimal := ⟨10000000000000000000000000000, 28, by decide, by decide⟩
  have accepted : read "1.00000000000000000000000000004".toList = .ok ⟨value, by decide⟩ := by
    decide +kernel
  have one : value.toRat = 1 := by norm_num [value, Decimal.toRat]
  have more : (⟨false, 100000000000000000000000000004, 29, 0⟩ : WrittenNumber).value =
      1 + 4 / 10 ^ 29 := by
    norm_num [WrittenNumber.value, WrittenNumber.mantissa, WrittenNumber.sign]
  refine ⟨_, ⟨false, 100000000000000000000000000004, 29, 0⟩, accepted, by decide +kernel, one,
    ?_, ?_⟩
  · rw [more, one]
    norm_num
  · rw [more]
    rintro ⟨units, same⟩
    have above : (10000 : ℚ) < units := by
      rw [← same]
      norm_num
    have below : (units : ℚ) < 10001 := by
      rw [← same]
      norm_num
    have aboveInt : (10000 : ℤ) < units := by exact_mod_cast above
    have belowInt : units < (10001 : ℤ) := by exact_mod_cast below
    omega

end Amount

end AccountLedger
