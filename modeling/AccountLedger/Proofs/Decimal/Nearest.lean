import AccountLedger.Proofs.Decimal.Sum

/-!
How far a sum is rounded: to the nearest number with as many decimals as fit. Whatever has at most
four decimals and at most twelve digits before the point is never crossed on the way.
-/

namespace AccountLedger

namespace Decimal

variable {a b total bound : Decimal} {coefficient : Int} {scale : Nat} {number : ℚ}

theorem divideHalfEven_units {value divisor : Nat} (positive : 0 < divisor) :
    |(divideHalfEven value divisor : ℚ) - value / divisor| ≤ 1 / 2 := by
  obtain ⟨above, below⟩ := @divideHalfEven_near value divisor positive
  have divisor_pos : (0 : ℚ) < divisor := by exact_mod_cast positive
  have value_le : 2 * (value : ℚ) ≤ (2 * divideHalfEven value divisor + 1) * divisor := by
    exact_mod_cast above
  have le_value : 2 * (divideHalfEven value divisor : ℚ) * divisor ≤ 2 * value + divisor := by
    exact_mod_cast below
  have quotient : (value : ℚ) / divisor * divisor = value := div_mul_cancel₀ _ divisor_pos.ne'
  rw [abs_le]
  constructor <;> nlinarith

/-- Dropping digits moves a coefficient by at most half a unit. -/
theorem dropDigits_near (coefficient : Int) (dropped : Nat) :
    |(dropDigits coefficient dropped : ℚ) - coefficient / 10 ^ dropped| ≤ 1 / 2 := by
  have units := @divideHalfEven_units coefficient.natAbs _ (ten_pow_pos dropped)
  push_cast [Nat.cast_natAbs] at units
  rcases Int.le_total 0 coefficient with positive | negative
  · rw [abs_of_nonneg (show (0 : ℚ) ≤ coefficient by exact_mod_cast positive)] at units
    rw [dropDigits_of_nonneg positive]
    exact_mod_cast units
  · rw [abs_of_nonpos (show (coefficient : ℚ) ≤ 0 by exact_mod_cast negative)] at units
    rw [dropDigits_of_nonpos negative, ← abs_neg]
    push_cast
    convert units using 2
    ring

/-- Digits are dropped only where the coefficient with one digit more has too many bits. -/
theorem fit?_rounds (small : scale ≤ 28) (fitted : fit? coefficient scale = some total) :
    Rounds total.coefficient total.scale (coefficient / 10 ^ scale) where
  near := by
    obtain ⟨dropped, within, sameCoefficient, sameScale, _⟩ := fit?_eq_some fitted
    have scales : (10 : ℚ) ^ scale = 10 ^ dropped * 10 ^ total.scale := by
      rw [sameScale, ← pow_add, Nat.add_sub_cancel' within]
    have positive : (0 : ℚ) < 10 ^ total.scale := by positivity
    rw [sameCoefficient, scales, ← div_div, ← sub_div, abs_div, abs_of_pos positive]
    exact div_le_div_of_nonneg_right (dropDigits_near coefficient dropped) positive.le
  exact denotable := by
    obtain ⟨same, fits, exact⟩ := fit?_of_denotable small denotable
    cases fitted.symm.trans fits
    exact exact
  full _ := by
    obtain ⟨dropped, _, sameCoefficient, sameScale, fewer⟩ := fit?_eq_some fitted
    cases dropped with
    | zero =>
      left
      have kept := dropDigits_exact coefficient 0
      rw [Nat.pow_zero, Nat.cast_one, Int.mul_one] at kept
      rw [sameCoefficient, sameScale, kept, Nat.sub_zero]
    | succ less =>
      right
      have large := (fewer less (Nat.lt_succ_self _)).resolve_right (by omega)
      have size := le_dropDigits_succ large
      rw [sameCoefficient]
      unfold coefficientLimit
      omega

theorem sum?_rounds (summed : a.sum? b = some total) :
    Rounds total.coefficient total.scale (a.toRat + b.toRat) := by
  rcases sum?_eq_some summed with ⟨none, rfl⟩ | ⟨none, rfl⟩ | fitted
  · rw [none, zero_add]
    exact Rounds.refl _ _
  · rw [none, add_zero]
    exact Rounds.refl _ _
  · have rounds := fit?_rounds (max_le a.scale_le b.scale_le) fitted
    rw [aligned_toRat, mul_div_cancel_right₀ _ (by positivity)] at rounds
    exact rounds

/-! ## Bounds that are kept -/

/-- A whole number of units that bounds a number bounds what it is rounded to. -/
theorem Rounds.le_units (rounds : Rounds coefficient scale number) {units : ℤ}
    (below : number * 10 ^ scale ≤ units) : coefficient ≤ units := by
  have positive : (0 : ℚ) < 10 ^ scale := by positivity
  have near := (abs_le.mp rounds.near).2
  have scaled : (coefficient : ℚ) ≤ number * 10 ^ scale + 1 / 2 := by
    rw [tsub_le_iff_right, div_le_iff₀ positive] at near
    calc
      (coefficient : ℚ) ≤ (1 / 2 / 10 ^ scale + number) * 10 ^ scale := near
      _ = number * 10 ^ scale + 1 / 2 := by field_simp; ring
  have close : (coefficient : ℚ) < units + 1 := by linarith
  exact Int.lt_add_one_iff.mp (by exact_mod_cast close)

/-- Money of at most a trillion that bounds a number bounds what it is rounded to: rounding leaves
four decimals wherever the number has no more than 24 digits before the point. -/
theorem Rounds.le_money (rounds : Rounds coefficient scale number) (money : bound.IsMoney)
    (small : |bound.toRat| ≤ 10 ^ 12) (below : number ≤ bound.toRat) :
    (coefficient : ℚ) / 10 ^ scale ≤ bound.toRat := by
  have positive : (0 : ℚ) < 10 ^ scale := by positivity
  rcases Nat.lt_or_ge scale 4 with few | enough
  · rcases rounds.full (few.trans (by decide)) with exact | large
    · exact exact.trans_le below
    -- so few decimals are left of a number only if it is beyond all money
    · have power : (10 : ℚ) ^ scale ≤ 10 ^ 3 :=
        pow_le_pow_right₀ (by norm_num) (Nat.lt_succ_iff.mp few)
      have unit : (1 : ℚ) / 2 / 10 ^ scale ≤ 1 / 2 :=
        div_le_self (by norm_num) (one_le_pow₀ (by norm_num))
      obtain ⟨_, near⟩ := abs_le.mp (rounds.near.trans unit)
      obtain ⟨least, most⟩ := abs_le.mp small
      have quotient : (coefficient : ℚ) / 10 ^ scale * 10 ^ scale = coefficient :=
        div_mul_cancel₀ _ positive.ne'
      by_contra above
      have magnitude : (coefficientLimit : ℚ) ≤ |(coefficient : ℚ)| * 10 := by
        rw [← Int.cast_abs, Int.abs_eq_natAbs]
        exact_mod_cast large
      have limit : (10 : ℚ) ^ 28 ≤ coefficientLimit := by norm_num [coefficientLimit]
      have bounded : |(coefficient : ℚ) / 10 ^ scale| ≤ 10 ^ 12 + 1 := by
        rw [abs_le]
        constructor <;> linarith
      have product : |(coefficient : ℚ)| ≤ (10 ^ 12 + 1) * 10 ^ 3 := by
        rw [← quotient, abs_mul, abs_of_pos positive]
        exact mul_le_mul bounded power positive.le (by norm_num)
      linarith
  · obtain ⟨units, whole⟩ := money
    have scales : (10 : ℚ) ^ scale = 10 ^ 4 * 10 ^ (scale - 4) := by
      rw [← pow_add, Nat.add_sub_cancel' enough]
    have multiple : bound.toRat * 10 ^ scale = (units * 10 ^ (scale - 4) : ℤ) := by
      rw [scales, ← mul_assoc, whole]
      push_cast
      rfl
    have scaled : number * 10 ^ scale ≤ (units * 10 ^ (scale - 4) : ℤ) := by
      rw [← multiple]
      exact mul_le_mul_of_nonneg_right below positive.le
    rw [div_le_iff₀ positive, multiple]
    exact_mod_cast rounds.le_units scaled

/-- A sum is on the same side of an amount of money as before it was rounded. -/
theorem sum?_le_money (summed : a.sum? b = some total) (money : bound.IsMoney)
    (small : |bound.toRat| ≤ 10 ^ 12) (below : a.toRat + b.toRat ≤ bound.toRat) :
    total.toRat ≤ bound.toRat :=
  (sum?_rounds summed).le_money money small below

theorem money_le_sum? (summed : a.sum? b = some total) (money : bound.IsMoney)
    (small : |bound.toRat| ≤ 10 ^ 12) (above : bound.toRat ≤ a.toRat + b.toRat) :
    bound.toRat ≤ total.toRat := by
  have kept := (sum?_rounds summed).neg.le_money money.neg
    (by rw [neg_toRat, abs_neg]; exact small) (by rw [neg_toRat]; exact neg_le_neg above)
  rw [neg_toRat, Int.cast_neg, neg_div] at kept
  exact neg_le_neg_iff.mp kept

end Decimal

end AccountLedger
