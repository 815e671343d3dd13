import AccountLedger.Proofs.Decimal.Rounding
import Mathlib.Algebra.Order.Field.Rat
import Mathlib.Order.Bounds.Basic
import Mathlib.Tactic.FieldSimp
import Mathlib.Tactic.NormNum
import Mathlib.Tactic.Positivity

/-!
The rational numbers that decimals denote. Comparison is that of the numbers, a sum moves the number
no further down than to zero when something positive is added, and it is exact for multiples of
0.0001 as long as it stays within 96 bits of them. The scale of a normalized decimal is the smallest
at which its number can be written at all.
-/

namespace AccountLedger

namespace Decimal

def toRat (a : Decimal) : ℚ := a.coefficient / 10 ^ a.scale

variable {a b total : Decimal}

theorem toRat_mul (a : Decimal) : a.toRat * 10 ^ a.scale = a.coefficient := by
  unfold toRat
  field_simp

theorem zero_toRat : zero.toRat = 0 := by
  simp [toRat, zero]

theorem neg_toRat (a : Decimal) : a.neg.toRat = -a.toRat := by
  simp [toRat, neg, neg_div]

/-- A decimal is no larger than its coefficient. -/
theorem abs_toRat_le (a : Decimal) : |a.toRat| ≤ a.coefficient.natAbs := by
  have positive : (0 : ℚ) ≤ 10 ^ a.scale := by positivity
  rw [toRat, abs_div, Nat.cast_natAbs, Int.cast_abs, abs_of_nonneg positive]
  exact div_le_self (abs_nonneg _) (one_le_pow₀ (by norm_num))

theorem isZero_iff : a.isZero = true ↔ a.toRat = 0 := by
  simp [isZero, toRat]

theorem toRat_nonneg_iff : 0 ≤ a.toRat ↔ 0 ≤ a.coefficient := by
  rw [← @Int.cast_nonneg_iff ℚ, ← toRat_mul]
  constructor
  · intro positive
    positivity
  · intro positive
    exact nonneg_of_mul_nonneg_left positive (by positivity)

theorem cross_le_iff (a b : Decimal) :
    a.coefficient * Nat.pow 10 b.scale ≤ b.coefficient * Nat.pow 10 a.scale ↔
      a.toRat ≤ b.toRat := by
  unfold toRat
  rw [div_le_div_iff₀ (by positivity) (by positivity)]
  exact_mod_cast Iff.rfl

theorem le_iff : a.le b = true ↔ a.toRat ≤ b.toRat := by
  rw [← cross_le_iff, ← Int.compare_ne_gt]
  exact bne_iff_ne

theorem lt_iff : a.lt b = true ↔ a.toRat < b.toRat := by
  rw [← not_le, ← cross_le_iff, not_le, ← Int.compare_eq_lt]
  exact beq_iff_eq

/-! ## Sums -/

theorem scaledTo_toRat {scale : Nat} (within : a.scale ≤ scale) :
    (a.scaledTo scale : ℚ) = a.toRat * 10 ^ scale := by
  have split : (10 : ℚ) ^ scale = 10 ^ a.scale * 10 ^ (scale - a.scale) := by
    rw [← pow_add, Nat.add_sub_cancel' within]
  rw [split, ← mul_assoc, toRat_mul]
  show ((a.coefficient * (10 ^ (scale - a.scale) : Nat) : Int) : ℚ) = _
  push_cast
  ring

/-- The sum as an integer, with as many decimals as the longer of the two. -/
theorem aligned_toRat (a b : Decimal) :
    ((a.scaledTo (max a.scale b.scale) + b.scaledTo (max a.scale b.scale) : Int) : ℚ) =
      (a.toRat + b.toRat) * 10 ^ max a.scale b.scale := by
  rw [Int.cast_add, scaledTo_toRat (le_max_left _ _), scaledTo_toRat (le_max_right _ _), add_mul]

/-- A sum is one of its parts if the other is zero, and is fitted into 96 bits otherwise. -/
theorem sum?_eq_some (summed : a.sum? b = some total) :
    (a.toRat = 0 ∧ total = b) ∨ (b.toRat = 0 ∧ total = a) ∨
      fit? (a.scaledTo (max a.scale b.scale) + b.scaledTo (max a.scale b.scale))
        (max a.scale b.scale) = some total := by
  unfold sum? at summed
  by_cases noFirst : a.isZero
  · rw [if_pos noFirst] at summed
    cases summed
    exact Or.inl ⟨isZero_iff.mp noFirst, rfl⟩
  · rw [if_neg noFirst] at summed
    by_cases noSecond : b.isZero
    · rw [if_pos noSecond] at summed
      cases summed
      exact Or.inr (Or.inl ⟨isZero_iff.mp noSecond, rfl⟩)
    · rw [if_neg noSecond] at summed
      exact Or.inr (Or.inr summed)

/-- Something that is not negative takes a sum no further down than to zero. -/
theorem min_le_sum? (positive : 0 ≤ b.toRat) (summed : a.sum? b = some total) :
    min 0 a.toRat ≤ total.toRat := by
  rcases sum?_eq_some summed with ⟨_, rfl⟩ | ⟨_, rfl⟩ | fitted
  · exact (min_le_left _ _).trans positive
  · exact min_le_right _ _
  have added : 0 ≤ b.scaledTo (max a.scale b.scale) :=
    Int.mul_nonneg (toRat_nonneg_iff.mp positive) (Int.natCast_nonneg _)
  rcases Int.le_total 0 (a.scaledTo (max a.scale b.scale) + b.scaledTo (max a.scale b.scale)) with
    above | below
  · obtain ⟨dropped, _, coefficient, _⟩ := fit?_eq_some fitted
    refine (min_le_left _ _).trans (toRat_nonneg_iff.mpr ?_)
    rw [coefficient, dropDigits_of_nonneg above]
    exact Int.natCast_nonneg _
  · refine (min_le_right _ _).trans ((cross_le_iff a total).mp ?_)
    have firstScale : a.scale ≤ max a.scale b.scale := le_max_left _ _
    have aligned : max a.scale b.scale - (max a.scale b.scale - a.scale) = a.scale := by omega
    have small : max a.scale b.scale - (max a.scale b.scale - a.scale) ≤ 28 := by
      rw [aligned]
      exact a.scale_le
    have least := le_fit? (Nat.sub_le _ _) a.coefficient_lt small
      (show a.scaledTo (max a.scale b.scale) ≤ _ by omega) below fitted
    rw [aligned] at least
    exact least

theorem add_eq_ok : a.add b = .ok total ↔ a.sum? b = some total := by
  unfold add
  split <;> simp_all

theorem sub_eq_ok : a.sub b = .ok total ↔ a.sum? b.neg = some total := by
  unfold sub
  split <;> simp_all

/-! ## Money -/

/-- A multiple of 0.0001. -/
def IsMoney (a : Decimal) : Prop := ∃ units : ℤ, a.toRat * 10 ^ 4 = units

/-- The largest multiple of 0.0001 whose coefficient fits at four decimals. -/
def moneyLimit : ℚ := (coefficientLimit - 1 : ℕ) / 10 ^ 4

theorem IsMoney.neg (money : a.IsMoney) : a.neg.IsMoney := by
  obtain ⟨units, same⟩ := money
  refine ⟨-units, ?_⟩
  rw [neg_toRat, neg_mul, same]
  push_cast
  rfl

/-- Sums of money are multiples of 0.0001. -/
theorem IsMoney.add (first : a.IsMoney) (second : b.IsMoney) :
    ∃ units : ℤ, (a.toRat + b.toRat) * 10 ^ 4 = units := by
  obtain ⟨one, sameOne⟩ := first
  obtain ⟨two, sameTwo⟩ := second
  refine ⟨one + two, ?_⟩
  rw [add_mul, sameOne, sameTwo]
  push_cast
  rfl

theorem IsMoney.of_toRat_add (first : a.IsMoney) (second : b.IsMoney)
    (sum : total.toRat = a.toRat + b.toRat) : total.IsMoney := by
  unfold IsMoney
  rw [sum]
  exact first.add second

/-- Zeros after the last decimal that matters do not change the number. -/
theorem strip_toRat (scale : Nat) (coefficient : Int) :
    ((strip scale coefficient).1 : ℚ) / 10 ^ (strip scale coefficient).2 =
      coefficient / 10 ^ scale := by
  induction scale generalizing coefficient with
  | zero => rfl
  | succ scale ih =>
    unfold strip
    split
    · next divides =>
      obtain ⟨quotient, rfl⟩ := Int.dvd_of_emod_eq_zero divides
      rw [Int.mul_ediv_cancel_left _ (by decide), ih, pow_succ]
      push_cast
      field_simp
    · rfl

theorem normalize_toRat (a : Decimal) : a.normalize.toRat = a.toRat :=
  strip_toRat a.scale a.coefficient

/-- At most four decimals that matter. -/
theorem isMoney_of_normalize_scale (short : a.normalize.scale ≤ 4) : a.IsMoney := by
  have split : (10 : ℚ) ^ 4 = 10 ^ a.normalize.scale * 10 ^ (4 - a.normalize.scale) := by
    rw [← pow_add, Nat.add_sub_cancel' short]
  refine ⟨a.normalize.coefficient * 10 ^ (4 - a.normalize.scale), ?_⟩
  rw [split, ← mul_assoc, ← normalize_toRat, toRat_mul]
  push_cast
  rfl

/-- Whatever still has decimals that matter is not rounded at more than three of them. -/
theorem scale_le_of_not_dvd {coefficient units : Int} {scale dropped : Nat}
    (money : (coefficient : ℚ) * 10 ^ 4 = units * 10 ^ scale)
    (rounded : ¬ ((10 ^ dropped : Nat) : Int) ∣ coefficient) : scale - dropped ≤ 3 := by
  by_contra more
  apply rounded
  have split : (10 : ℚ) ^ scale = 10 ^ 4 * (10 ^ (scale - dropped - 4) * 10 ^ dropped) := by
    rw [← pow_add, ← pow_add]
    congr 1
    omega
  refine ⟨units * 10 ^ (scale - dropped - 4), ?_⟩
  have product : (coefficient : ℚ) = units * 10 ^ (scale - dropped - 4) * 10 ^ dropped := by
    rw [split] at money
    linarith
  have whole : coefficient = units * 10 ^ (scale - dropped - 4) * 10 ^ dropped := by
    exact_mod_cast product
  rw [whole]
  push_cast
  ring

/-- Zeros that are dropped do not change the number. -/
theorem toRat_of_dvd {coefficient : Int} {scale dropped : Nat} (within : dropped ≤ scale)
    (zeros : ((10 ^ dropped : Nat) : Int) ∣ coefficient)
    (sameCoefficient : total.coefficient = dropDigits coefficient dropped)
    (sameScale : total.scale = scale - dropped) : total.toRat = coefficient / 10 ^ scale := by
  have scales : (10 : ℚ) ^ scale = 10 ^ dropped * 10 ^ (scale - dropped) := by
    rw [← pow_add, Nat.add_sub_cancel' within]
  obtain ⟨quotient, rfl⟩ := zeros
  rw [Int.mul_comm, dropDigits_exact] at sameCoefficient
  rw [toRat, sameCoefficient, sameScale, scales]
  push_cast
  field_simp

/-- A multiple of 0.0001 that has to be rounded is beyond the limit. -/
theorem fit?_exact {coefficient units : Int} {scale : Nat}
    (money : (coefficient : ℚ) * 10 ^ 4 = units * 10 ^ scale) (small : scale ≤ 28)
    (fitted : fit? coefficient scale = some total) (bounded : |total.toRat| ≤ moneyLimit) :
    total.toRat = coefficient / 10 ^ scale := by
  obtain ⟨dropped, within, sameCoefficient, sameScale, fewer⟩ := fit?_eq_some fitted
  by_cases exact : ((10 ^ dropped : Nat) : Int) ∣ coefficient
  · exact toRat_of_dvd within exact sameCoefficient sameScale
  · exfalso
    have few := scale_le_of_not_dvd money exact
    have some_dropped : dropped ≠ 0 := by
      intro same
      subst same
      exact exact (one_dvd _)
    obtain ⟨less, rfl⟩ := Nat.exists_eq_succ_of_ne_zero some_dropped
    have large : coefficientLimit ≤ (dropDigits coefficient less).natAbs :=
      (fewer less (Nat.lt_succ_self _)).resolve_right (by omega)
    have size := le_dropDigits_succ large
    rw [← Nat.succ_eq_add_one, ← sameCoefficient] at size
    have sizeRat : (7922816251426433759354395034 : ℚ) ≤ |(total.coefficient : ℚ)| := by
      rw [← Int.cast_abs, Int.abs_eq_natAbs]
      exact_mod_cast size
    have power : (10 : ℚ) ^ total.scale ≤ 10 ^ 3 := by
      rw [sameScale]
      exact pow_le_pow_right₀ (by norm_num) few
    have product : |total.toRat| * 10 ^ total.scale = |(total.coefficient : ℚ)| := by
      rw [← toRat_mul, abs_mul, abs_of_pos (show (0 : ℚ) < 10 ^ total.scale by positivity)]
    have atMost : |total.toRat| * 10 ^ total.scale ≤ moneyLimit * 10 ^ 3 :=
      mul_le_mul bounded power (by positivity) ((abs_nonneg _).trans bounded)
    have limit : moneyLimit * 10 ^ 3 < 7922816251426433759354395034 := by
      norm_num [moneyLimit, coefficientLimit]
    linarith

/-- Sums of money are exact as long as they stay within the limit. -/
theorem sum?_exact (first : a.IsMoney) (second : b.IsMoney) (summed : a.sum? b = some total)
    (bounded : |total.toRat| ≤ moneyLimit) : total.toRat = a.toRat + b.toRat := by
  rcases sum?_eq_some summed with ⟨none, rfl⟩ | ⟨none, rfl⟩ | fitted
  · rw [none, zero_add]
  · rw [none, add_zero]
  obtain ⟨units, whole⟩ := first.add second
  have aligned := aligned_toRat a b
  rw [@fit?_exact total _ units _ ?_ (max_le a.scale_le b.scale_le) fitted bounded, aligned]
  · field_simp
  · rw [aligned, mul_right_comm, whole]

/-! ## The decimals that matter -/

section

variable {scale : Nat}

/-- The number is whole when it is written with so many decimals. -/
def WholeAt (a : Decimal) (scale : Nat) : Prop := ∃ units : ℤ, a.toRat * 10 ^ scale = units

/-- Stripping ends at a digit that is not zero, or at the point. -/
theorem strip_last (scale : Nat) (coefficient : Int) :
    (strip scale coefficient).2 = 0 ∨ ¬ (10 : Int) ∣ (strip scale coefficient).1 := by
  induction scale generalizing coefficient with
  | zero => exact Or.inl rfl
  | succ scale ih =>
    unfold strip
    split
    · exact ih _
    · next last => exact Or.inr fun divides => last (Int.emod_eq_zero_of_dvd divides)

theorem normalize_wholeAt (a : Decimal) : a.WholeAt a.normalize.scale :=
  ⟨a.normalize.coefficient, by rw [← normalize_toRat, toRat_mul]⟩

/-- A number that can be written with fewer decimals ends in a zero. -/
theorem ten_dvd_of_wholeAt (whole : a.WholeAt scale) (fewer : scale < a.scale) :
    (10 : Int) ∣ a.coefficient := by
  obtain ⟨units, same⟩ := whole
  obtain ⟨more, longer⟩ := Nat.exists_eq_add_of_lt fewer
  have split : (10 : ℚ) ^ a.scale = 10 ^ scale * 10 ^ more * 10 := by
    rw [longer, pow_succ, pow_add]
  refine ⟨units * 10 ^ more, ?_⟩
  have product : (a.coefficient : ℚ) = 10 * (units * 10 ^ more) := by
    rw [← toRat_mul, split, ← same]
    ring
  exact_mod_cast product

theorem normalize_scale_isLeast (a : Decimal) :
    IsLeast {scale | a.WholeAt scale} a.normalize.scale := by
  refine ⟨a.normalize_wholeAt, fun scale whole => ?_⟩
  by_contra fewer
  have wholeThere : a.normalize.WholeAt scale := by
    unfold WholeAt
    rw [normalize_toRat]
    exact whole
  rcases strip_last a.scale a.coefficient with none | last
  · have zero : a.normalize.scale = 0 := none
    omega
  · exact last (ten_dvd_of_wholeAt wholeThere (Nat.not_le.mp fewer))

/-- A number is a multiple of 0.0001 just if at most four of its decimals matter. -/
theorem isMoney_iff : a.IsMoney ↔ a.normalize.scale ≤ 4 :=
  ⟨fun money => a.normalize_scale_isLeast.2 money, isMoney_of_normalize_scale⟩

end

end Decimal

end AccountLedger
