import AccountLedger.Decimal
import Mathlib.Data.Int.Basic
import Mathlib.Tactic.Ring
import Mathlib.Tactic.Linarith

/-!
How far rounding to the even neighbour moves a number, and which decimals of a sum are dropped.
-/

namespace AccountLedger

namespace Decimal

/-! ## Division -/

section Division

variable {value divisor bound : Nat}

theorem divideHalfEven_near (positive : 0 < divisor) :
    2 * value ≤ (2 * divideHalfEven value divisor + 1) * divisor ∧
      2 * divideHalfEven value divisor * divisor ≤ 2 * value + divisor := by
  have split : divisor * (value / divisor) + value % divisor = value := Nat.div_add_mod ..
  have small : value % divisor < divisor := Nat.mod_lt _ positive
  unfold divideHalfEven
  generalize value / divisor = quotient at *
  generalize value % divisor = rest at *
  subst split
  dsimp only
  split
  · constructor <;> nlinarith
  · split <;> constructor <;> nlinarith

theorem divideHalfEven_le (positive : 0 < divisor) (below : value ≤ bound * divisor) :
    divideHalfEven value divisor ≤ bound := by
  by_contra above
  have near := (@divideHalfEven_near value divisor positive).2
  have more : 2 * (bound + 1) * divisor ≤ 2 * divideHalfEven value divisor * divisor :=
    Nat.mul_le_mul_right _ (by omega)
  nlinarith

theorem le_divideHalfEven (positive : 0 < divisor)
    (above : 2 * bound * divisor < 2 * value + divisor) : bound ≤ divideHalfEven value divisor := by
  by_contra below
  have near := (@divideHalfEven_near value divisor positive).1
  have less : (2 * divideHalfEven value divisor + 1) * divisor ≤ (2 * bound - 1) * divisor :=
    Nat.mul_le_mul_right _ (by omega)
  have rest : (2 * bound - 1) * divisor + divisor = 2 * bound * divisor := by
    rw [← Nat.succ_mul, Nat.succ_eq_add_one, Nat.sub_add_cancel (by omega)]
  omega

theorem divideHalfEven_exact (positive : 0 < divisor) (quotient : Nat) :
    divideHalfEven (quotient * divisor) divisor = quotient := by
  refine Nat.le_antisymm (divideHalfEven_le positive (Nat.le_refl _)) (le_divideHalfEven positive ?_)
  nlinarith

end Division

/-! ## Dropped decimals -/

section Dropping

variable {coefficient : Int} {dropped scale : Nat}

theorem ten_pow_pos (exponent : Nat) : 0 < 10 ^ exponent := Nat.pow_pos (by decide)

theorem dropDigits_of_nonneg (positive : 0 ≤ coefficient) :
    dropDigits coefficient dropped = divideHalfEven coefficient.natAbs (10 ^ dropped) := by
  rcases Int.lt_or_eq_of_le positive with above | rfl
  · show coefficient.sign * _ = _
    rw [Int.sign_eq_one_of_pos above, Int.one_mul]
    rfl
  · have none : divideHalfEven 0 (10 ^ dropped) = 0 :=
      Nat.le_zero.mp (divideHalfEven_le (ten_pow_pos dropped) (Nat.zero_le _))
    rw [Int.natAbs_zero, none]
    exact Int.zero_mul _

theorem dropDigits_neg (coefficient : Int) (dropped : Nat) :
    dropDigits (-coefficient) dropped = -dropDigits coefficient dropped := by
  unfold dropDigits
  rw [Int.sign_neg, Int.natAbs_neg, Int.neg_mul]

theorem dropDigits_of_nonpos (negative : coefficient ≤ 0) :
    dropDigits coefficient dropped = -(divideHalfEven coefficient.natAbs (10 ^ dropped) : Int) := by
  have flipped : 0 ≤ -coefficient := by omega
  rw [← Int.natAbs_neg, ← dropDigits_of_nonneg flipped, dropDigits_neg, Int.neg_neg]

theorem dropDigits_natAbs (coefficient : Int) (dropped : Nat) :
    (dropDigits coefficient dropped).natAbs = divideHalfEven coefficient.natAbs (10 ^ dropped) := by
  rcases Int.le_total 0 coefficient with positive | negative
  · rw [dropDigits_of_nonneg positive, Int.natAbs_natCast]
  · rw [dropDigits_of_nonpos negative, Int.natAbs_neg, Int.natAbs_natCast]

/-- Decimals that are zero are dropped without rounding. -/
theorem dropDigits_exact (quotient : Int) (dropped : Nat) :
    dropDigits (quotient * (10 ^ dropped : Nat)) dropped = quotient := by
  have natAbs : (quotient * (10 ^ dropped : Nat)).natAbs = quotient.natAbs * 10 ^ dropped := by
    rw [Int.natAbs_mul, Int.natAbs_natCast]
  rcases Int.le_total 0 quotient with positive | negative
  · rw [dropDigits_of_nonneg (Int.mul_nonneg positive (Int.natCast_nonneg _)), natAbs,
      divideHalfEven_exact (ten_pow_pos dropped)]
    omega
  · rw [dropDigits_of_nonpos (Int.mul_nonpos_of_nonpos_of_nonneg negative (Int.natCast_nonneg _)),
      natAbs, divideHalfEven_exact (ten_pow_pos dropped)]
    omega

/-- A coefficient that is too large by one decimal is still as large as any after the rounding. -/
theorem le_dropDigits_succ (large : coefficientLimit ≤ (dropDigits coefficient dropped).natAbs) :
    7922816251426433759354395034 ≤ (dropDigits coefficient (dropped + 1)).natAbs := by
  rw [dropDigits_natAbs] at large ⊢
  have near := (@divideHalfEven_near coefficient.natAbs _ (ten_pow_pos dropped)).2
  have scaled := Nat.mul_le_mul_right (10 ^ dropped) (Nat.mul_le_mul_left 2 large)
  have positive := ten_pow_pos dropped
  apply le_divideHalfEven (ten_pow_pos _)
  unfold coefficientLimit at scaled
  rw [Nat.pow_succ]
  omega

end Dropping

/-! ## What fits 96 bits -/

theorem ofParts?_eq_some {coefficient : Int} {scale : Nat} {value : Decimal} :
    ofParts? coefficient scale = some value ↔
      value.coefficient = coefficient ∧ value.scale = scale := by
  unfold ofParts?
  constructor
  · intro made
    split at made
    · cases made
      exact ⟨rfl, rfl⟩
    · cases made
  · rintro ⟨rfl, rfl⟩
    rw [dif_pos ⟨value.coefficient_lt, value.scale_le⟩]

theorem ofParts?_eq_none {coefficient : Int} {scale : Nat} :
    ofParts? coefficient scale = none ↔ coefficientLimit ≤ coefficient.natAbs ∨ 28 < scale := by
  unfold ofParts? coefficientLimit
  split <;> simp <;> omega

/-- As few decimals are dropped as can be. -/
theorem fit?_eq_some {coefficient : Int} {scale : Nat} {value : Decimal}
    (fitted : fit? coefficient scale = some value) : ∃ dropped,
      dropped ≤ scale ∧ value.coefficient = dropDigits coefficient dropped ∧
        value.scale = scale - dropped ∧ ∀ fewer < dropped,
          coefficientLimit ≤ (dropDigits coefficient fewer).natAbs ∨ 28 < scale - fewer := by
  obtain ⟨before, dropped, after, range, made, others⟩ := List.findSome?_eq_some_iff.mp fitted
  obtain ⟨sameCoefficient, sameScale⟩ := ofParts?_eq_some.mp made
  have inRange : dropped < scale + 1 := by
    rw [← List.mem_range, range]
    exact List.mem_append_right _ List.mem_cons_self
  refine ⟨dropped, Nat.le_of_lt_succ inRange, sameCoefficient, sameScale, fun fewer less => ?_⟩
  refine ofParts?_eq_none.mp (others fewer ?_)
  -- numbers below come before it, since the range ascends
  have ascending : (before ++ dropped :: after).Pairwise (· < ·) := range ▸ List.pairwise_lt_range
  have member : fewer ∈ before ++ dropped :: after := by
    rw [← range, List.mem_range]
    omega
  have later := (List.pairwise_cons.mp (List.pairwise_append.mp ascending).2.1).1
  rcases List.mem_append.mp member with first | rest
  · exact first
  · rcases List.mem_cons.mp rest with rfl | last
    · exact absurd less (Nat.lt_irrefl _)
    · exact absurd (later fewer last) (by omega)

/-- A negative number above one that fits with so few decimals is not rounded below it. -/
theorem le_fit? {coefficient least : Int} {scale extra : Nat} {value : Decimal}
    (within : extra ≤ scale) (fits : least.natAbs < coefficientLimit) (small : scale - extra ≤ 28)
    (above : least * (10 ^ extra : Nat) ≤ coefficient) (negative : coefficient ≤ 0)
    (fitted : fit? coefficient scale = some value) :
    least * (10 ^ value.scale : Nat) ≤ value.coefficient * (10 ^ (scale - extra) : Nat) := by
  obtain ⟨dropped, _, sameCoefficient, sameScale, fewer⟩ := fit?_eq_some fitted
  have size : coefficient.natAbs ≤ least.natAbs * 10 ^ extra := by
    have product : (least * (10 ^ extra : Nat)).natAbs = least.natAbs * 10 ^ extra := by
      rw [Int.natAbs_mul, Int.natAbs_natCast]
    omega
  have least_nonpos : least ≤ 0 := by
    by_contra positive
    have product : 0 < least * (10 ^ extra : Nat) :=
      Int.mul_pos (by omega) (Int.natCast_pos.mpr (ten_pow_pos extra))
    omega
  have enough : dropped ≤ extra := by
    by_contra more
    rcases fewer extra (by omega) with large | long
    · have rounded := divideHalfEven_le (ten_pow_pos extra) size
      rw [← dropDigits_natAbs] at rounded
      omega
    · omega
  have split : (10 ^ extra : Nat) = 10 ^ (extra - dropped) * 10 ^ dropped := by
    rw [← Nat.pow_add, Nat.sub_add_cancel enough]
  have rounded : least * (10 ^ (extra - dropped) : Nat) ≤ value.coefficient := by
    rw [split, ← Nat.mul_assoc] at size
    have below := divideHalfEven_le (ten_pow_pos dropped) size
    have product : (least * (10 ^ (extra - dropped) : Nat)).natAbs =
        least.natAbs * 10 ^ (extra - dropped) := by
      rw [Int.natAbs_mul, Int.natAbs_natCast]
    rw [sameCoefficient, dropDigits_of_nonpos negative]
    have product_nonpos : least * (10 ^ (extra - dropped) : Nat) ≤ 0 :=
      Int.mul_nonpos_of_nonpos_of_nonneg least_nonpos (Int.natCast_nonneg _)
    omega
  have scales : value.scale = (extra - dropped) + (scale - extra) := by omega
  calc
    least * (10 ^ value.scale : Nat) =
        least * (10 ^ (extra - dropped) : Nat) * (10 ^ (scale - extra) : Nat) := by
      rw [scales, Nat.pow_add]
      push_cast
      ring
    _ ≤ value.coefficient * (10 ^ (scale - extra) : Nat) :=
      Int.mul_le_mul_of_nonneg_right rounded (Int.natCast_nonneg _)

end Decimal

end AccountLedger
