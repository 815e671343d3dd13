import AccountLedger.Proofs.Decimal.Dropping

/-!
When decimals can be added: their sum is found unless its integer part needs more than 96 bits, and
it is found without rounding if some decimal denotes it, whatever the scales of the two parts are.
-/

namespace AccountLedger

namespace Decimal

variable {a b total : Decimal}

/-- What does not fit with all its decimals dropped is as large as the limit. -/
theorem fit?_eq_none {coefficient : Int} {scale : Nat} (none : fit? coefficient scale = none) :
    2 * coefficientLimit * 10 ^ scale ≤ 2 * coefficient.natAbs + 10 ^ scale := by
  have whole : ofParts? (dropDigits coefficient scale) (scale - scale) = Option.none :=
    List.findSome?_eq_none_iff.mp none scale (List.mem_range.mpr (Nat.lt_succ_self _))
  rcases ofParts?_eq_none.mp whole with large | long
  · rw [dropDigits_natAbs] at large
    have near := (@divideHalfEven_near coefficient.natAbs _ (ten_pow_pos scale)).2
    have scaled := Nat.mul_le_mul_right (10 ^ scale) (Nat.mul_le_mul_left 2 large)
    exact scaled.trans near
  · omega

theorem natAbs_aligned (a b : Decimal) :
    (((a.scaledTo (max a.scale b.scale) + b.scaledTo (max a.scale b.scale)).natAbs : Nat) : ℚ) =
      |a.toRat + b.toRat| * 10 ^ max a.scale b.scale := by
  rw [← abs_of_pos (show (0 : ℚ) < 10 ^ max a.scale b.scale by positivity), ← abs_mul,
    ← aligned_toRat, ← Int.cast_abs, Int.abs_eq_natAbs]
  rfl

/-- There is a sum unless its integer part, rounded, needs more than 96 bits. -/
theorem sum?_eq_none (none : a.sum? b = none) :
    (coefficientLimit : ℚ) - 1 / 2 ≤ |a.toRat + b.toRat| := by
  unfold sum? at none
  split at none
  · cases none
  · split at none
    · cases none
    · have large := fit?_eq_none none
      have positive : (0 : ℚ) < 10 ^ max a.scale b.scale := by positivity
      have scaled : 2 * (coefficientLimit : ℚ) * 10 ^ max a.scale b.scale ≤
          2 * (|a.toRat + b.toRat| * 10 ^ max a.scale b.scale) + 10 ^ max a.scale b.scale := by
        rw [← natAbs_aligned]
        exact_mod_cast large
      have cancelled : 2 * (coefficientLimit : ℚ) ≤ 2 * |a.toRat + b.toRat| + 1 := by
        apply le_of_mul_le_mul_right _ positive
        linarith
      linarith

/-! ## Sums that decimals can hold -/

/-- Where a coefficient ends in zeros that can be dropped, nothing else is dropped from it. -/
theorem fit?_of_zeros {coefficient quotient : Int} {scale zeros : Nat} (within : zeros ≤ scale)
    (small : scale - zeros ≤ 28) (fits : quotient.natAbs < coefficientLimit)
    (multiple : coefficient = quotient * (10 ^ zeros : Nat)) :
    ∃ total, fit? coefficient scale = some total ∧ total.toRat = coefficient / 10 ^ scale := by
  have dropped_all : dropDigits coefficient zeros = quotient := by
    rw [multiple, dropDigits_exact]
  cases fitted : fit? coefficient scale with
  | none =>
    have failed := List.findSome?_eq_none_iff.mp fitted zeros (List.mem_range.mpr (by omega))
    rw [ofParts?_eq_none, dropped_all] at failed
    omega
  | some total =>
    obtain ⟨dropped, few, sameCoefficient, sameScale, fewer⟩ := fit?_eq_some fitted
    have enough : dropped ≤ zeros := by
      by_contra more
      rcases fewer zeros (by omega) with large | long
      · rw [dropped_all] at large
        omega
      · omega
    refine ⟨total, rfl, toRat_of_dvd few ?_ sameCoefficient sameScale⟩
    rw [multiple]
    exact Dvd.dvd.mul_left (Int.natCast_dvd_natCast.mpr (Nat.pow_dvd_pow 10 enough)) quotient

/-- A number that some decimal denotes is not rounded, at whatever scale it is written. -/
theorem fit?_of_denotable {coefficient : Int} {scale : Nat} (small : scale ≤ 28)
    (denotable : Denotable (coefficient / 10 ^ scale)) :
    ∃ total, fit? coefficient scale = some total ∧ total.toRat = coefficient / 10 ^ scale := by
  obtain ⟨value, same⟩ := denotable
  have cross : value.coefficient * 10 ^ scale = coefficient * 10 ^ value.scale := by
    unfold toRat at same
    rw [div_eq_div_iff (by positivity) (by positivity)] at same
    exact_mod_cast same
  have fits := value.coefficient_lt
  rcases Nat.le_total value.scale scale with fewer | more
  -- written with more decimals than it needs
  · refine fit?_of_zeros (Nat.sub_le scale value.scale) (by omega) fits ?_
    have split : (10 : ℤ) ^ scale = 10 ^ (scale - value.scale) * 10 ^ value.scale := by
      rw [← pow_add, Nat.sub_add_cancel fewer]
    rw [split, ← mul_assoc] at cross
    exact_mod_cast (mul_right_cancel₀ (by positivity) cross).symm
  -- written with fewer decimals than that decimal has
  · have split : (10 : ℤ) ^ value.scale = 10 ^ (value.scale - scale) * 10 ^ scale := by
      rw [← pow_add, Nat.sub_add_cancel more]
    rw [split, ← mul_assoc] at cross
    have longer : value.coefficient = coefficient * (10 ^ (value.scale - scale) : Nat) := by
      exact_mod_cast mul_right_cancel₀ (by positivity) cross
    have size : coefficient.natAbs ≤ value.coefficient.natAbs := by
      rw [longer, Int.natAbs_mul, Int.natAbs_natCast]
      exact Nat.le_mul_of_pos_right _ (ten_pow_pos _)
    exact @fit?_of_zeros coefficient coefficient scale 0 (Nat.zero_le _) small
      (size.trans_lt fits) (by simp)

/-- A sum that some decimal denotes is found as it is. -/
theorem sum?_of_denotable (denotable : Denotable (a.toRat + b.toRat)) :
    ∃ total, a.sum? b = some total ∧ total.toRat = a.toRat + b.toRat := by
  unfold sum?
  split
  · next none => exact ⟨b, rfl, by rw [isZero_iff.mp none, zero_add]⟩
  · split
    · next none => exact ⟨a, rfl, by rw [isZero_iff.mp none, add_zero]⟩
    · have number : ((a.scaledTo (max a.scale b.scale) + b.scaledTo (max a.scale b.scale) : Int) : ℚ) /
          10 ^ max a.scale b.scale = a.toRat + b.toRat := by
        rw [aligned_toRat]
        field_simp
      rw [← number] at denotable ⊢
      exact fit?_of_denotable (max_le a.scale_le b.scale_le) denotable

/-- A multiple of 0.0001 within the limit needs no more than four decimals. -/
theorem denotable_of_units {number : ℚ} {units : ℤ} (whole : number * 10 ^ 4 = units)
    (bounded : |number| ≤ moneyLimit) : Denotable number := by
  have size : units.natAbs < coefficientLimit := by
    have scaled : |(units : ℚ)| ≤ (coefficientLimit - 1 : ℕ) := by
      rw [← whole, abs_mul, abs_of_pos (by positivity : (0 : ℚ) < 10 ^ 4)]
      exact (le_div_iff₀ (by positivity)).mp bounded
    rw [← Int.cast_abs, Int.abs_eq_natAbs] at scaled
    have atMost : units.natAbs ≤ coefficientLimit - 1 := by exact_mod_cast scaled
    unfold coefficientLimit at atMost ⊢
    omega
  refine ⟨⟨units, 4, size, by decide⟩, ?_⟩
  rw [toRat, ← whole]
  field_simp

/-- Money adds up within the limit. -/
theorem sum?_money (first : a.IsMoney) (second : b.IsMoney)
    (bounded : |a.toRat + b.toRat| ≤ moneyLimit) :
    ∃ total, a.sum? b = some total ∧ total.toRat = a.toRat + b.toRat := by
  obtain ⟨units, whole⟩ := first.add second
  exact sum?_of_denotable (denotable_of_units whole bounded)

end Decimal

end AccountLedger
