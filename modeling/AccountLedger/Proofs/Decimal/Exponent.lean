import AccountLedger.Proofs.Decimal.Scanning

/-!
Moving the point of a number that was read. What a text denotes is read to within a unit of the last
decimal, and exactly where decimals can hold it, with its exponent and without.
-/

namespace AccountLedger

namespace Decimal

open WrittenNumber (sign ofText? exponent?)

/-- What was read of a number: it is within a unit of the last decimal, and it is the number itself
if and only if decimals can hold it, with its exponent and without. -/
structure Reads (a : Decimal) (numeral : WrittenNumber) : Prop where
  near : |a.toRat - numeral.value| ≤ 1 / 10 ^ a.scale
  exact : a.toRat = numeral.value ↔ Denotable numeral.mantissa ∧ Denotable numeral.value

section Shifting

variable {base a : Decimal} {number : ℚ} {exponent : Nat}

theorem Rounds.near_shifted (rounds : Rounds base.coefficient base.scale number) (factor : ℚ)
    (positive : 0 < factor) :
    |base.toRat * factor - number * factor| ≤ 1 / 2 / 10 ^ base.scale * factor := by
  rw [← sub_mul, abs_mul, abs_of_pos positive]
  exact mul_le_mul_of_nonneg_right rounds.near positive.le

/-- A whole number that was read is below the limit. -/
theorem Rounds.natAbs_lt {units : ℤ} (rounds : Rounds base.coefficient base.scale number)
    (whole : number = units) : units.natAbs < coefficientLimit := by
  have coefficient : |(base.coefficient : ℚ)| ≤ 79228162514264337593543950335 := by
    rw [← Int.cast_abs, Int.abs_eq_natAbs]
    exact_mod_cast Nat.le_of_lt_succ base.coefficient_lt
  have one : (1 : ℚ) ≤ 10 ^ base.scale := one_le_pow₀ (by norm_num)
  have kept : |(base.coefficient : ℚ) / 10 ^ base.scale| ≤ |(base.coefficient : ℚ)| := by
    rw [abs_div, abs_of_pos (show (0 : ℚ) < 10 ^ base.scale by positivity)]
    exact div_le_self (abs_nonneg _) one
  have half : (1 : ℚ) / 2 / 10 ^ base.scale ≤ 1 / 2 := div_le_self (by norm_num) one
  have near := rounds.near
  rw [abs_sub_comm, whole] at near
  have apart := abs_sub_abs_le_abs_sub (units : ℚ) (base.coefficient / 10 ^ base.scale)
  have bound : |(units : ℚ)| < 79228162514264337593543950336 := by linarith
  rw [← Int.cast_abs, Int.abs_eq_natAbs] at bound
  exact_mod_cast bound

/-- A number that was read can be held as it stands if it can be held with the point moved to the
left. -/
theorem Rounds.denotable (rounds : Rounds base.coefficient base.scale number)
    (moved : Denotable (number / 10 ^ exponent)) : Denotable number := by
  obtain ⟨b, same⟩ := moved
  have product : number = b.coefficient * 10 ^ exponent / 10 ^ b.scale := by
    rw [mul_div_right_comm, ← toRat, same, div_mul_cancel₀ _ (by positivity)]
  rcases Nat.lt_or_ge exponent b.scale with fractional | whole
  · refine ⟨⟨b.coefficient, b.scale - exponent, b.coefficient_lt, by have := b.scale_le; omega⟩, ?_⟩
    have split : (10 : ℚ) ^ b.scale = 10 ^ (b.scale - exponent) * 10 ^ exponent := by
      rw [← pow_add, Nat.sub_add_cancel fractional.le]
    rw [product, toRat, split]
    field_simp
  · have integral : number = (b.coefficient * 10 ^ (exponent - b.scale) : ℤ) := by
      have split : (10 : ℚ) ^ exponent = 10 ^ (exponent - b.scale) * 10 ^ b.scale := by
        rw [← pow_add, Nat.sub_add_cancel whole]
      rw [product, split]
      push_cast
      field_simp
    generalize b.coefficient * 10 ^ (exponent - b.scale) = units at integral
    have bounded := rounds.natAbs_lt integral
    refine ⟨⟨units, 0, bounded, Nat.zero_le _⟩, ?_⟩
    rw [integral, toRat, pow_zero, div_one]

theorem shiftRight_toRat (shifted : shiftRight base exponent = .ok a) :
    a.toRat = base.toRat * 10 ^ exponent ∧ a.scale = base.scale - exponent := by
  rw [base.toRat_sign]
  unfold shiftRight at shifted
  split at shifted
  · next within =>
    obtain ⟨coefficient, scale⟩ := ofReading_parts shifted
    refine ⟨?_, scale⟩
    have split : (10 : ℚ) ^ base.scale = 10 ^ (base.scale - exponent) * 10 ^ exponent := by
      rw [← pow_add, Nat.sub_add_cancel within]
    rw [signed_toRat coefficient, scale, split]
    field_simp
  · next beyond =>
    obtain ⟨coefficient, scale⟩ := ofReading_parts shifted
    refine ⟨?_, by omega⟩
    have split : (10 : ℚ) ^ exponent = 10 ^ base.scale * 10 ^ (exponent - base.scale) := by
      rw [← pow_add, Nat.add_sub_cancel' (by omega)]
    rw [signed_toRat coefficient, scale, split]
    push_cast
    rw [Nat.pow_eq]
    push_cast
    field_simp

/-- A number that fills the coefficient cannot be moved beyond its decimals. -/
theorem not_shiftRight_full (shifted : shiftRight base exponent = .ok a)
    (beyond : base.scale < exponent) :
    ¬ coefficientLimit ≤ base.coefficient.natAbs * 10 := by
  intro full
  unfold shiftRight at shifted
  rw [if_neg (Nat.not_le.mpr beyond)] at shifted
  obtain ⟨coefficient, _⟩ := ofReading_parts shifted
  have natAbs : a.coefficient.natAbs =
      base.coefficient.natAbs * 10 ^ (exponent - base.scale) := by
    rw [coefficient, Nat.pow_eq]
    split <;> omega
  have ten : 10 ≤ 10 ^ (exponent - base.scale) :=
    Nat.le_self_pow (Nat.sub_ne_zero_of_lt beyond) 10
  have more := Nat.mul_le_mul_left base.coefficient.natAbs ten
  have bounded := a.coefficient_lt
  unfold coefficientLimit at full
  omega

theorem shiftRight_reads (rounds : Rounds base.coefficient base.scale number)
    (within : exponent ≤ maxScale) (shifted : shiftRight base exponent = .ok a) :
    |a.toRat - number * 10 ^ exponent| ≤ 1 / 10 ^ a.scale ∧
      (a.toRat = number * 10 ^ exponent ↔ Denotable number) := by
  obtain ⟨moved, scale⟩ := shiftRight_toRat shifted
  have exact : base.toRat * 10 ^ exponent = number * 10 ^ exponent ↔ Denotable number := by
    rw [mul_left_inj' (by positivity)]
    exact ⟨fun same => ⟨base, same⟩, rounds.exact⟩
  rw [moved, scale]
  refine ⟨?_, exact⟩
  rcases Nat.lt_or_ge base.scale exponent with beyond | decimals
  -- a coefficient that can be multiplied had room, so no digit was dropped from it
  · have same : base.toRat = number :=
      (rounds.full (beyond.trans_le within)).resolve_right (not_shiftRight_full shifted beyond)
    rw [same, sub_self, abs_zero]
    positivity
  · have split : (10 : ℚ) ^ base.scale = 10 ^ (base.scale - exponent) * 10 ^ exponent := by
      rw [← pow_add, Nat.sub_add_cancel decimals]
    calc
      |base.toRat * 10 ^ exponent - number * 10 ^ exponent|
        ≤ 1 / 2 / 10 ^ base.scale * 10 ^ exponent := rounds.near_shifted _ (by positivity)
      _ = 1 / 2 / 10 ^ (base.scale - exponent) := by
        rw [split]
        field_simp
      _ ≤ 1 / 10 ^ (base.scale - exponent) := by
        apply div_le_div_of_nonneg_right (by norm_num)
        positivity

theorem divideHalfUp_near (value : Nat) {divisor : Nat} (positive : 0 < divisor) :
    |(divideHalfUp value divisor : ℚ) - value / divisor| ≤ 1 / 2 := by
  have least : divideHalfUp value divisor * divisor ≤ value + divisor / 2 :=
    Nat.div_mul_le_self _ _
  have most : value + divisor / 2 < divideHalfUp value divisor * divisor + divisor :=
    Nat.lt_div_mul_add positive
  have above : 2 * (divideHalfUp value divisor * divisor) ≤ 2 * value + divisor := by omega
  have below : 2 * value ≤ 2 * (divideHalfUp value divisor * divisor) + divisor := by omega
  have divisorPositive : (0 : ℚ) < divisor := by exact_mod_cast positive
  have aboveRat : 2 * ((divideHalfUp value divisor : ℚ) * divisor) ≤ 2 * value + divisor := by
    exact_mod_cast above
  have belowRat : 2 * (value : ℚ) ≤ 2 * ((divideHalfUp value divisor : ℚ) * divisor) + divisor := by
    exact_mod_cast below
  have quotient : (value : ℚ) / divisor * divisor = value := div_mul_cancel₀ _ divisorPositive.ne'
  rw [abs_le]
  constructor <;> nlinarith

theorem divideHalfUp_exact {divisor : Nat} (positive : 0 < divisor) (quotient : Nat) :
    divideHalfUp (divisor * quotient) divisor = quotient := by
  have half : divisor / 2 / divisor = 0 := Nat.div_eq_of_lt (Nat.div_lt_self positive (by decide))
  rw [divideHalfUp, Nat.mul_add_div positive, half, Nat.add_zero]

/-- Decimals that a decimal has no room for are zero in what it can hold. -/
theorem Denotable.dvd (denotable : Denotable (base.toRat / 10 ^ exponent))
    (long : maxScale < base.scale + exponent) :
    10 ^ (base.scale + exponent - maxScale) ∣ base.coefficient.natAbs := by
  obtain ⟨b, same⟩ := denotable
  unfold toRat at same
  rw [div_div, ← pow_add, div_eq_div_iff (by positivity) (by positivity)] at same
  have within : b.scale ≤ maxScale := b.scale_le
  have split : (10 : ℤ) ^ (base.scale + exponent) =
      10 ^ (base.scale + exponent - maxScale) * 10 ^ (maxScale - b.scale) * 10 ^ b.scale := by
    rw [← pow_add, ← pow_add]
    congr 1
    omega
  have whole : b.coefficient * 10 ^ (base.scale + exponent) = base.coefficient * 10 ^ b.scale := by
    exact_mod_cast same
  have product : base.coefficient =
      10 ^ (base.scale + exponent - maxScale) * (10 ^ (maxScale - b.scale) * b.coefficient) := by
    apply mul_right_cancel₀ (show (10 : ℤ) ^ b.scale ≠ 0 by positivity)
    rw [← whole, split]
    ring
  have divides : ((10 ^ (base.scale + exponent - maxScale) : Nat) : ℤ) ∣ base.coefficient := by
    push_cast
    exact ⟨_, product⟩
  exact Int.natCast_dvd.mp divides

/-- Moving the point to the left rounds to the decimals there are. -/
theorem shiftLeft_toRat (shifted : shiftLeft base exponent = .ok a) :
    |a.toRat - base.toRat / 10 ^ exponent| ≤ 1 / 2 / 10 ^ a.scale ∧
      (base.scale + exponent ≤ maxScale ∨ Denotable (base.toRat / 10 ^ exponent) →
        a.toRat = base.toRat / 10 ^ exponent) ∧ a.scale = min (base.scale + exponent) maxScale := by
  unfold shiftLeft at shifted
  split at shifted
  · next short =>
    obtain ⟨coefficient, scale⟩ := ofReading_parts shifted
    have same : a.toRat = base.toRat / 10 ^ exponent := by
      rw [signed_toRat coefficient, base.toRat_sign, scale, pow_add]
      field_simp
    refine ⟨?_, fun _ => same, by omega⟩
    rw [same, sub_self, abs_zero]
    positivity
  · next long =>
    obtain ⟨coefficient, scale⟩ := ofReading_parts shifted
    rw [Nat.pow_eq] at coefficient
    have beyond : maxScale < base.scale + exponent := Nat.not_le.mp long
    have positive := ten_pow_pos (base.scale + exponent - maxScale)
    have shiftedBase : base.toRat / 10 ^ exponent = sign (base.coefficient < 0) *
        (base.coefficient.natAbs / (10 ^ (base.scale + exponent - maxScale) : Nat) /
          10 ^ maxScale) := by
      rw [base.toRat_sign, mul_div_assoc, div_div, div_div, ← pow_add]
      push_cast
      rw [← pow_add, Nat.sub_add_cancel beyond.le]
    rw [signed_toRat coefficient, scale, shiftedBase]
    refine ⟨?_, ?_, by omega⟩
    · have near := divideHalfUp_near base.coefficient.natAbs positive
      rw [← mul_sub, abs_mul, abs_sign, one_mul]
      exact near_of_units near
    · intro exact
      have denotable := exact.resolve_left long
      rw [← shiftedBase] at denotable
      obtain ⟨quotient, multiple⟩ := denotable.dvd beyond
      have divisorPositive : ((10 ^ (base.scale + exponent - maxScale) : Nat) : ℚ) ≠ 0 := by
        exact_mod_cast positive.ne'
      rw [multiple, divideHalfUp_exact positive]
      push_cast at divisorPositive ⊢
      rw [mul_div_cancel_left₀ _ divisorPositive]

theorem shiftLeft_reads (rounds : Rounds base.coefficient base.scale number)
    (shifted : shiftLeft base exponent = .ok a) :
    |a.toRat - number / 10 ^ exponent| ≤ 1 / 10 ^ a.scale ∧
      (a.toRat = number / 10 ^ exponent ↔
        Denotable number ∧ Denotable (number / 10 ^ exponent)) := by
  obtain ⟨near, exact, scale⟩ := shiftLeft_toRat shifted
  refine ⟨?_, fun same => ⟨rounds.denotable ⟨a, same⟩, a, same⟩, ?_⟩
  · have moved : |base.toRat / 10 ^ exponent - number / 10 ^ exponent| ≤ 1 / 2 / 10 ^ a.scale :=
      calc
        |base.toRat / 10 ^ exponent - number / 10 ^ exponent|
          ≤ 1 / 2 / 10 ^ base.scale * (1 / 10 ^ exponent) := by
          simpa only [mul_one_div] using
            rounds.near_shifted (1 / 10 ^ exponent) (by positivity)
        _ = 1 / 2 / 10 ^ (base.scale + exponent) := by
          rw [mul_one_div, div_div, ← pow_add]
        _ ≤ 1 / 2 / 10 ^ a.scale := by
          apply div_le_div_of_nonneg_left (by norm_num) (by positivity)
          exact pow_le_pow_right₀ (by norm_num) (by omega)
    calc
      |a.toRat - number / 10 ^ exponent|
        ≤ |a.toRat - base.toRat / 10 ^ exponent| +
          |base.toRat / 10 ^ exponent - number / 10 ^ exponent| := abs_sub_le _ _ _
      _ ≤ 1 / 2 / 10 ^ a.scale + 1 / 2 / 10 ^ a.scale := add_le_add near moved
      _ = 1 / 10 ^ a.scale := by ring
  · rintro ⟨denotable, shiftedDenotable⟩
    have same : base.toRat = number := rounds.exact denotable
    rw [← same] at shiftedDenotable ⊢
    exact exact (Or.inr shiftedDenotable)

end Shifting

/-! ## Texts -/

theorem readExponent_eq_ok {text : List Char} {exponent : Nat}
    (read : readExponent text = .ok exponent) :
    parseWhole? maxExponent text = some exponent ∧ exponent ≤ maxScale := by
  unfold readExponent at read
  split at read
  · cases read
  · next written parsed =>
    split at read
    · cases read
    · next within =>
      cases read
      exact ⟨parsed, Nat.not_lt.mp within⟩

theorem Reads.of_plain {a : Decimal} {numeral : WrittenNumber} (plain : numeral.exponent = 0)
    (rounds : Rounds a.coefficient a.scale numeral.mantissa) : Reads a numeral := by
  have same : numeral.value = numeral.mantissa := by
    rw [WrittenNumber.value, plain, zpow_zero, mul_one]
  constructor
  · rw [same]
    refine rounds.near.trans (div_le_div_of_nonneg_right (by norm_num) ?_)
    positivity
  · rw [same, and_self]
    exact ⟨fun kept => ⟨a, kept⟩, rounds.exact⟩

/-- Moving the point as the exponent says. -/
theorem shift_reads {base a : Decimal} {numeral : WrittenNumber} {text : List Char}
    (rounds : Rounds base.coefficient base.scale numeral.mantissa)
    (shifted : (match text with
      | '-' :: digits => do shiftLeft base (← readExponent digits)
      | _ => do shiftRight base (← readExponent text)) = .ok a) (mark : Char) :
    ∃ exponent, exponent? (mark :: text) = some exponent ∧
      Reads a { numeral with exponent := exponent } := by
  split at shifted
  · next digits =>
    cases written : readExponent digits with
    | error error =>
      rw [written] at shifted
      cases shifted
    | ok exponent =>
      rw [written] at shifted
      obtain ⟨parsed, _⟩ := readExponent_eq_ok written
      obtain ⟨near, exact⟩ := shiftLeft_reads rounds shifted
      have same : ({ numeral with exponent := -(exponent : Int) } : WrittenNumber).value =
          numeral.mantissa / 10 ^ exponent := by
        rw [WrittenNumber.value, zpow_neg, zpow_natCast, div_eq_mul_inv]
        rfl
      refine ⟨-(exponent : Int), by simp [exponent?, parsed], ?_, ?_⟩
      · rw [same]
        exact near
      · rw [same]
        exact exact
  · next unsigned =>
    cases written : readExponent text with
    | error error =>
      rw [written] at shifted
      cases shifted
    | ok exponent =>
      rw [written] at shifted
      obtain ⟨parsed, within⟩ := readExponent_eq_ok written
      obtain ⟨near, exact⟩ := shiftRight_reads rounds within shifted
      have same : ({ numeral with exponent := (exponent : Int) } : WrittenNumber).value =
          numeral.mantissa * 10 ^ exponent := by
        rw [WrittenNumber.value, zpow_natCast]
        rfl
      refine ⟨exponent, ?_, ?_, ?_⟩
      · unfold exponent?
        split
        · next nothing => cases nothing
        · next digits minus => exact absurd (List.cons.inj minus).2 (unsigned digits)
        · next same =>
          rw [← (List.cons.inj same).2, parsed]
          rfl
      · rw [same]
        exact near
      · rw [same]
        exact ⟨fun kept => ⟨exact.mp kept, a, kept⟩, fun denotable => exact.mpr denotable.1⟩

/-- What is read of a text is what it denotes, but for what a decimal cannot hold. -/
theorem read_reads {text : List Char} {a : Decimal} (read : Decimal.read text = .ok a) :
    ∃ numeral, ofText? text = some numeral ∧ Reads a numeral := by
  unfold Decimal.read at read
  split at read
  · next value plain =>
    cases read
    obtain ⟨numeral, denotes, integral, rounds⟩ := readPlain_rounds plain
    have unmarked : ∀ c ∈ text, (!isExponentMark c) = true := fun c inside => by
      rw [WrittenNumber.plain?_unmarked denotes c inside]
      rfl
    refine ⟨numeral, ?_, .of_plain integral rounds⟩
    rw [ofText?, List.takeWhile_eq_self_iff.mpr unmarked, denotes,
      List.dropWhile_eq_nil_iff.mpr unmarked]
    show some { numeral with exponent := 0 } = _
    rw [← integral]
  · next error plain =>
    split at read
    · cases read
    · next mark exponentText marked =>
      cases written : readPlain (text.takeWhile fun c => !isExponentMark c) with
      | error error =>
        rw [written] at read
        cases read
      | ok base =>
        rw [written] at read
        obtain ⟨numeral, denotes, _, rounds⟩ := readPlain_rounds written
        obtain ⟨exponent, parsed, reads⟩ := shift_reads rounds read mark
        refine ⟨_, ?_, reads⟩
        rw [ofText?, denotes, marked]
        simp [parsed]

end Decimal

end AccountLedger
