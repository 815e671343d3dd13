import AccountLedger.Proofs.Decimal.Value
import AccountLedger.Proofs.Text.WrittenNumber

/-!
Reading drops the digits that a decimal has no room for, half up on the first of them. What is kept
lies within half a unit of its last decimal, and is the number itself if any decimal is.
-/

namespace AccountLedger

namespace Decimal

open WrittenNumber (appended firstDigit)

/-- The numbers that some decimal denotes. -/
def Denotable (number : ℚ) : Prop := ∃ a : Decimal, a.toRat = number

/-- What became of a number that was read: it is within half a unit of the last decimal kept, it is
kept as it is wherever a decimal can hold it, and it is never rounded while there is room. -/
structure Rounds (coefficient : Int) (scale : Nat) (number : ℚ) : Prop where
  near : |(coefficient : ℚ) / 10 ^ scale - number| ≤ 1 / 2 / 10 ^ scale
  exact : Denotable number → (coefficient : ℚ) / 10 ^ scale = number
  full : scale < maxScale →
    (coefficient : ℚ) / 10 ^ scale = number ∨ coefficientLimit ≤ coefficient.natAbs * 10

theorem Rounds.refl (coefficient : Int) (scale : Nat) :
    Rounds coefficient scale (coefficient / 10 ^ scale) where
  near := by
    rw [sub_self, abs_zero]
    positivity
  exact _ := rfl
  full _ := Or.inl rfl

theorem Denotable.neg {number : ℚ} (denotable : Denotable number) : Denotable (-number) := by
  obtain ⟨a, rfl⟩ := denotable
  exact ⟨a.neg, a.neg_toRat⟩

theorem Rounds.neg {coefficient : Int} {scale : Nat} {number : ℚ}
    (rounds : Rounds coefficient scale number) : Rounds (-coefficient) scale (-number) where
  near := by
    have flipped : ((-coefficient : Int) : ℚ) / 10 ^ scale - -number =
        -((coefficient : ℚ) / 10 ^ scale - number) := by
      push_cast
      ring
    rw [flipped, abs_neg]
    exact rounds.near
  exact denotable := by
    have kept := rounds.exact (neg_neg number ▸ denotable.neg)
    rw [← kept]
    push_cast
    ring
  full room := by
    rw [Int.natAbs_neg]
    refine (rounds.full room).imp_left fun kept => ?_
    rw [← kept]
    push_cast
    ring

/-! ## Rounding -/

section Rounding

variable {magnitude scale places rest : Nat}

theorem Denotable.cross {number : Nat} (denotable : Denotable (number / 10 ^ places)) :
    ∃ a : Decimal, a.coefficient * 10 ^ places = number * 10 ^ a.scale := by
  obtain ⟨a, same⟩ := denotable
  refine ⟨a, ?_⟩
  unfold toRat at same
  rw [div_eq_div_iff (by positivity) (by positivity)] at same
  exact_mod_cast same

/-- Where no decimal is left or no further digit fits, a decimal holds the number only if nothing
but zeros is dropped from it. -/
theorem Denotable.no_rest (below : rest < 10 ^ places)
    (overflow : maxScale ≤ scale ∨
      coefficientLimit * 10 ^ places ≤ (magnitude * 10 ^ places + rest) * 10)
    (denotable : Denotable ((magnitude * 10 ^ places + rest : Nat) / 10 ^ (scale + places))) :
    rest = 0 := by
  obtain ⟨a, same⟩ := denotable.cross
  rcases Nat.lt_or_ge scale a.scale with more | fewer
  -- one that has more decimals than were kept would need a larger coefficient than there is
  · have room : ¬ maxScale ≤ scale := Nat.not_le.mpr (more.trans_le a.scale_le)
    have large := overflow.resolve_left room
    have split : (10 : ℤ) ^ a.scale = 10 ^ scale * (10 * 10 ^ (a.scale - scale - 1)) := by
      rw [← pow_succ', ← pow_add]
      congr 1
      omega
    have product : a.coefficient * 10 ^ places =
        (magnitude * 10 ^ places + rest : Nat) * 10 * 10 ^ (a.scale - scale - 1) := by
      have scaled : 10 ^ scale * (a.coefficient * 10 ^ places) =
          10 ^ scale * ((magnitude * 10 ^ places + rest : Nat) * 10 *
            10 ^ (a.scale - scale - 1)) := by
        rw [pow_add, split] at same
        linarith
      exact mul_left_cancel₀ (by positivity) scaled
    have atLeast : (coefficientLimit : ℤ) * 10 ^ places ≤ a.coefficient * 10 ^ places := by
      rw [product]
      have one : (1 : ℤ) ≤ 10 ^ (a.scale - scale - 1) := one_le_pow₀ (by norm_num)
      have digits : (coefficientLimit : ℤ) * 10 ^ places ≤
          (magnitude * 10 ^ places + rest : Nat) * 10 := by
        exact_mod_cast large
      nlinarith
    have beyond := le_of_mul_le_mul_right atLeast (by positivity)
    have bounded := a.coefficient_lt
    unfold coefficientLimit at beyond
    omega
  -- one that has no more is a multiple of the unit of what was kept
  · have split : (10 : ℤ) ^ (scale + places) =
        10 ^ a.scale * (10 ^ (scale - a.scale) * 10 ^ places) := by
      rw [← pow_add, ← pow_add]
      congr 1
      omega
    have product : ((magnitude * 10 ^ places + rest : Nat) : ℤ) =
        (10 ^ places : Nat) * (a.coefficient * 10 ^ (scale - a.scale)) := by
      have scaled : 10 ^ a.scale * ((magnitude * 10 ^ places + rest : Nat) : ℤ) =
          10 ^ a.scale * ((10 ^ places : Nat) * (a.coefficient * 10 ^ (scale - a.scale))) := by
        rw [split] at same
        push_cast at same ⊢
        linarith
      exact mul_left_cancel₀ (by positivity) scaled
    have divides : 10 ^ places ∣ magnitude * 10 ^ places + rest :=
      Int.natCast_dvd_natCast.mp ⟨_, product⟩
    exact Nat.eq_zero_of_dvd_of_lt ((Nat.dvd_add_right (Nat.dvd_mul_left _ _)).mp divides) below

end Rounding

/-- The part of a unit that the digits of a text stand for. -/
def part (text : List Char) : ℚ := appended 0 text / 10 ^ text.countP isDigit

theorem part_nonneg (text : List Char) : 0 ≤ part text := by
  unfold part
  positivity

theorem part_lt_one (text : List Char) : part text < 1 := by
  unfold part
  rw [div_lt_one (by positivity)]
  exact_mod_cast WrittenNumber.appended_lt text

theorem part_bounds (text : List Char) :
    (firstDigit text : ℚ) ≤ part text * 10 ∧ part text * 10 < firstDigit text + 1 := by
  obtain ⟨least, most⟩ := WrittenNumber.appended_bounds text
  unfold part
  constructor
  · rw [div_mul_eq_mul_div, le_div_iff₀ (by positivity)]
    exact_mod_cast least
  · rw [div_mul_eq_mul_div, div_lt_iff₀ (by positivity)]
    exact_mod_cast most

theorem appended_part (magnitude scale : Nat) (text : List Char) :
    (appended magnitude text : ℚ) / 10 ^ (scale + text.countP isDigit) =
      (magnitude + part text) / 10 ^ scale := by
  rw [WrittenNumber.appended_eq, part, pow_add]
  push_cast
  field_simp

theorem near_of_units {kept scale : Nat} {units : ℚ} (close : |kept - units| ≤ 1 / 2) :
    |((kept : Int) : ℚ) / 10 ^ scale - units / 10 ^ scale| ≤ 1 / 2 / 10 ^ scale := by
  have positive : (0 : ℚ) < 10 ^ scale := by positivity
  rw [Int.cast_natCast, ← sub_div, abs_div, abs_of_pos positive]
  exact div_le_div_of_nonneg_right close positive.le

section Dropped

/-- The next digit does not fit: no decimal is left for it, or no bit. -/
def Overflows (magnitude scale : Nat) (text : List Char) : Prop :=
  maxScale ≤ scale ∨ coefficientLimit ≤ magnitude * 10 + firstDigit text

variable {magnitude scale : Nat} {text : List Char} (overflow : Overflows magnitude scale text)
include overflow

/-- A number that a decimal can hold has only zeros where its digits do not fit. -/
theorem part_eq_zero (denotable : Denotable ((magnitude + part text) / 10 ^ scale)) :
    part text = 0 := by
  rw [← appended_part, WrittenNumber.appended_eq] at denotable
  have none : appended 0 text = 0 := by
    refine denotable.no_rest (WrittenNumber.appended_lt text) (overflow.imp_right fun large => ?_)
    have least := (WrittenNumber.appended_bounds text).1
    have scaled := Nat.mul_le_mul_right (10 ^ text.countP isDigit) large
    linarith
  rw [part, none, Nat.cast_zero, zero_div]

theorem rounds_down (down : firstDigit text < 5) :
    Rounds magnitude scale ((magnitude + part text) / 10 ^ scale) where
  near := by
    have most := (part_bounds text).2
    have small : (firstDigit text : ℚ) + 1 ≤ 5 := by exact_mod_cast down
    apply near_of_units
    rw [sub_add_cancel_left, abs_neg, abs_of_nonneg (part_nonneg text)]
    linarith
  exact denotable := by
    rw [part_eq_zero overflow denotable, add_zero]
    rfl
  full room := by
    have large := overflow.resolve_left (Nat.not_le.mpr room)
    unfold coefficientLimit at large ⊢
    omega

theorem part_ne_zero (up : ¬ firstDigit text < 5) :
    ¬ Denotable ((magnitude + part text) / 10 ^ scale) := by
  intro denotable
  have least := (part_bounds text).1
  have large : (5 : ℚ) ≤ firstDigit text := by exact_mod_cast Nat.not_lt.mp up
  rw [part_eq_zero overflow denotable] at least
  linarith

theorem rounds_up (up : ¬ firstDigit text < 5) :
    Rounds (magnitude + 1 : Nat) scale ((magnitude + part text) / 10 ^ scale) where
  near := by
    have least := (part_bounds text).1
    have below := part_lt_one text
    have large : (5 : ℚ) ≤ firstDigit text := by exact_mod_cast Nat.not_lt.mp up
    apply near_of_units
    rw [Nat.cast_succ, add_sub_add_left_eq_sub, abs_of_pos (by linarith)]
    linarith
  exact denotable := absurd denotable (part_ne_zero overflow up)
  full room := by
    have large := overflow.resolve_left (Nat.not_le.mpr room)
    have digit : firstDigit text < 10 := by
      have least := (part_bounds text).1
      have below := part_lt_one text
      exact_mod_cast (show (firstDigit text : ℚ) < 10 by linarith)
    right
    unfold coefficientLimit at large ⊢
    omega

/-- The largest coefficient is rounded up to one digit less. -/
theorem rounds_over (up : ¬ firstDigit text < 5) (largest : magnitude + 1 = coefficientLimit)
    (fractional : scale ≠ 0) :
    Rounds ((magnitude + 1 + 4) / 10 : Nat) (scale - 1) ((magnitude + part text) / 10 ^ scale) where
  near := by
    obtain ⟨fewer, rfl⟩ := Nat.exists_eq_succ_of_ne_zero fractional
    have tenth : ((magnitude : ℚ) + part text) / 10 ^ (fewer + 1) =
        (magnitude + part text) / 10 / 10 ^ fewer := by
      rw [pow_succ', div_div]
    have whole : (((magnitude + 1 + 4) / 10 : Nat) : ℚ) = (magnitude + 5) / 10 := by
      have multiple : (magnitude + 1 + 4) / 10 * 10 = magnitude + 5 := by
        unfold coefficientLimit at largest
        omega
      rw [eq_div_iff (by norm_num)]
      exact_mod_cast multiple
    rw [Nat.succ_eq_add_one, Nat.add_sub_cancel, tenth]
    apply near_of_units
    have positive := part_nonneg text
    have below := part_lt_one text
    rw [whole, abs_le]
    constructor <;> linarith
  exact denotable := absurd denotable (part_ne_zero overflow up)
  full _ := by
    right
    unfold coefficientLimit at largest ⊢
    omega

end Dropped

/-- What `roundOff` keeps of a number whose next digit does not fit any more. -/
theorem roundOff_rounds {scan : Scan} {text : List Char} {kept : Nat × Nat}
    (fits : scan.magnitude < coefficientLimit)
    (overflow : Overflows scan.magnitude scan.scale text)
    (read : roundOff scan text = .ok kept) :
    (text.all fun c => isDigit c || c == '_') = true ∧
      Rounds kept.1 kept.2
        (appended scan.magnitude text / 10 ^ (scan.scale + text.countP isDigit)) := by
  unfold roundOff at read
  cases foreign : text.find? fun c => !isDigit c && c != '_' with
  | some c =>
    rw [foreign] at read
    cases read
  | none =>
    rw [foreign] at read
    have allowed : (text.all fun c => isDigit c || c == '_') = true := by
      rw [List.all_eq_true]
      intro c inside
      have kind := List.find?_eq_none.mp foreign c inside
      revert kind
      cases isDigit c <;> simp
    refine ⟨allowed, ?_⟩
    rw [appended_part]
    change (if firstDigit text < 5 then _ else _) = _ at read
    split at read
    · next down =>
      cases read
      exact rounds_down overflow down
    · next up =>
      split at read
      · cases read
        exact rounds_up overflow up
      · next large =>
        split at read
        · cases read
        · next fractional =>
          cases read
          exact rounds_over overflow up (by omega) fractional

end Decimal

end AccountLedger
