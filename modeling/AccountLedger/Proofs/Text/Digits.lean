import AccountLedger.Digits
import AccountLedger.Text.Blank
import Mathlib.Data.List.Basic
import Mathlib.Tactic.Ring

/-!
Digit strings read back as the numbers they were written for.
-/

namespace AccountLedger

theorem digitValue?_digitChar {digit : Nat} (small : digit < 16) :
    digitValue? (digitChar digit) = some digit := by
  have all : ∀ digit : Fin 16, digitValue? (digitChar digit) = some digit.val := by decide
  exact all ⟨digit, small⟩

theorem digitChar_decimal {digit : Nat} (small : digit < 10) :
    '0' ≤ digitChar digit ∧ digitChar digit ≤ '9' := by
  have all : ∀ digit : Fin 10, '0' ≤ digitChar digit ∧ digitChar digit ≤ '9' := by decide
  exact all ⟨digit, small⟩

theorem digitChar_toNat {digit : Nat} (small : digit < 10) :
    (digitChar digit).toNat = digit + 48 := by
  have all : ∀ digit : Fin 10, (digitChar digit).toNat = digit.val + 48 := by decide
  exact all ⟨digit, small⟩

theorem digitsValue?_concat (base : Nat) (text : List Char) (c : Char) :
    digitsValue? base (text ++ [c]) =
      (digitsValue? base text).bind fun total => (digitValue? c).bind fun digit =>
        if digit < base then some (total * base + digit) else none := by
  simp only [digitsValue?, List.foldl_append, List.foldl_cons, List.foldl_nil]
  rfl

/-- One more digit makes a number that much longer. -/
theorem digitsValue?_digit {base total digit : Nat} {text : List Char} (hexadecimal : base ≤ 16)
    (small : digit < base) (read : digitsValue? base text = some total) :
    digitsValue? base (text ++ [digitChar digit]) = some (total * base + digit) := by
  rw [digitsValue?_concat, read, digitValue?_digitChar (Nat.lt_of_lt_of_le small hexadecimal)]
  simp [small]

theorem digitsPadded_length (base width value : Nat) :
    (digitsPadded base width value).length = width := by
  induction width generalizing value with
  | zero => rfl
  | succ width ih => simp [digitsPadded, ih]

theorem digitsValue?_digitsPadded {base : Nat} (positive : 0 < base) (hexadecimal : base ≤ 16)
    (width value : Nat) :
    digitsValue? base (digitsPadded base width value) = some (value % base ^ width) := by
  induction width generalizing value with
  | zero => simp [digitsPadded, digitsValue?, Nat.mod_one]
  | succ width ih =>
    have split : value % base ^ (width + 1) = value / base % base ^ width * base + value % base := by
      rw [Nat.pow_succ', Nat.mod_mul, Nat.add_comm, Nat.mul_comm]
    rw [split]
    exact digitsValue?_digit hexadecimal (Nat.mod_lt _ positive) (ih _)

/-- What holds of all digits of a base holds of all characters of a number in it. -/
theorem digitsPadded_all {base : Nat} {good : Char → Prop} (positive : 0 < base)
    (digits : ∀ digit < base, good (digitChar digit)) (width value : Nat) :
    ∀ c ∈ digitsPadded base width value, good c := by
  induction width generalizing value with
  | zero => simp [digitsPadded]
  | succ width ih =>
    intro c member
    rcases List.mem_append.mp member with front | last
    · exact ih _ c front
    · rw [List.mem_singleton.mp last]
      exact digits _ (Nat.mod_lt _ positive)

theorem digitsPadded_decimal (width value : Nat) :
    ∀ c ∈ digitsPadded 10 width value, '0' ≤ c ∧ c ≤ '9' :=
  digitsPadded_all (by decide) (fun _ => digitChar_decimal) width value

theorem digitsValue?_decimalDigits (value : Nat) :
    digitsValue? 10 (decimalDigits value) = some value := by
  induction value using decimalDigits.induct with
  | case1 value small =>
    have empty : digitsValue? 10 [] = some 0 := rfl
    rw [decimalDigits, if_pos small]
    simpa using digitsValue?_digit (by decide) small empty
  | case2 value large ih =>
    rw [decimalDigits, if_neg large, digitsValue?_digit (by decide) (Nat.mod_lt _ (by decide)) ih,
      Nat.mul_comm, Nat.div_add_mod]

theorem decimalDigits_decimal (value : Nat) :
    ∀ c ∈ decimalDigits value, '0' ≤ c ∧ c ≤ '9' := by
  induction value using decimalDigits.induct with
  | case1 value small =>
    rw [decimalDigits, if_pos small]
    intro c member
    rw [List.mem_singleton.mp member]
    exact digitChar_decimal small
  | case2 value large ih =>
    rw [decimalDigits, if_neg large]
    intro c member
    rcases List.mem_append.mp member with front | last
    · exact ih c front
    · rw [List.mem_singleton.mp last]
      exact digitChar_decimal (Nat.mod_lt _ (by decide))

theorem decimalDigits_ne_nil (value : Nat) : decimalDigits value ≠ [] := by
  rw [decimalDigits]
  split <;> simp

/-- There is no leading zero. -/
theorem decimalDigits_head {value : Nat} (positive : 0 < value) :
    (decimalDigits value).head? ≠ some '0' := by
  induction value using decimalDigits.induct with
  | case1 value small =>
    have all : ∀ digit : Fin 10, 0 < digit.val → digitChar digit ≠ '0' := by decide
    rw [decimalDigits, if_pos small, List.head?_cons]
    exact fun zero => all ⟨value, small⟩ positive (Option.some.inj zero)
  | case2 value large ih =>
    rw [decimalDigits, if_neg large, List.head?_append_of_ne_nil _ (decimalDigits_ne_nil _)]
    exact ih (by omega)

theorem decimalDigits_short {value : Nat} (zero : (decimalDigits value).head? = some '0') :
    (decimalDigits value).length ≤ 1 := by
  rcases Nat.eq_zero_or_pos value with rfl | positive
  · simp [decimalDigits]
  · exact absurd zero (decimalDigits_head positive)

/-- What stands before the end of a text of digits. -/
theorem takeWhile_digits {good : Char → Bool} {digits rest : List Char}
    (all : ∀ c ∈ digits, good c = true) (ends : ∀ c ∈ rest.head?, good c = false) :
    (digits ++ rest).takeWhile good = digits := by
  rw [List.takeWhile_append_of_pos all]
  cases rest with
  | nil => simp
  | cons c rest => simp [ends c rfl]

namespace Text

theorem isBlank_of_decimal {c : Char} (decimal : '0' ≤ c ∧ c ≤ '9') : isBlank c = false := by
  have low : 48 ≤ c.toNat := decimal.1
  have high : c.toNat ≤ 57 := decimal.2
  simp [isBlank]
  omega

/-- Nothing is trimmed from a text without blanks. -/
theorem trim_eq {text : List Char} (solid : ∀ c ∈ text, isBlank c = false) : trim text = text := by
  have kept : ∀ {chars : List Char}, (∀ c ∈ chars, isBlank c = false) →
      chars.dropWhile isBlank = chars := by
    intro chars solid
    cases chars with
    | nil => rfl
    | cons c chars => simp [solid c List.mem_cons_self]
  rw [trim, trimEnd, trimStart, kept solid, kept fun c inside => solid c (List.mem_reverse.mp inside),
    List.reverse_reverse]

end Text

end AccountLedger
