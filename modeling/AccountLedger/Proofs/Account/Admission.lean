import AccountLedger.Proofs.Account.AmountText

/-!
Which numbers are amounts: the positive multiples of 0.0001 up to a trillion, in whatever scale they
are written. Of what is wrong with another number the first is told, in this order.
-/

namespace AccountLedger

namespace Amount

variable {value : Decimal}

/-! ## The checks -/

theorem le_zero_iff : value.le Decimal.zero = true ↔ value.toRat ≤ 0 := by
  rw [Decimal.le_iff, Decimal.zero_toRat]

theorem long_iff : maxScale < value.normalize.scale ↔ ¬ value.IsMoney := by
  rw [Decimal.isMoney_iff, Nat.not_le]
  rfl

theorem large_iff : maximum.lt value = true ↔ 10 ^ 12 < value.toRat := by
  have trillion : maximum.toRat = 10 ^ 12 := by norm_num [maximum, Decimal.zero, Decimal.toRat]
  rw [Decimal.lt_iff, trillion]

theorem complaint?_of_le_zero (negative : value.toRat ≤ 0) :
    complaint? value = some (.notPositive value) := by
  unfold complaint?
  rw [if_pos (le_zero_iff.mpr negative)]

section

variable (positive : 0 < value.toRat)
include positive

theorem complaint?_of_long (long : ¬ value.IsMoney) :
    complaint? value = some (.tooManyDecimals value.normalize.scale) := by
  unfold complaint?
  rw [if_neg (mt le_zero_iff.mp (not_le.mpr positive)), if_pos (long_iff.mpr long)]

variable (money : value.IsMoney)
include money

theorem complaint?_of_large (large : 10 ^ 12 < value.toRat) :
    complaint? value = some .tooLarge := by
  unfold complaint?
  rw [if_neg (mt le_zero_iff.mp (not_le.mpr positive)), if_neg (fun long => long_iff.mp long money),
    if_pos (large_iff.mpr large)]

theorem complaint?_of_admissible (within : value.toRat ≤ 10 ^ 12) : complaint? value = none := by
  unfold complaint?
  rw [if_neg (mt le_zero_iff.mp (not_le.mpr positive)), if_neg (fun long => long_iff.mp long money),
    if_neg (mt large_iff.mp (not_lt.mpr within))]

end

theorem ofDecimal_of_some {error : AmountError} (complaint : complaint? value = some error) :
    ofDecimal value = .error error := by
  unfold ofDecimal
  split
  · next other found => rw [Option.some.inj (found.symm.trans complaint)]
  · next none => cases none.symm.trans complaint

theorem ofDecimal_of_none (admitted : complaint? value = none) :
    ofDecimal value = .ok ⟨value, admitted⟩ := by
  unfold ofDecimal
  split
  · next other found => cases found.symm.trans admitted
  · rfl

/-! ## What comes of a number -/

/-- The result of checking a number: it is accepted as it is, or refused for the first reason there
is. -/
structure Judges (value : Decimal) (result : Except AmountError Amount) : Prop where
  accepted : (∃ amount, result = .ok amount) ↔
    0 < value.toRat ∧ value.toRat ≤ 10 ^ 12 ∧ ∃ units : ℤ, value.toRat * 10 ^ 4 = units
  unchanged : ∀ amount, result = .ok amount → amount.value = value
  notPositive : value.toRat ≤ 0 → result = .error (.notPositive value)
  tooManyDecimals : 0 < value.toRat → (¬ ∃ units : ℤ, value.toRat * 10 ^ 4 = units) →
    ∃ scale, IsLeast {scale : ℕ | ∃ units : ℤ, value.toRat * 10 ^ scale = units} scale ∧
      result = .error (.tooManyDecimals scale)
  tooLarge : 0 < value.toRat → (∃ units : ℤ, value.toRat * 10 ^ 4 = units) →
    10 ^ 12 < value.toRat → result = .error .tooLarge

theorem ofDecimal_judges (value : Decimal) : Judges value (ofDecimal value) where
  accepted := by
    constructor
    · rintro ⟨amount, accepted⟩
      rw [← value_of_ofDecimal accepted]
      exact ⟨amount.positive, amount.le_maximum, amount.isMoney⟩
    · rintro ⟨positive, within, money⟩
      exact ⟨_, ofDecimal_of_none (complaint?_of_admissible positive money within)⟩
  unchanged _ := value_of_ofDecimal
  notPositive negative := ofDecimal_of_some (complaint?_of_le_zero negative)
  tooManyDecimals positive long :=
    ⟨value.normalize.scale, value.normalize_scale_isLeast,
      ofDecimal_of_some (complaint?_of_long positive long)⟩
  tooLarge positive money large := ofDecimal_of_some (complaint?_of_large positive money large)

theorem ofInt64_toRat (number : Int64) : (Decimal.ofInt64 number).toRat = number.toInt := by
  simp [Decimal.toRat, Decimal.ofInt64]

theorem decode_of_ok {json : Json} (read : Decoder.decimal json = .ok value) :
    decode json = (ofDecimal value).mapError fun error => .refused error.message := by
  unfold decode
  rw [read]
  simp only [bind, Except.bind]
  cases ofDecimal value <;> rfl

theorem decode_of_error {json : Json} {error : DecodeError}
    (unread : Decoder.decimal json = .error error) : decode json = .error error := by
  unfold decode
  rw [unread]
  rfl

/-- A number of 96 bits and up to 28 decimals is accepted as an amount just if it is positive, at
most a trillion and a multiple of 0.0001, in whatever scale it is written, and then it stays as it
is written. Otherwise the first is told that applies: that it is not positive, with how many decimals
it can be written at least if these are more than four, or that it is too large. The same holds of
every integer of 64 bits, and of every decimal that is read from JSON. -/
theorem admits_exactly :
    (∀ value, Judges value (ofDecimal value)) ∧
    (∀ number : Int64, (Decimal.ofInt64 number).toRat = number.toInt ∧
      (Decimal.ofInt64 number).scale = 0 ∧ Judges (Decimal.ofInt64 number) (ofInt64 number)) ∧
    (∀ json value, Decoder.decimal json = .ok value → ∃ result, Judges value result ∧
      decode json = result.mapError fun error => .refused error.message) ∧
    ∀ json error, Decoder.decimal json = .error error → decode json = .error error :=
  ⟨ofDecimal_judges, fun number => ⟨ofInt64_toRat number, rfl, ofDecimal_judges _⟩,
    fun _ value read => ⟨_, ofDecimal_judges value, decode_of_ok read⟩, fun _ _ => decode_of_error⟩

/-- Ten and a half is accepted with two zeros that do not matter; a negative number is refused. -/
theorem admits_exactly_padded :
    (∃ amount, decode (.string "10.500") = .ok amount ∧ amount.value.scale = 3) ∧
      ofInt64 (-5) = .error (.notPositive (Decimal.ofInt64 (-5))) := by
  obtain ⟨_, integers, decoded, _⟩ := admits_exactly
  let padded : Decimal := ⟨10500, 3, by decide, by decide⟩
  have number : padded.toRat = 21 / 2 := by norm_num [padded, Decimal.toRat]
  have read : Decoder.decimal (.string "10.500") = .ok padded := by decide +kernel
  obtain ⟨result, judges, same⟩ := decoded _ _ read
  obtain ⟨amount, rfl⟩ := judges.accepted.mpr
    ⟨by rw [number]; norm_num, by rw [number]; norm_num, 105000, by rw [number]; norm_num⟩
  refine ⟨⟨amount, same, by rw [judges.unchanged amount rfl]⟩, ?_⟩
  obtain ⟨integer, _, refused⟩ := integers (-5)
  apply refused.notPositive
  rw [integer]
  have below : (-5 : Int64).toInt = -5 := by decide
  rw [below]
  norm_num

end Amount

end AccountLedger
