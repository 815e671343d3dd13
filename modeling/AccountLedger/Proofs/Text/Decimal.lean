import AccountLedger.Proofs.Text.Digits
import AccountLedger.Decimal.Reader

/-!
Decimals are read back from their texts with the same scale.
-/

namespace AccountLedger.Decimal

/-- A digit that still fits the coefficient is appended to it. -/
theorem scanDigits_digit {magnitude scale digit : Nat} {point seen : Bool} {rest : List Char}
    (small : digit < 10) (fits : magnitude * 10 + digit < coefficientLimit)
    (room : point = true → scale < maxScale) :
    scanDigits ⟨magnitude, scale, point, seen⟩ (digitChar digit :: rest) =
      scanDigits ⟨magnitude * 10 + digit, if point then scale + 1 else 0, point, true⟩ rest := by
  have decimal : isDigit (digitChar digit) = true := by
    simpa [isDigit] using digitChar_decimal small
  have value : Decimal.digit (digitChar digit) = digit := by
    simp [Decimal.digit, digitChar_toNat small]
  have kept : (point && decide (scale ≥ maxScale) && seen) = false := by
    cases point with
    | false => rfl
    | true =>
      have := room rfl
      simp [Nat.not_le.mpr this]
  rw [scanDigits]
  simp [kept, decimal, value, fits]

/-- The digits before the point. -/
theorem scanDigits_whole {value : Nat} {rest : List Char} (fits : value < coefficientLimit) :
    scanDigits scanStart (decimalDigits value ++ rest) =
      scanDigits ⟨value, 0, false, true⟩ rest := by
  induction value using decimalDigits.induct generalizing rest with
  | case1 value small =>
    rw [decimalDigits, if_pos small, List.singleton_append, scanStart,
      scanDigits_digit small (by omega) (by simp)]
    simp
  | case2 value large ih =>
    rw [decimalDigits, if_neg large, List.append_assoc, ih (by omega), List.singleton_append,
      scanDigits_digit (Nat.mod_lt _ (by decide)) (by omega) (by simp)]
    simp [Nat.mul_comm, Nat.div_add_mod]

/-- The digits after the point. -/
theorem scanDigits_fraction {magnitude scale width value : Nat} {rest : List Char}
    (room : scale + width ≤ maxScale)
    (fits : magnitude * 10 ^ width + value % 10 ^ width < coefficientLimit) :
    scanDigits ⟨magnitude, scale, true, true⟩ (digitsPadded 10 width value ++ rest) =
      scanDigits ⟨magnitude * 10 ^ width + value % 10 ^ width, scale + width, true, true⟩ rest := by
  induction width generalizing value rest with
  | zero => simp [digitsPadded, Nat.mod_one]
  | succ width ih =>
    have split : magnitude * 10 ^ (width + 1) + value % 10 ^ (width + 1) =
        (magnitude * 10 ^ width + value / 10 % 10 ^ width) * 10 + value % 10 := by
      rw [Nat.pow_succ', Nat.mod_mul]
      ring
    rw [split] at fits ⊢
    rw [digitsPadded, List.append_assoc, ih (by omega) (by omega), List.singleton_append,
      scanDigits_digit (Nat.mod_lt _ (by decide)) fits (fun _ => by omega)]
    rfl

/-- The text of a magnitude below the limit is read back to its last digit. -/
theorem scanDigits_magnitudeText {magnitude scale : Nat} (fits : magnitude < coefficientLimit)
    (room : scale ≤ maxScale) :
    scanDigits scanStart (magnitudeText magnitude scale) = .ok (magnitude, scale) := by
  have whole : magnitude / 10 ^ scale < coefficientLimit :=
    Nat.lt_of_le_of_lt (Nat.div_le_self _ _) fits
  have split : magnitude / 10 ^ scale * 10 ^ scale + magnitude % 10 ^ scale % 10 ^ scale =
      magnitude := by
    rw [Nat.mod_mod, Nat.mul_comm, Nat.div_add_mod]
  rw [magnitudeText, Nat.pow_eq, scanDigits_whole whole]
  by_cases integral : scale = 0
  · subst integral
    simp [scanDigits]
  · have point : ∀ value rest, scanDigits ⟨value, 0, false, true⟩ ('.' :: rest) =
        scanDigits ⟨value, 0, true, true⟩ rest := fun value rest => by
      rw [scanDigits]
      simp [isDigit]
    have within : 0 + scale ≤ maxScale := by omega
    rw [if_neg integral, point, ← List.append_nil (digitsPadded 10 scale _),
      scanDigits_fraction within (split.trans_lt fits), split, Nat.zero_add]
    simp [scanDigits]

theorem ofReading_coefficient (a : Decimal) :
    ofReading (a.coefficient < 0) a.coefficient.natAbs a.scale = .ok a := by
  have signed : (if decide (a.coefficient < 0) = true then -(a.coefficient.natAbs : Int)
      else a.coefficient.natAbs) = a.coefficient := by
    by_cases negative : a.coefficient < 0
    · rw [if_pos (decide_eq_true negative)]
      omega
    · rw [if_neg (mt of_decide_eq_true negative)]
      omega
  rw [ofReading, signed, ofParts?, dif_pos ⟨a.coefficient_lt, a.scale_le⟩]

theorem magnitudeText_head (magnitude scale : Nat) :
    ∃ c rest, magnitudeText magnitude scale = c :: rest ∧ c ≠ '-' ∧ c ≠ '+' := by
  obtain ⟨c, rest, written⟩ :=
    List.exists_cons_of_ne_nil (decimalDigits_ne_nil (magnitude / Nat.pow 10 scale))
  have decimal : '0' ≤ c ∧ c ≤ '9' :=
    decimalDigits_decimal (magnitude / Nat.pow 10 scale) c (written ▸ List.mem_cons_self)
  refine ⟨c, _, by rw [magnitudeText, written, List.cons_append], ?_, ?_⟩
  all_goals
    intro equal
    subst equal
    revert decimal
    decide

theorem readPlain_toText (a : Decimal) : readPlain a.toText = .ok a := by
  have scanned := scanDigits_magnitudeText a.coefficient_lt a.scale_le
  have value := a.ofReading_coefficient
  by_cases negative : a.coefficient < 0
  · rw [decide_eq_true negative] at value
    rw [toText, if_pos negative, List.singleton_append, readPlain, scanned]
    exact value
  · rw [decide_eq_false negative] at value
    obtain ⟨c, rest, written, minus, plus⟩ := magnitudeText_head a.coefficient.natAbs a.scale
    rw [toText, if_neg negative, List.nil_append, written, readPlain, ← written, scanned]
    · exact value
    · exact List.cons_ne_nil c rest
    · exact fun rest same => minus (List.cons.inj same).1
    · exact fun rest same => plus (List.cons.inj same).1

/-- Reading undoes writing, scale and all. -/
theorem read_toText (a : Decimal) : read a.toText = .ok a := by
  rw [read, readPlain_toText]

/-- There are no blanks in the text of a decimal. -/
theorem toText_solid (a : Decimal) : ∀ c ∈ a.toText, Text.isBlank c = false := by
  have sign : ∀ c ∈ (if a.coefficient < 0 then ['-'] else []), Text.isBlank c = false := by
    split <;> simp [show Text.isBlank '-' = false from rfl]
  have whole : ∀ value, ∀ c ∈ decimalDigits value, Text.isBlank c = false := fun value c inside =>
    Text.isBlank_of_decimal (decimalDigits_decimal value c inside)
  have fraction : ∀ width value, ∀ c ∈ '.' :: digitsPadded 10 width value,
      Text.isBlank c = false := by
    intro width value
    refine List.forall_mem_cons.mpr ⟨rfl, fun c inside => ?_⟩
    exact Text.isBlank_of_decimal (digitsPadded_decimal width value c inside)
  rw [toText, magnitudeText]
  refine List.forall_mem_append.mpr ⟨sign, List.forall_mem_append.mpr ⟨whole _, ?_⟩⟩
  split
  · simp
  · exact fraction _ _

end AccountLedger.Decimal
