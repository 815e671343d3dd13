import AccountLedger.Proofs.Decimal.Dropping

/-!
Scanning a number from left to right keeps the digits that it is written with, as far as they fit.
-/

namespace AccountLedger

namespace Decimal

open WrittenNumber (appended whole fraction isBody sign plain? unsigned?)

/-- What scanning one more character comes to, if a number is read in the end. -/
inductive ScanStep (scan : Scan) (kept : Nat × Nat) (c : Char) (text : List Char) : Prop
  | full (point : scan.pointSeen = true) (long : maxScale ≤ scan.scale)
      (any : scan.digitSeen = true) (read : roundOff scan (c :: text) = .ok kept)
  | appended (decimal : isDigit c = true)
      (room : scan.pointSeen = true → scan.digitSeen = true → scan.scale < maxScale)
      (fits : scan.magnitude * 10 + digit c < coefficientLimit)
      (read : scanDigits ⟨scan.magnitude * 10 + digit c,
        if scan.pointSeen then scan.scale + 1 else 0, scan.pointSeen, true⟩ text = .ok kept)
  | overflow (decimal : isDigit c = true) (point : scan.pointSeen = true)
      (large : coefficientLimit ≤ scan.magnitude * 10 + digit c)
      (read : roundOff scan (c :: text) = .ok kept)
  | point (same : c = '.') (first : scan.pointSeen = false)
      (read : scanDigits { scan with pointSeen := true } text = .ok kept)
  | underscore (same : c = '_') (any : scan.digitSeen = true)
      (read : scanDigits scan text = .ok kept)

theorem scanDigits_cons {scan : Scan} {kept : Nat × Nat} {c : Char} {text : List Char}
    (read : scanDigits scan (c :: text) = .ok kept) : ScanStep scan kept c text := by
  rw [scanDigits] at read
  split at read
  · next long =>
    obtain ⟨⟨point, full⟩, any⟩ := by simpa using long
    exact .full point full any read
  · next short =>
    split at read
    · next decimal =>
      dsimp only at read
      split at read
      · next fits =>
        refine .appended decimal (fun point any => ?_) fits read
        simpa [point, any] using short
      · next large =>
        split at read
        · next point => exact .overflow decimal point (Nat.not_lt.mp large) read
        · cases read
    · split at read
      · next point =>
        obtain ⟨same, first⟩ := by simpa using point
        exact .point same first read
      · split at read
        · next underscore =>
          obtain ⟨same, any⟩ := by simpa using underscore
          exact .underscore same any read
        · cases read

theorem scanDigits_nil {scan : Scan} {kept : Nat × Nat} (read : scanDigits scan [] = .ok kept) :
    scan.digitSeen = true ∧ kept = (scan.magnitude, scan.scale) := by
  rw [scanDigits] at read
  split at read
  · next any =>
    cases read
    exact ⟨any, rfl⟩
  · cases read

theorem ne_point_of_digit {c : Char} (decimal : isDigit c = true) : c ≠ '.' := by
  rintro rfl
  cases decimal

/-- The digits after the point. -/
theorem scanDigits_fraction_rounds {magnitude scale : Nat} {seen : Bool} {text : List Char}
    {kept : Nat × Nat} (fits : magnitude < coefficientLimit)
    (read : scanDigits ⟨magnitude, scale, true, seen⟩ text = .ok kept) :
    (seen || text.head?.any isDigit) = true ∧
      (text.all fun c => isDigit c || c == '_') = true ∧
      Rounds kept.1 kept.2 (appended magnitude text / 10 ^ (scale + text.countP isDigit)) := by
  induction text generalizing magnitude scale seen with
  | nil =>
    obtain ⟨any, rfl⟩ := scanDigits_nil read
    exact ⟨by simpa using any, rfl, Rounds.refl _ _⟩
  | cons c text ih =>
    cases scanDigits_cons read with
    | full _ long any left =>
      obtain ⟨allowed, rounds⟩ := roundOff_rounds fits (Or.inl long) left
      exact ⟨by simpa using Or.inl any, allowed, rounds⟩
    | appended decimal _ fit left =>
      obtain ⟨_, allowed, rounds⟩ := ih fit left
      refine ⟨by simp [decimal], by simp [decimal, allowed], ?_⟩
      rw [WrittenNumber.appended_digit decimal, List.countP_cons_of_pos decimal, Nat.add_comm _ 1,
        ← Nat.add_assoc]
      exact rounds
    | overflow decimal _ large left =>
      have overflows : Overflows magnitude scale (c :: text) := by
        refine Or.inr ?_
        rw [WrittenNumber.firstDigit_of_digit decimal]
        exact large
      obtain ⟨allowed, rounds⟩ := roundOff_rounds fits overflows left
      exact ⟨by simp [decimal], allowed, rounds⟩
    | point _ first => cases first
    | underscore same any left =>
      subst same
      obtain ⟨_, allowed, rounds⟩ := ih fits left
      refine ⟨by simpa using Or.inl any, by simpa using allowed, ?_⟩
      rw [WrittenNumber.appended_other (by decide), List.countP_cons_of_neg (by decide)]
      exact rounds

/-- All digits, when those read so far stand before the point. -/
theorem scanDigits_rounds {magnitude : Nat} {seen : Bool} {text : List Char} {kept : Nat × Nat}
    (fits : magnitude < coefficientLimit)
    (read : scanDigits ⟨magnitude, 0, false, seen⟩ text = .ok kept) :
    (seen || (whole text ++ fraction text).head?.any isDigit) = true ∧
      ((whole text ++ fraction text).all fun c => isDigit c || c == '_') = true ∧
      Rounds kept.1 kept.2
        (appended magnitude (whole text ++ fraction text) /
          10 ^ (fraction text).countP isDigit) := by
  induction text generalizing magnitude seen with
  | nil =>
    obtain ⟨any, rfl⟩ := scanDigits_nil read
    exact ⟨by simpa using Or.inl any, rfl, Rounds.refl _ _⟩
  | cons c text ih =>
    -- before the point nothing is rounded, so only the digits after it need `Rounds`
    cases scanDigits_cons read with
    | full point => cases point
    | appended decimal _ fit left =>
      obtain ⟨_, allowed, rounds⟩ := ih fit left
      have other := ne_point_of_digit decimal
      rw [WrittenNumber.whole_cons other, WrittenNumber.fraction_cons other, List.cons_append,
        WrittenNumber.appended_digit decimal]
      exact ⟨by simp [decimal], by simpa [decimal] using allowed, rounds⟩
    | overflow _ point => cases point
    | point same _ left =>
      subst same
      rw [WrittenNumber.whole_point, WrittenNumber.fraction_point, List.nil_append]
      have read := scanDigits_fraction_rounds fits left
      rwa [Nat.zero_add] at read
    | underscore same any left =>
      subst same
      obtain ⟨_, allowed, rounds⟩ := ih fits left
      rw [WrittenNumber.whole_cons (by decide), WrittenNumber.fraction_cons (by decide),
        List.cons_append, WrittenNumber.appended_other (by decide)]
      exact ⟨by simpa using Or.inl any, by simpa using allowed, rounds⟩

/-! ## Signs -/

theorem abs_sign (negative : Bool) : |sign negative| = 1 := by
  cases negative <;> simp [sign]

theorem coefficient_sign (a : Decimal) :
    a.coefficient = if decide (a.coefficient < 0) then -(a.coefficient.natAbs : Int)
      else a.coefficient.natAbs := by
  split
  · next negative =>
    have below := of_decide_eq_true negative
    omega
  · next positive =>
    have above := mt decide_eq_true positive
    omega

theorem ofReading_parts {negative : Bool} {magnitude scale : Nat} {a : Decimal}
    (made : ofReading negative magnitude scale = .ok a) :
    a.coefficient = (if negative then -(magnitude : Int) else magnitude) ∧ a.scale = scale := by
  unfold ofReading at made
  split at made
  · next parts =>
    cases made
    exact ofParts?_eq_some.mp parts
  · cases made

theorem signed_toRat {negative : Bool} {magnitude : Nat} {a : Decimal}
    (signed : a.coefficient = if negative then -(magnitude : Int) else magnitude) :
    a.toRat = sign negative * (magnitude / 10 ^ a.scale) := by
  rw [toRat, signed]
  cases negative
  · simp [sign]
  · simp [sign, neg_div]

theorem toRat_sign (a : Decimal) :
    a.toRat = sign (a.coefficient < 0) * (a.coefficient.natAbs / 10 ^ a.scale) :=
  signed_toRat a.coefficient_sign

theorem Rounds.signed {negative : Bool} {magnitude scale : Nat} {number : ℚ} {a : Decimal}
    (rounds : Rounds magnitude scale number) (made : ofReading negative magnitude scale = .ok a) :
    Rounds a.coefficient a.scale (sign negative * number) := by
  obtain ⟨coefficient, same⟩ := ofReading_parts made
  rw [coefficient, same]
  cases negative with
  | false => simpa [sign] using rounds
  | true => simpa [sign] using rounds.neg

theorem scanStart_rounds {text : List Char} {kept : Nat × Nat}
    (read : scanDigits scanStart text = .ok kept) : ∃ digits decimals,
      unsigned? text = some ⟨false, digits, decimals, 0⟩ ∧
        Rounds kept.1 kept.2 (digits / 10 ^ decimals) := by
  obtain ⟨first, allowed, rounds⟩ := scanDigits_rounds (by decide) read
  refine ⟨_, _, ?_, rounds⟩
  have body : isBody (whole text ++ fraction text) = true := by
    rw [isBody, allowed, Bool.and_true]
    exact first
  rw [unsigned?]
  simp only [body, if_true]

theorem ofReading_bind {negative : Bool} {scanned : Except ReadError (Nat × Nat)} {a : Decimal}
    (read : (scanned >>= fun kept => ofReading negative kept.1 kept.2) = .ok a) :
    ∃ kept, scanned = .ok kept ∧ ofReading negative kept.1 kept.2 = .ok a := by
  cases scanned with
  | error error => cases read
  | ok kept => exact ⟨kept, rfl, read⟩

/-- A number without exponent. -/
theorem readPlain_rounds {text : List Char} {a : Decimal} (read : readPlain text = .ok a) :
    ∃ numeral, plain? text = some numeral ∧ numeral.exponent = 0 ∧
      Rounds a.coefficient a.scale numeral.mantissa := by
  unfold readPlain at read
  split at read
  · cases read
  · obtain ⟨kept, scanned, made⟩ := ofReading_bind read
    obtain ⟨digits, decimals, unsigned, rounds⟩ := scanStart_rounds scanned
    exact ⟨⟨true, digits, decimals, 0⟩, by simp [plain?, unsigned], rfl, rounds.signed made⟩
  · obtain ⟨kept, scanned, made⟩ := ofReading_bind read
    obtain ⟨digits, decimals, unsigned, rounds⟩ := scanStart_rounds scanned
    exact ⟨⟨false, digits, decimals, 0⟩, by simp [plain?, unsigned], rfl, rounds.signed made⟩
  · next minus plus =>
    obtain ⟨kept, scanned, made⟩ := ofReading_bind read
    obtain ⟨digits, decimals, unsigned, rounds⟩ := scanStart_rounds scanned
    refine ⟨⟨false, digits, decimals, 0⟩, ?_, rfl, rounds.signed made⟩
    rw [plain?, unsigned]
    · exact minus
    · exact plus

end Decimal

end AccountLedger
