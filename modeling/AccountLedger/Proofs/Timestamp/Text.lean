import AccountLedger.Proofs.Text.Digits
import AccountLedger.Proofs.Timestamp.Calendar
import AccountLedger.Timestamp.Reader

/-!
Times are read back from their texts to the nanosecond.
-/

namespace AccountLedger.Timestamp

open Text

variable {digits rest : List Char} {value : Nat}

theorem trimStart_cons {c : Char} (solid : isBlank c = false) :
    trimStart (c :: rest) = c :: rest := by
  simp [trimStart, solid]

theorem trimStart_digits (decimal : ∀ c ∈ digits, '0' ≤ c ∧ c ≤ '9') (some : digits ≠ []) :
    trimStart (digits ++ rest) = digits ++ rest := by
  obtain ⟨c, others, rfl⟩ := List.exists_cons_of_ne_nil some
  exact trimStart_cons (isBlank_of_decimal (decimal c List.mem_cons_self))

/-- The text after a number does not start with a digit. -/
def Ends (rest : List Char) : Prop := ∀ c ∈ rest.head?, isDecimalDigit c = false

/-- Digits and what they denote. -/
structure Denotes (digits : List Char) (value : Nat) : Prop where
  decimal : ∀ c ∈ digits, '0' ≤ c ∧ c ≤ '9'
  ne_nil : digits ≠ []
  value : digitsValue? 10 digits = some value

theorem denotes_digitsPadded {width : Nat} (some : width ≠ 0) (fits : value < 10 ^ width) :
    Denotes (digitsPadded 10 width value) value := by
  refine ⟨digitsPadded_decimal width value, fun none => ?_, ?_⟩
  · have := digitsPadded_length 10 width value
    simp [none] at this
    omega
  · rw [digitsValue?_digitsPadded (by decide) (by decide), Nat.mod_eq_of_lt fits]

theorem denotes_decimalDigits (value : Nat) : Denotes (decimalDigits value) value :=
  ⟨decimalDigits_decimal value, decimalDigits_ne_nil value, digitsValue?_decimalDigits value⟩

theorem Denotes.takeWhile (denotes : Denotes digits value) {width : Nat}
    (short : digits.length ≤ width) (ends : Ends rest) :
    ((digits ++ rest).take width).takeWhile isDecimalDigit = digits := by
  rw [List.take_append, List.take_of_length_le short]
  refine takeWhile_digits (fun c member => ?_) fun c first => ?_
  · simpa [isDecimalDigit] using denotes.decimal c member
  · apply ends c
    rw [List.head?_take] at first
    split at first
    · cases first
    · exact first

theorem Denotes.readNumber? (denotes : Denotes digits value) {width : Nat}
    (short : digits.length ≤ width) (ends : Ends rest) (bounded : value < 0x8000000000000000) :
    readNumber? width (digits ++ rest) = some (value, rest) := by
  have found := denotes.takeWhile short ends
  simp [Timestamp.readNumber?, found, denotes.ne_nil, denotes.value, bounded]

theorem readField?_digitsPadded {low high : Nat} (starts : low ≤ value) (stops : value ≤ high)
    (short : high < 100) (ends : Ends rest) :
    readField? 2 low high (digitsPadded 10 2 value ++ rest) = some (value, rest) := by
  have denotes : Denotes (digitsPadded 10 2 value) value :=
    denotes_digitsPadded (by decide) (by omega)
  have read := denotes.readNumber? (digitsPadded_length 10 2 value).le ends (by omega)
  rw [readField?, trimStart_digits denotes.decimal denotes.ne_nil, read]
  simp [starts, stops]

theorem readMark?_cons {mark : Char} (solid : isBlank mark = false) :
    readMark? mark (mark :: rest) = some rest := by
  simp [readMark?, trimStart_cons solid]

/-- A sign and any number of digits. -/
theorem readYear?_signed (denotes : Denotes digits value) (ends : Ends rest)
    (bounded : value < 0x8000000000000000) :
    readYear? ('-' :: digits ++ rest) = some (-(value : Int), rest) ∧
      readYear? ('+' :: digits ++ rest) = some ((value : Int), rest) := by
  have short : digits.length ≤ (digits ++ rest).length := by simp
  have read := denotes.readNumber? short ends bounded
  have minus : isBlank '-' = false := by decide
  have plus : isBlank '+' = false := by decide
  rw [List.cons_append, List.cons_append, readYear?, readYear?, trimStart_cons minus,
    trimStart_cons plus]
  simp only [read, Option.map_some, and_self]

theorem readYear?_unsigned (denotes : Denotes digits value) (short : digits.length ≤ 4)
    (ends : Ends rest) (bounded : value < 0x8000000000000000) :
    readYear? (digits ++ rest) = some ((value : Int), rest) := by
  have read := denotes.readNumber? short ends bounded
  obtain ⟨c, others, rfl⟩ := List.exists_cons_of_ne_nil denotes.ne_nil
  have decimal := denotes.decimal c List.mem_cons_self
  have unsigned : c ≠ '-' ∧ c ≠ '+' := by
    constructor <;> rintro rfl <;> revert decimal <;> decide
  rw [readYear?, trimStart_digits denotes.decimal denotes.ne_nil]
  rw [List.cons_append] at read ⊢
  split
  · next same => exact absurd (List.cons.inj same).1 unsigned.1
  · next same => exact absurd (List.cons.inj same).1 unsigned.2
  · simp [read]

theorem readYear?_yearText {year : Int} (ends : Ends rest)
    (bounded : year.natAbs < 0x8000000000000000) :
    readYear? (yearText year ++ rest) = some (year, rest) := by
  have padded : ∀ {value : Nat}, value < 10000 → Denotes (digitsPadded 10 4 value) value :=
    fun small => denotes_digitsPadded (by decide) small
  rw [yearText]
  split
  · next plain =>
    have read := readYear?_unsigned (padded (by omega : year.toNat < 10000))
      (digitsPadded_length 10 4 _).le ends (by omega)
    rw [read, Int.toNat_of_nonneg plain.1]
  · have denotes : Denotes (if year.natAbs < 10000 then digitsPadded 10 4 year.natAbs
        else decimalDigits year.natAbs) year.natAbs := by
      split
      · next small => exact padded small
      · exact denotes_decimalDigits _
    obtain ⟨minus, plus⟩ := readYear?_signed denotes ends bounded
    by_cases negative : year < 0
    · rw [if_pos negative, minus, Int.ofNat_natAbs_of_nonpos negative.le, neg_neg]
    · rw [if_neg negative, plus, Int.natAbs_of_nonneg (by omega)]

/-- The digits of a fraction count from the left. -/
theorem readFraction?_digits {width : Nat} (some : width ≠ 0) (short : width ≤ 9)
    (fits : value < 10 ^ width) (ends : Ends rest) :
    readFraction? ('.' :: digitsPadded 10 width value ++ rest) =
      Option.some (value * 10 ^ (9 - width), rest) := by
  have denotes : Denotes (digitsPadded 10 width value) value := denotes_digitsPadded some fits
  have length := digitsPadded_length 10 width value
  have found := denotes.takeWhile (length.trans_le short) ends
  have passed : rest.dropWhile isDecimalDigit = rest := by
    cases rest with
    | nil => rfl
    | cons c rest => simp [ends c rfl]
  simp [readFraction?, found, denotes.ne_nil, denotes.value, length, passed, Nat.pow_eq]

theorem readFraction?_fractionText {nanos : Nat} (bounded : nanos < 1000000000) :
    readFraction? (fractionText nanos ++ ['Z']) = some (nanos, ['Z']) := by
  have ends : Ends ['Z'] := by simp [Ends, isDecimalDigit]
  rw [fractionText]
  split
  · next none => simp [readFraction?, none]
  · split
    · rw [readFraction?_digits (by decide) (by decide) (by omega) ends]
      simp
      omega
    · split
      · rw [readFraction?_digits (by decide) (by decide) (by omega) ends]
        simp
        omega
      · rw [readFraction?_digits (by decide) (by decide) (by omega) ends]
        simp

/-- The fraction does not go on with digits of the second. -/
theorem ends_fractionText (nanos : Nat) : Ends (fractionText nanos ++ ['Z']) := by
  rw [fractionText]
  split
  · simp [Ends, isDecimalDigit]
  · split
    · simp [Ends, isDecimalDigit]
    · split <;> simp [Ends, isDecimalDigit]

/-- Times that the calendar covers, leap seconds aside. -/
structure Civil (t : Timestamp) : Prop where
  covered : t.inRange = true
  nanos : t.nanos < nanosPerSecond

/-- Marks between the numbers end them. -/
theorem ends_mark (rest : List Char) :
    Ends ('-' :: rest) ∧ Ends ('T' :: rest) ∧ Ends (':' :: rest) := by
  simp [Ends, isDecimalDigit]

theorem isBlank_mark : isBlank '-' = false ∧ isBlank ':' = false := by
  decide

variable {t : Timestamp}

theorem Civil.valid (civil : t.Civil) : t.date.isValid = true :=
  CivilDate.isValid_ofDays civil.covered

theorem Civil.fields (civil : t.Civil) :
    (-262143 ≤ t.date.year ∧ t.date.year ≤ 262142) ∧ (1 ≤ t.date.month ∧ t.date.month ≤ 12) ∧
      1 ≤ t.date.day ∧ t.date.day ≤ 31 := by
  have valid := civil.valid
  simp only [CivilDate.isValid, CivilDate.inRange, Bool.and_eq_true, decide_eq_true_iff] at valid
  simp only [CivilDate.minYear, CivilDate.maxYear] at valid
  have days := CivilDate.daysInMonth_le t.date.year t.date.month
  omega

theorem day_eq (t : Timestamp) : t.seconds.fdiv 86400 = t.seconds / 86400 :=
  Int.fdiv_eq_ediv_of_nonneg _ (by decide)

theorem secondOfDay_eq (t : Timestamp) : t.secondOfDay = (t.seconds % 86400).toNat := by
  rw [secondOfDay, day_eq]
  omega

/-- The date and the time of the day give the time. -/
theorem seconds_eq (t : Timestamp) :
    t.date.toDays * 86400 + (t.secondOfDay / 3600 : Nat) * 3600 +
      (t.secondOfDay / 60 % 60 : Nat) * 60 + (t.secondOfDay % 60 : Nat) = t.seconds := by
  rw [date, CivilDate.toDays_ofDays, secondOfDay_eq, day_eq]
  omega

theorem Civil.toText_eq (civil : t.Civil) :
    t.toText = yearText t.date.year ++ '-' :: (digitsPadded 10 2 t.date.month ++
      '-' :: (digitsPadded 10 2 t.date.day ++ 'T' :: (digitsPadded 10 2 (t.secondOfDay / 3600) ++
      ':' :: (digitsPadded 10 2 (t.secondOfDay / 60 % 60) ++
      ':' :: (digitsPadded 10 2 (t.secondOfDay % 60) ++ (fractionText t.nanos ++ ['Z'])))))) := by
  have noLeap : ¬ nanosPerSecond ≤ t.nanos := Nat.not_le.mpr civil.nanos
  simp [toText, noLeap, dateText]

theorem bind_of_some {α : Type} {found : Option α} {next : α → Option Timestamp} {value : α}
    (first : found = some value) (others : next value = some t) : found.bind next = some t :=
  Option.bind_eq_some_iff.mpr ⟨value, first, others⟩

/-- Reading undoes writing. -/
theorem read?_toText (civil : t.Civil) : read? t.toText = some t := by
  obtain ⟨years, months, days⟩ := civil.fields
  have inDay : t.secondOfDay < 86400 := by
    rw [secondOfDay_eq]
    omega
  have year : ∀ rest, readYear? (yearText t.date.year ++ '-' :: rest) =
      some (t.date.year, '-' :: rest) :=
    fun rest => readYear?_yearText (ends_mark rest).1 (by omega)
  have offset : readOffset? (trimStart ['Z']) = some (0, []) := by decide
  rw [civil.toText_eq]
  refine bind_of_some (year _) ?_
  refine bind_of_some (readMark?_cons isBlank_mark.1) ?_
  refine bind_of_some (readField?_digitsPadded months.1 months.2 (by decide) (ends_mark _).1) ?_
  refine bind_of_some (readMark?_cons isBlank_mark.1) ?_
  refine bind_of_some (readField?_digitsPadded days.1 days.2 (by decide) (ends_mark _).2.1) ?_
  refine bind_of_some rfl ?_
  refine bind_of_some
    (readField?_digitsPadded (Nat.zero_le _) (by omega) (by decide) (ends_mark _).2.2) ?_
  refine bind_of_some (readMark?_cons isBlank_mark.2) ?_
  refine bind_of_some
    (readField?_digitsPadded (Nat.zero_le _) (by omega) (by decide) (ends_mark _).2.2) ?_
  refine bind_of_some (readMark?_cons isBlank_mark.2) ?_
  refine bind_of_some
    (readField?_digitsPadded (Nat.zero_le _) (by omega) (by decide) (ends_fractionText _)) ?_
  refine bind_of_some (readFraction?_fractionText civil.nanos) ?_
  refine bind_of_some offset ?_
  have blank : (trimStart []).isEmpty = true := rfl
  have date : (⟨t.date.year, t.date.month, t.date.day⟩ : CivilDate) = t.date := rfl
  have before : t.secondOfDay % 60 ≠ 60 := by omega
  have total := t.seconds_eq
  push_cast at total
  simp [blank, date, civil.valid, before, total, civil.covered]

end AccountLedger.Timestamp
