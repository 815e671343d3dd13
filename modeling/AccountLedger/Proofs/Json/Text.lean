import AccountLedger.Json.Decoder
import AccountLedger.Proofs.Text.Digits

/-!
Objects of strings, whole numbers and further objects are read back from their texts, whatever the
strings hold.
-/

namespace AccountLedger.Json

variable {rest after : List Char} {fuel : Nat} {c : Char} {chars : List Char}

theorem readHex?_digitsPadded {unit : Nat} (small : unit < 16 ^ 4) :
    readHex? (digitsPadded 16 4 unit ++ rest) = some (unit, rest) := by
  have read := digitsValue?_digitsPadded (by decide : 0 < 16) (by decide) 4 unit
  rw [Nat.mod_eq_of_lt small] at read
  simp only [digitsPadded, List.nil_append, List.cons_append] at read ⊢
  simp [readHex?, read]

/-- What an escaped control character is read as. -/
theorem readEscape?_unicode (control : c.toNat < 0x20) :
    readEscape? ('u' :: digitsPadded 16 4 c.toNat ++ rest) = some (some c, rest) := by
  have read : readHex? (digitsPadded 16 4 c.toNat ++ rest) = some (c.toNat, rest) :=
    readHex?_digitsPadded (by omega)
  have leading : isLeading c.toNat = false := by simp [isLeading]; omega
  have trailing : isTrailing c.toNat = false := by simp [isTrailing]; omega
  rw [List.cons_append, readEscape?]
  simp [read, leading, trailing, Char.ofNat_toNat]

theorem readChars_backslash {escaped : List Char}
    (character : readEscape? escaped = some (some c, rest))
    (others : readChars fuel rest = some (some chars, after)) :
    readChars (fuel + 1) ('\\' :: escaped) = some (some (c :: chars), after) := by
  simp [readChars, character, others]

theorem readChars_plain (quote : c ≠ '"') (backslash : c ≠ '\\') (printed : 0x20 ≤ c.toNat)
    (others : readChars fuel rest = some (some chars, after)) :
    readChars (fuel + 1) (c :: rest) = some (some (c :: chars), after) := by
  rw [readChars]
  · simp [others, Nat.not_lt.mpr printed]
  · exact quote
  · exact backslash

/-- Every character is read back from the way it is written. -/
theorem readChars_escape (others : readChars fuel rest = some (some chars, after)) :
    readChars (fuel + 1) (escape c ++ rest) = some (some (c :: chars), after) := by
  have code : ∀ {n : Nat}, c.toNat = n → Char.ofNat n = c := by
    intro _ same
    subst same
    exact Char.ofNat_toNat c
  rw [escape]
  split_ifs with quote backslash printed backspace tab newline feed carriage
  · subst quote
    exact readChars_backslash rfl others
  · subst backslash
    exact readChars_backslash rfl others
  · exact readChars_plain quote backslash printed others
  · exact readChars_backslash (code backspace ▸ rfl) others
  · exact readChars_backslash (code tab ▸ rfl) others
  · exact readChars_backslash (code newline ▸ rfl) others
  · exact readChars_backslash (code feed ▸ rfl) others
  · exact readChars_backslash (code carriage ▸ rfl) others
  · exact readChars_backslash (readEscape?_unicode (by omega)) others

theorem readChars_flatMap (text : List Char) (enough : text.length < fuel) :
    readChars fuel (text.flatMap escape ++ '"' :: rest) = some (some text, rest) := by
  induction text generalizing fuel with
  | nil =>
    obtain ⟨fuel, rfl⟩ := Nat.exists_eq_add_one.mpr enough
    simp [readChars]
  | cons c text ih =>
    obtain ⟨fuel, rfl⟩ := Nat.exists_eq_add_one.mpr (Nat.zero_lt_of_lt enough)
    rw [List.flatMap_cons, List.append_assoc]
    exact readChars_escape (ih (Nat.lt_of_succ_lt_succ enough))

theorem escape_ne_nil (c : Char) : escape c ≠ [] := by
  rw [escape]
  split_ifs <;> simp

theorem length_le_flatMap (text : List Char) : text.length ≤ (text.flatMap escape).length := by
  induction text with
  | nil => simp
  | cons c text ih =>
    have some := List.length_pos_of_ne_nil (escape_ne_nil c)
    simp only [List.flatMap_cons, List.length_append, List.length_cons]
    omega

/-- Strings are read back up to their closing quotes. -/
theorem readText?_escape (text : String) :
    readText? (text.toList.flatMap escape ++ '"' :: rest) = some (some text, rest) := by
  have enough : text.toList.length <
      (text.toList.flatMap escape ++ '"' :: rest).length + 1 := by
    have := length_le_flatMap text.toList
    simp only [List.length_append, List.length_cons]
    omega
  rw [readText?, readChars_flatMap text.toList enough]
  simp

/-- The end of the text, or what comes behind a value. -/
def Ends (rest : List Char) : Prop := ∀ c ∈ rest.head?, c ∈ [',', ']', '\x7d']

/-- A value that is read back wherever it ends. -/
def ReadsBack (json : Json) : Prop :=
  ∀ fuel rest, json.render.length < fuel → Ends rest →
    readValue fuel (json.render ++ rest) = ⟨json, some rest⟩

theorem ends_nil : Ends [] := by simp [Ends]

theorem ends_cons (closing : c ∈ [',', ']', '\x7d']) : Ends (c :: rest) := by
  simpa [Ends] using closing

theorem readsBack_string (text : String) : (Json.string text).ReadsBack := by
  intro fuel rest enough _
  obtain ⟨fuel, rfl⟩ := Nat.exists_eq_add_one.mpr (Nat.zero_lt_of_lt enough)
  have space : ∀ more, skipSpace ('"' :: more) = '"' :: more := fun _ => rfl
  simp only [render, quote, List.cons_append, List.append_assoc, List.nil_append]
  rw [readValue, space]
  simp only [readText?_escape, stringOf]

theorem readDigits?_append {digits : List Char} (filled : digits ≠ [])
    (all : ∀ c ∈ digits, isDigit c = true) (ends : ∀ c ∈ rest.head?, isDigit c = false) :
    readDigits? (digits ++ rest) = some (digits, rest) := by
  have before : (digits ++ rest).takeWhile isDigit = digits := takeWhile_digits all ends
  have behind : (digits ++ rest).dropWhile isDigit = rest := by
    rw [List.dropWhile_append_of_pos all]
    cases rest with
    | nil => rfl
    | cons c rest => simp [ends c rfl]
  simp [readDigits?, before, behind, filled]

theorem Ends.digit (ends : Ends rest) : ∀ c ∈ rest.head?, isDigit c = false := by
  have none : ∀ c ∈ [',', ']', '\x7d'], isDigit c = false := by simp [isDigit]
  exact fun c first => none c (ends c first)

/-- Behind a whole number there is neither a fraction nor an exponent. -/
theorem Ends.whole (ends : Ends rest) :
    readFraction? rest = some ([], rest) ∧ readExponent? rest = some (none, rest) := by
  cases rest with
  | nil => exact ⟨rfl, rfl⟩
  | cons c rest =>
    have closing := ends c rfl
    simp only [List.mem_cons, List.not_mem_nil, or_false] at closing
    rcases closing with rfl | rfl | rfl <;> exact ⟨rfl, rfl⟩

theorem readNumeral?_digits {digits : List Char} (negative : Bool) (filled : digits ≠ [])
    (all : ∀ c ∈ digits, isDigit c = true) (short : digits.head? = some '0' → digits.length ≤ 1)
    (ends : Ends rest) :
    readNumeral? (numeralText ⟨negative, digits, [], none⟩ ++ rest) =
      some (⟨negative, digits, [], none⟩, rest) := by
  have read := readDigits?_append filled all ends.digit
  have written : ¬(digits.head? = some '0' ∧ 1 < digits.length) := fun zero =>
    Nat.not_lt.mpr (short zero.1) zero.2
  obtain ⟨fraction, exponent⟩ := ends.whole
  cases negative with
  | true => simp [readNumeral?, numeralText, read, written, fraction, exponent]
  | false =>
    have unsigned : ∀ more, digits ++ rest ≠ '-' :: more := by
      obtain ⟨c, others, rfl⟩ := List.exists_cons_of_ne_nil filled
      rintro more same
      obtain ⟨rfl, -⟩ := List.cons.inj same
      exact absurd (all '-' List.mem_cons_self) (by decide)
    simp [readNumeral?, numeralText, read, written, fraction, exponent]

/-- What starts like a number is read as one. -/
theorem readValue_numeral {numeral : Numeral} {more : List Char} (start : c = '-' ∨ isDigit c = true)
    (read : readNumeral? (c :: more) = some (numeral, rest)) :
    readValue (fuel + 1) (c :: more) = ⟨.number numeral, some rest⟩ := by
  have starts : c ∈ "-0123456789".toList := by
    rcases start with rfl | digit
    · decide
    · have all : ∀ n : Fin 58, isDigit (Char.ofNat n) = true →
          Char.ofNat n ∈ "-0123456789".toList := by decide
      have small : c.toNat < 58 := by
        simp only [isDigit, Bool.and_eq_true, decide_eq_true_eq] at digit
        exact Nat.lt_succ_of_le (UInt32.le_iff_toNat_le.mp digit.2)
      have this := all ⟨c.toNat, small⟩
      rw [Char.ofNat_toNat] at this
      exact this digit
  simp only [String.reduceToList, List.mem_cons, List.not_mem_nil, or_false] at starts
  rcases starts with rfl | rfl | rfl | rfl | rfl | rfl | rfl | rfl | rfl | rfl | rfl
  all_goals
    rw [readValue]
    simp [skipSpace, isSpace, read]

theorem numeralText_head {digits : List Char} (negative : Bool) (filled : digits ≠ [])
    (all : ∀ c ∈ digits, isDigit c = true) :
    ∃ c more, numeralText ⟨negative, digits, [], none⟩ = c :: more ∧
      (c = '-' ∨ isDigit c = true) := by
  cases negative with
  | true => exact ⟨'-', _, rfl, .inl rfl⟩
  | false =>
    obtain ⟨c, others, rfl⟩ := List.exists_cons_of_ne_nil filled
    exact ⟨c, _, rfl, .inr (all c List.mem_cons_self)⟩

theorem readsBack_ofInt (value : Int) : (Json.ofInt value).ReadsBack := by
  intro fuel rest enough ends
  obtain ⟨fuel, rfl⟩ := Nat.exists_eq_add_one.mpr (Nat.zero_lt_of_lt enough)
  have filled := decimalDigits_ne_nil value.natAbs
  have all : ∀ c ∈ decimalDigits value.natAbs, isDigit c = true := fun c inside => by
    simpa [isDigit] using decimalDigits_decimal _ c inside
  have read := readNumeral?_digits (value < 0) filled all decimalDigits_short ends
  obtain ⟨c, more, written, start⟩ := numeralText_head (value < 0) filled all
  show readValue (fuel + 1) (numeralText _ ++ rest) = _
  rw [written] at read ⊢
  exact readValue_numeral start read

theorem readMembers_last {name : String} {value : Json} (back : value.ReadsBack)
    (enough : value.render.length < fuel) :
    readMembers (fuel + 1) (quote name.toList ++ ':' :: (value.render ++ '\x7d' :: rest)) =
      ⟨[(some name, value)], some rest⟩ := by
  have space : ∀ more, skipSpace ('"' :: more) = '"' :: more := fun _ => rfl
  have colon : ∀ more, skipSpace (':' :: more) = ':' :: more := fun _ => rfl
  have brace : ∀ more, skipSpace ('\x7d' :: more) = '\x7d' :: more := fun _ => rfl
  simp only [quote, List.cons_append, List.append_assoc, List.nil_append]
  rw [readMembers, space]
  simp only [readText?_escape, colon]
  rw [back fuel _ enough (ends_cons (by simp))]
  simp only [brace]

theorem readMembers_next {name : String} {value : Json} (back : value.ReadsBack)
    (enough : value.render.length < fuel) :
    readMembers (fuel + 1) (quote name.toList ++ ':' :: (value.render ++ ',' :: rest)) =
      ⟨(some name, value) :: (readMembers fuel rest).value, (readMembers fuel rest).rest⟩ := by
  have space : ∀ more, skipSpace ('"' :: more) = '"' :: more := fun _ => rfl
  have colon : ∀ more, skipSpace (':' :: more) = ':' :: more := fun _ => rfl
  have comma : ∀ more, skipSpace (',' :: more) = ',' :: more := fun _ => rfl
  simp only [quote, List.cons_append, List.append_assoc, List.nil_append]
  rw [readMembers, space]
  simp only [readText?_escape, colon]
  rw [back fuel _ enough (ends_cons (by simp))]
  simp only [comma]

variable {members : List (String × Json)}

/-- The members of an object, from behind its opening brace. -/
def memberText (members : List (String × Json)) : List Char :=
  separated (renderMembers (members.map fun (name, value) => (some name, value)))

theorem memberText_cons (name : String) (value : Json) (next : String × Json) :
    memberText ((name, value) :: next :: members) =
      quote name.toList ++ ':' :: (value.render ++ ',' :: memberText (next :: members)) := by
  simp [memberText, renderMembers, separated]

theorem memberText_singleton (name : String) (value : Json) :
    memberText [(name, value)] = quote name.toList ++ ':' :: value.render := by
  simp [memberText, renderMembers, separated]

theorem readMembers_memberText (filled : members ≠ [])
    (all : ∀ member ∈ members, member.2.ReadsBack)
    (enough : (memberText members).length < fuel) :
    readMembers fuel (memberText members ++ '\x7d' :: rest) =
      ⟨members.map fun (name, value) => (some name, value), some rest⟩ := by
  induction members generalizing fuel with
  | nil => exact absurd rfl filled
  | cons member members ih =>
    obtain ⟨name, value⟩ := member
    obtain ⟨fuel, rfl⟩ := Nat.exists_eq_add_one.mpr (Nat.zero_lt_of_lt enough)
    have back : value.ReadsBack := all _ List.mem_cons_self
    cases members with
    | nil =>
      rw [memberText_singleton] at enough ⊢
      simp only [List.length_append, List.length_cons] at enough
      rw [List.append_assoc, List.cons_append, readMembers_last back (by omega)]
      rfl
    | cons next members =>
      rw [memberText_cons] at enough ⊢
      simp only [List.length_append, List.length_cons] at enough
      have others := @ih fuel (List.cons_ne_nil _ _)
        (fun member inside => all member (.tail _ inside)) (by omega)
      rw [List.append_assoc, List.cons_append, List.append_assoc, List.cons_append,
        readMembers_next back (by omega), others]
      rfl

theorem memberText_head (filled : members ≠ []) : ∃ more, memberText members = '"' :: more := by
  obtain ⟨⟨name, value⟩, others, rfl⟩ := List.exists_cons_of_ne_nil filled
  cases others with
  | nil => exact ⟨_, memberText_singleton name value⟩
  | cons next others => exact ⟨_, memberText_cons name value next⟩

theorem render_record : (record members).render = '\x7b' :: memberText members ++ ['\x7d'] := by
  simp [record, render, memberText]

/-- An object of such values is one itself. -/
theorem readsBack_record (filled : members ≠ [])
    (all : ∀ member ∈ members, member.2.ReadsBack) : (record members).ReadsBack := by
  intro fuel rest enough _
  obtain ⟨fuel, rfl⟩ := Nat.exists_eq_add_one.mpr (Nat.zero_lt_of_lt enough)
  obtain ⟨more, head⟩ := memberText_head filled
  have brace : ∀ more, skipSpace ('\x7b' :: more) = '\x7b' :: more := fun _ => rfl
  have quote : ∀ more, skipSpace ('"' :: more) = '"' :: more := fun _ => rfl
  rw [render_record] at enough ⊢
  simp only [List.cons_append, List.length_cons, List.length_append, List.length_nil] at enough
  have read := @readMembers_memberText rest _ _ filled all
    (show (memberText members).length < fuel by omega)
  rw [List.cons_append, List.cons_append, List.append_assoc, readValue, brace]
  simp only [List.cons_append, List.nil_append, read]
  simp only [head, List.cons_append, quote, record]
  rfl

/-- Such a value is read back from its text. -/
theorem ReadsBack.readDocument {json : Json} (back : json.ReadsBack) :
    readDocument json.render = (json, true) := by
  have whole := back (json.render.length + 1) [] (Nat.lt_succ_self _) ends_nil
  rw [List.append_nil] at whole
  rw [Json.readDocument, whole]
  rfl

/-- What is decoded from a value is decoded from its text. -/
theorem ReadsBack.run_text {α : Type} {json : Json} {decode : Decoder α} {value : α}
    (back : json.ReadsBack) (decoded : decode json = .ok value) :
    Decoder.run decode json.text.toList = .ok value := by
  rw [Decoder.run, text, String.toList_ofList, back.readDocument]
  simp only [decoded]
  rfl

end AccountLedger.Json
