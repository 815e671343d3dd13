import AccountLedger.Proofs.Text.Digits
import AccountLedger.Uuid

/-!
Identifiers are read back from their written forms.
-/

namespace AccountLedger.Uuid

variable {a b c d e : List Char}

/-- Hyphens between the groups of digits are skipped. -/
theorem readHyphenated?_groups (first : a.length = 8) (second : b.length = 4)
    (third : c.length = 4) (fourth : d.length = 4) (fifth : e.length = 12) :
    readHyphenated? (a ++ '-' :: b ++ '-' :: c ++ '-' :: d ++ '-' :: e) =
      readSimple? (a ++ b ++ c ++ d ++ e) := by
  have beyond : ∀ {n : Nat} {group : List Char}, group.length ≤ n → group.drop n = [] :=
    List.drop_eq_nil_of_le
  simp [readHyphenated?, List.drop_append, first, second, third, fourth, fifth,
    beyond]

theorem digits_length (id : Uuid) : id.digits.length = 32 := digitsPadded_length _ _ _

theorem readSimple?_digits (id : Uuid) : readSimple? id.digits = some id := by
  have bounded : id.value % 16 ^ 32 = id.value := Nat.mod_eq_of_lt id.value_lt
  rw [readSimple?, if_pos id.digits_length, digits,
    digitsValue?_digitsPadded (by decide) (by decide), bounded]
  simp [ofNat, Nat.mod_eq_of_lt id.value_lt]

theorem groups_append (digits : List Char) :
    digits.take 8 ++ (digits.drop 8).take 4 ++ (digits.drop 12).take 4 ++
      (digits.drop 16).take 4 ++ digits.drop 20 = digits := by
  have group : ∀ n, (digits.drop n).take 4 ++ digits.drop (n + 4) = digits.drop n := fun n => by
    rw [← List.drop_drop, List.take_append_drop]
  rw [List.append_assoc, group 16, List.append_assoc, group 12, List.append_assoc, group 8,
    List.take_append_drop]

theorem toText_length (id : Uuid) : id.toText.length = 36 := by simp [toText, id.digits_length]

theorem read?_toText (id : Uuid) : read? id.toText = some id := by
  have length := id.digits_length
  have written := id.toText_length
  rw [read?, if_neg (by omega), if_pos written]
  refine (readHyphenated?_groups ?_ ?_ ?_ ?_ ?_).trans ?_
  case refine_6 => rw [groups_append, readSimple?_digits]
  all_goals simp [length]

theorem toText_injective : Function.Injective toText := by
  intro a b same
  have read := read?_toText a
  rw [same, read?_toText] at read
  exact (Option.some.inj read).symm

/-- An identifier is written in digits and hyphens. -/
theorem toText_all {good : Char → Prop} (digit : ∀ digit < 16, good (digitChar digit))
    (hyphen : good '-') (id : Uuid) : ∀ c ∈ id.toText, good c := by
  have all : ∀ c ∈ id.digits, good c := digitsPadded_all (by decide) digit 32 id.value
  have part : ∀ n, ∀ c ∈ id.digits.drop n, good c := fun n c inside =>
    all c (List.mem_of_mem_drop inside)
  have group : ∀ n, ∀ c ∈ (id.digits.drop n).take 4, good c := fun n c inside =>
    part n c (List.mem_of_mem_take inside)
  have first : ∀ c ∈ id.digits.take 8, good c := fun c inside => all c (List.mem_of_mem_take inside)
  simp only [toText, List.forall_mem_append, List.forall_mem_cons]
  exact ⟨⟨⟨⟨first, hyphen, group 8⟩, hyphen, group 12⟩, hyphen, group 16⟩, hyphen, part 20⟩

end AccountLedger.Uuid
