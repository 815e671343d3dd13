import AccountLedger.Decimal.Reader
import Mathlib.Data.List.TakeWhile
import Mathlib.Data.Rat.Init
import Mathlib.Tactic.Linarith
import Mathlib.Tactic.Ring

/-!
The numbers that texts denote, whatever a decimal can hold of them: a sign, digits with at most one
point and with underscores after the first of them, and a power of ten.
-/

namespace AccountLedger

/-- A number as it is written: its sign, its digits without the point, how many of them stand after
the point, and the exponent. -/
structure WrittenNumber where
  negative : Bool
  digits : Nat
  decimals : Nat
  exponent : Int
  deriving DecidableEq, Repr

namespace WrittenNumber

open Decimal (isDigit digit isExponentMark maxExponent)

/-- Digits appended to a number; underscores among them count for nothing. -/
def appended (start : Nat) (text : List Char) : Nat :=
  text.foldl (fun total c => if isDigit c then total * 10 + digit c else total) start

def whole (text : List Char) : List Char := text.takeWhile (· != '.')

def fraction (text : List Char) : List Char := (text.dropWhile (· != '.')).tail

/-- A digit first, then digits and underscores. -/
def isBody (text : List Char) : Bool :=
  text.head?.any isDigit && text.all fun c => isDigit c || c == '_'

def unsigned? (text : List Char) : Option WrittenNumber :=
  let body := whole text ++ fraction text
  if isBody body then some ⟨false, appended 0 body, (fraction text).countP isDigit, 0⟩ else none

/-- A number without exponent. -/
def plain? : List Char → Option WrittenNumber
  | '-' :: rest => (unsigned? rest).map fun numeral => { numeral with negative := true }
  | '+' :: rest => unsigned? rest
  | text => unsigned? text

/-- The exponent after its mark; nothing is an exponent of zero. -/
def exponent? : List Char → Option Int
  | [] => some 0
  | _ :: '-' :: digits => (parseWhole? maxExponent digits).map fun exponent => -(exponent : Int)
  | _ :: digits => (parseWhole? maxExponent digits).map fun exponent => (exponent : Int)

/-- The number that a text denotes, if it denotes any. -/
def ofText? (text : List Char) : Option WrittenNumber := do
  let mantissa ← plain? (text.takeWhile fun c => !isExponentMark c)
  let exponent ← exponent? (text.dropWhile fun c => !isExponentMark c)
  return { mantissa with exponent }

def sign (negative : Bool) : ℚ := if negative then -1 else 1

/-- The number before its exponent. -/
def mantissa (numeral : WrittenNumber) : ℚ :=
  sign numeral.negative * (numeral.digits / 10 ^ numeral.decimals)

def value (numeral : WrittenNumber) : ℚ := numeral.mantissa * 10 ^ numeral.exponent

theorem whole_point (text : List Char) : whole ('.' :: text) = [] := by
  simp [whole]

theorem fraction_point (text : List Char) : fraction ('.' :: text) = text := by
  simp [fraction]

theorem whole_cons {c : Char} (other : c ≠ '.') (text : List Char) :
    whole (c :: text) = c :: whole text := by
  simp [whole, other]

theorem fraction_cons {c : Char} (other : c ≠ '.') (text : List Char) :
    fraction (c :: text) = fraction text := by
  simp [fraction, other]

/-! ## Digits -/

theorem appended_digit {c : Char} (decimal : isDigit c = true) (start : Nat) (text : List Char) :
    appended start (c :: text) = appended (start * 10 + digit c) text := by
  simp [appended, decimal]

theorem appended_other {c : Char} (other : ¬ isDigit c = true) (start : Nat) (text : List Char) :
    appended start (c :: text) = appended start text := by
  simp [appended, other]

theorem appended_eq (start : Nat) (text : List Char) :
    appended start text = start * 10 ^ text.countP isDigit + appended 0 text := by
  induction text generalizing start with
  | nil => simp [appended]
  | cons c text ih =>
    by_cases decimal : isDigit c = true
    · rw [appended_digit decimal, appended_digit decimal, ih, ih (0 * 10 + digit c),
        List.countP_cons_of_pos decimal]
      ring
    · rw [appended_other decimal, appended_other decimal, ih, List.countP_cons_of_neg decimal]

theorem digit_lt {c : Char} (decimal : isDigit c = true) : digit c < 10 := by
  unfold isDigit at decimal
  obtain ⟨_, high⟩ := Bool.and_eq_true_iff.mp decimal
  have code : c.toNat ≤ 57 := of_decide_eq_true high
  unfold digit
  omega

theorem appended_lt (text : List Char) : appended 0 text < 10 ^ text.countP isDigit := by
  induction text with
  | nil => decide
  | cons c text ih =>
    by_cases decimal : isDigit c = true
    · have small := digit_lt decimal
      rw [appended_digit decimal, appended_eq, List.countP_cons_of_pos decimal, Nat.pow_succ]
      nlinarith
    · rw [appended_other decimal, List.countP_cons_of_neg decimal]
      exact ih

/-- The digit that decides the rounding of those before it. -/
def firstDigit (text : List Char) : Nat := ((text.find? isDigit).map digit).getD 0

theorem firstDigit_of_digit {c : Char} (decimal : isDigit c = true) (text : List Char) :
    firstDigit (c :: text) = digit c := by
  simp [firstDigit, decimal]

theorem firstDigit_of_other {c : Char} (other : ¬ isDigit c = true) (text : List Char) :
    firstDigit (c :: text) = firstDigit text := by
  simp [firstDigit, other]

/-- What the digits after the first can add to it. -/
theorem appended_bounds (text : List Char) :
    firstDigit text * 10 ^ text.countP isDigit ≤ appended 0 text * 10 ∧
      appended 0 text * 10 < (firstDigit text + 1) * 10 ^ text.countP isDigit := by
  induction text with
  | nil => decide
  | cons c text ih =>
    by_cases decimal : isDigit c = true
    · have below := appended_lt text
      rw [firstDigit_of_digit decimal, appended_digit decimal, appended_eq,
        List.countP_cons_of_pos decimal, Nat.pow_succ]
      constructor <;> nlinarith
    · rw [firstDigit_of_other decimal, appended_other decimal, List.countP_cons_of_neg decimal]
      exact ih

/-! ## Exponent marks -/

theorem unmarked_of_numeric {c : Char} (numeric : (isDigit c || c == '_') = true) :
    isExponentMark c = false := by
  rw [← Bool.not_eq_true]
  intro marked
  rcases (by simpa [isExponentMark] using marked : c = 'e' ∨ c = 'E') with rfl | rfl <;>
    exact absurd numeric (by decide)

theorem unsigned?_unmarked {text : List Char} {numeral : WrittenNumber}
    (denotes : unsigned? text = some numeral) : ∀ c ∈ text, isExponentMark c = false := by
  have numeric : ∀ c ∈ whole text ++ fraction text, isExponentMark c = false := by
    unfold unsigned? isBody at denotes
    dsimp only at denotes
    split at denotes
    · next body =>
      intro c inside
      exact unmarked_of_numeric (List.all_eq_true.mp (Bool.and_eq_true_iff.mp body).2 c inside)
    · cases denotes
  intro c inside
  rw [← List.takeWhile_append_dropWhile (p := (· != '.')) (l := text)] at inside
  rcases List.mem_append.mp inside with before | after
  · exact numeric c (List.mem_append_left _ before)
  · cases split : text.dropWhile (· != '.') with
    | nil => simp [split] at after
    | cons point rest =>
      rw [split] at after
      rcases List.mem_cons.mp after with rfl | behind
      · have stop := List.head?_dropWhile_not (· != '.') text
        rw [split] at stop
        have same : c = '.' := by simpa using stop
        rw [same]
        rfl
      · refine numeric c (List.mem_append_right _ ?_)
        rw [fraction, split]
        exact behind

theorem plain?_unmarked {text : List Char} {numeral : WrittenNumber}
    (denotes : plain? text = some numeral) : ∀ c ∈ text, isExponentMark c = false := by
  unfold plain? at denotes
  split at denotes
  · obtain ⟨unsigned, denotes, _⟩ := Option.map_eq_some_iff.mp denotes
    exact List.forall_mem_cons.mpr ⟨rfl, unsigned?_unmarked denotes⟩
  · exact List.forall_mem_cons.mpr ⟨rfl, unsigned?_unmarked denotes⟩
  · exact unsigned?_unmarked denotes

end WrittenNumber

end AccountLedger
