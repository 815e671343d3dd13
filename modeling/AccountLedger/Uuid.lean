import AccountLedger.Digits

/-!
128-bit identifiers. Their order is the order of the numbers, which is also the order of their
written forms.
-/

namespace AccountLedger

structure Uuid where
  value : Nat
  value_lt : value < 0x100000000000000000000000000000000
  deriving DecidableEq, Repr

namespace Uuid

def nil : Uuid := ⟨0, by decide⟩

instance : Inhabited Uuid := ⟨nil⟩

/-- The identifier with these low 128 bits. -/
def ofNat (value : Nat) : Uuid :=
  ⟨value % 0x100000000000000000000000000000000, Nat.mod_lt _ (by decide)⟩

def lt (a b : Uuid) : Bool := decide (a.value < b.value)

def le (a b : Uuid) : Bool := decide (a.value ≤ b.value)

def digits (id : Uuid) : List Char := digitsPadded 16 32 id.value

/-- Lower-case digits in groups of 8, 4, 4, 4 and 12. -/
def toText (id : Uuid) : List Char :=
  let digits := id.digits
  digits.take 8 ++ '-' :: (digits.drop 8).take 4 ++ '-' :: (digits.drop 12).take 4 ++
    '-' :: (digits.drop 16).take 4 ++ '-' :: digits.drop 20

instance : ToString Uuid := ⟨fun id => String.ofList id.toText⟩

def readSimple? (text : List Char) : Option Uuid :=
  if text.length = 32 then (digitsValue? 16 text).map ofNat else none

def readHyphenated? (text : List Char) : Option Uuid :=
  if text.length = 36 ∧ text[8]? = some '-' ∧ text[13]? = some '-' ∧ text[18]? = some '-' ∧
      text[23]? = some '-' then
    readSimple? (text.take 8 ++ (text.drop 9).take 4 ++ (text.drop 14).take 4 ++
      (text.drop 19).take 4 ++ text.drop 24)
  else none

def resourceName : List Char := "urn:uuid:".toList

/-- The accepted spellings: 32 digits; the same with hyphens; the latter in braces or as a
resource name. Digits may have either case. -/
def read? (text : List Char) : Option Uuid :=
  if text.length = 32 then readSimple? text
  else if text.length = 36 then readHyphenated? text
  else if text.length = 38 ∧ text.head? = some '\x7b' ∧ text.getLast? = some '\x7d' then
    readHyphenated? (text.drop 1).dropLast
  else if text.length = 45 ∧ text.take 9 = resourceName then readHyphenated? (text.drop 9)
  else none

end Uuid

end AccountLedger
