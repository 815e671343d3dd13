import AccountLedger.Digits
import AccountLedger.Text.Blank

/-!
Points in time on the UTC calendar, with nanoseconds. A leap second is the second before it with a
fraction of one second or more.
-/

namespace AccountLedger

/-- Seconds since the start of 1970 and nanoseconds after them. -/
structure Timestamp where
  seconds : Int
  nanos : Nat
  deriving DecidableEq, Repr, Inhabited

/-- A calendar date. -/
structure CivilDate where
  year : Int
  month : Nat
  day : Nat
  deriving DecidableEq, Repr

namespace CivilDate

/-- Days from the start of 1970, counting years from March so that leap days come last. -/
def toDays (date : CivilDate) : Int :=
  let year := if date.month ≤ 2 then date.year - 1 else date.year
  let era := year.fdiv 400
  let yearOfEra := year - era * 400
  let monthFromMarch := (date.month + 9) % 12
  let dayOfYear := (153 * monthFromMarch + 2) / 5 + date.day - 1
  let dayOfEra := yearOfEra * 365 + yearOfEra.fdiv 4 - yearOfEra.fdiv 100 + dayOfYear
  era * 146097 + dayOfEra - 719468

def ofDays (days : Int) : CivilDate :=
  let shifted := days + 719468
  let era := shifted.fdiv 146097
  let dayOfEra := (shifted - era * 146097).toNat
  let yearOfEra := (dayOfEra - dayOfEra / 1460 + dayOfEra / 36524 - dayOfEra / 146096) / 365
  let dayOfYear := dayOfEra - (365 * yearOfEra + yearOfEra / 4 - yearOfEra / 100)
  let monthFromMarch := (5 * dayOfYear + 2) / 153
  let day := dayOfYear - (153 * monthFromMarch + 2) / 5 + 1
  let month := if monthFromMarch < 10 then monthFromMarch + 3 else monthFromMarch - 9
  let year := (yearOfEra : Int) + era * 400
  ⟨if month ≤ 2 then year + 1 else year, month, day⟩

def isLeapYear (year : Int) : Bool :=
  year % 4 == 0 && (year % 100 != 0 || year % 400 == 0)

def daysInMonth (year : Int) (month : Nat) : Nat :=
  if month = 2 then (if isLeapYear year then 29 else 28)
  else if month = 4 ∨ month = 6 ∨ month = 9 ∨ month = 11 then 30
  else 31

def minYear : Int := -262143

def maxYear : Int := 262142

def inRange (date : CivilDate) : Bool :=
  minYear ≤ date.year && date.year ≤ maxYear

def isValid (date : CivilDate) : Bool :=
  date.inRange && 1 ≤ date.month && date.month ≤ 12 && 1 ≤ date.day &&
    date.day ≤ daysInMonth date.year date.month

end CivilDate

namespace Timestamp

def nanosPerSecond : Nat := 1000000000

def compare (a b : Timestamp) : Ordering :=
  (Ord.compare a.seconds b.seconds).then (Ord.compare a.nanos b.nanos)

def lt (a b : Timestamp) : Bool := a.compare b == .lt

def le (a b : Timestamp) : Bool := a.compare b != .gt

def date (t : Timestamp) : CivilDate := CivilDate.ofDays (t.seconds.fdiv 86400)

def secondOfDay (t : Timestamp) : Nat := (t.seconds - t.seconds.fdiv 86400 * 86400).toNat

/-- The times whose year the calendar covers. -/
def inRange (t : Timestamp) : Bool := t.date.inRange

/-- The time `nanos` nanoseconds later. -/
def addNanos (t : Timestamp) (nanos : Int) : Timestamp :=
  let total := (t.nanos : Int) + nanos
  ⟨t.seconds + total.fdiv nanosPerSecond, (total.fmod nanosPerSecond).toNat⟩

/-- Four digits, or a sign and at least four for years outside 0 to 9999. -/
def yearText (year : Int) : List Char :=
  if 0 ≤ year ∧ year ≤ 9999 then digitsPadded 10 4 year.toNat
  else
    (if year < 0 then '-' else '+') ::
      (if year.natAbs < 10000 then digitsPadded 10 4 year.natAbs else decimalDigits year.natAbs)

/-- No fraction, or the first of 3, 6 and 9 digits that hold it. -/
def fractionText (nanos : Nat) : List Char :=
  if nanos = 0 then []
  else if nanos % 1000000 = 0 then '.' :: digitsPadded 10 3 (nanos / 1000000)
  else if nanos % 1000 = 0 then '.' :: digitsPadded 10 6 (nanos / 1000)
  else '.' :: digitsPadded 10 9 nanos

def dateText (date : CivilDate) : List Char :=
  yearText date.year ++ '-' :: digitsPadded 10 2 date.month ++ '-' :: digitsPadded 10 2 date.day

/-- RFC 3339 in UTC. -/
def toText (t : Timestamp) : List Char :=
  let leap := nanosPerSecond ≤ t.nanos
  let second := t.secondOfDay % 60 + (if leap then 1 else 0)
  let nanos := if leap then t.nanos - nanosPerSecond else t.nanos
  dateText t.date ++ 'T' :: digitsPadded 10 2 (t.secondOfDay / 3600) ++
    ':' :: digitsPadded 10 2 (t.secondOfDay / 60 % 60) ++ ':' :: digitsPadded 10 2 second ++
    fractionText nanos ++ ['Z']

instance : ToString Timestamp := ⟨fun t => String.ofList t.toText⟩

/-- `yyyymmdd`, as in reference numbers. -/
def compactDate (t : Timestamp) : List Char :=
  yearText t.date.year ++ digitsPadded 10 2 t.date.month ++ digitsPadded 10 2 t.date.day

end Timestamp

end AccountLedger
