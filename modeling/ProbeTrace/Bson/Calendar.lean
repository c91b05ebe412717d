import ProbeTrace.Decimal.Places

/-!
# Calendar

Dates of the Gregorian calendar by their distance from the first day of 1970,
and the text of an instant in universal time. Years are counted from March, so
that the leap day is the last of its year.
-/

set_option autoImplicit false

namespace ProbeTrace.Bson.Calendar

structure Date where
  year : Nat
  month : Nat
  day : Nat
  deriving DecidableEq, Repr

/-- Days from the first of March of year 0 to the first day of 1970. -/
def epoch : Nat := 719468

/-- Days in four hundred years. -/
def era : Nat := 146097

def ofDays (days : Nat) : Date :=
  let shifted := days + epoch
  let dayOfEra := shifted % era
  let yearOfEra := (dayOfEra - dayOfEra / 1460 + dayOfEra / 36524 - dayOfEra / 146096) / 365
  let dayOfYear := dayOfEra - (365 * yearOfEra + yearOfEra / 4 - yearOfEra / 100)
  let monthFromMarch := (5 * dayOfYear + 2) / 153
  let day := dayOfYear - (153 * monthFromMarch + 2) / 5 + 1
  let month := if monthFromMarch < 10 then monthFromMarch + 3 else monthFromMarch - 9
  let year := 400 * (shifted / era) + yearOfEra + (if month ≤ 2 then 1 else 0)
  ⟨year, month, day⟩

/-- The decimals of a number of thousandths, without the zeros they end in. -/
def thousandths (n : Nat) : List Char :=
  ((Decimal.padded 3 n).toList.reverse.dropWhile (· = '0')).reverse

/-- The text of an instant given in milliseconds; a fraction only where there is one. -/
def instant (milliseconds : Nat) : String :=
  let date := ofDays (milliseconds / 86400000)
  let second := milliseconds / 1000 % 86400
  let rest := milliseconds % 1000
  Decimal.padded 4 date.year ++ "-" ++ Decimal.padded 2 date.month ++ "-" ++
    Decimal.padded 2 date.day ++ "T" ++ Decimal.padded 2 (second / 3600) ++ ":" ++
    Decimal.padded 2 (second / 60 % 60) ++ ":" ++ Decimal.padded 2 (second % 60) ++
    (if rest = 0 then "" else String.ofList ('.' :: thousandths rest)) ++ "Z"

/-- The last millisecond of the year 9999. -/
def lastInstant : Nat := 253402300799999

end ProbeTrace.Bson.Calendar
