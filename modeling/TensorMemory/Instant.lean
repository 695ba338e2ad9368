import TensorMemory.Text.Numeral

/-!
Instants in universal time and their two written forms: date and time with as few digits of the
fraction as are exact, and the time of day with milliseconds.
-/

namespace TensorMemory

structure Instant where
  /-- Seconds since the start of 1970. -/
  seconds : Int
  /-- Nanoseconds within the second; from a whole second on they belong to a leap second. -/
  nanos : Nat
  deriving DecidableEq, Repr, Inhabited

namespace Instant

/-- Year, month and day of the Gregorian calendar, `days` after the first of January 1970. Years are
counted from March on, so that a leap day is the last of its year. -/
def civil (days : Int) : Int × Nat × Nat :=
  let z := days + 719468
  let era := z / 146097
  let day := (z % 146097).toNat
  let year := (day - day / 1460 + day / 36524 - day / 146096) / 365
  let ofYear := day - (365 * year + year / 4 - year / 100)
  let mp := (5 * ofYear + 2) / 153
  let month := if mp < 10 then mp + 3 else mp - 9
  let d := ofYear - (153 * mp + 2) / 5 + 1
  (era * 400 + year + (if month ≤ 2 then 1 else 0), month, d)

def days (t : Instant) : Int := t.seconds / 86400

def secondOfDay (t : Instant) : Nat := (t.seconds % 86400).toNat

/-- Hours, minutes and seconds; a leap second is the sixtieth. -/
def timeOfDay (t : Instant) : String :=
  let s := t.secondOfDay
  ":".intercalate
    [Text.padded 2 (s / 3600), Text.padded 2 (s / 60 % 60),
      Text.padded 2 (s % 60 + t.nanos / 1000000000)]

def subsecond (t : Instant) : Nat := t.nanos % 1000000000

/-- The fraction of the second with 0, 3, 6 or 9 digits, the fewest that are exact. -/
def fraction (t : Instant) : String :=
  let n := t.subsecond
  if n = 0 then ""
  else if n % 1000000 = 0 then "." ++ Text.padded 3 (n / 1000000)
  else if n % 1000 = 0 then "." ++ Text.padded 6 (n / 1000)
  else "." ++ Text.padded 9 n

/-- Four digits, or a sign and at least four digits outside the years 0 to 9999. -/
def yearText (year : Int) : String :=
  if year < 0 then "-" ++ Text.padded 4 year.natAbs
  else if year ≤ 9999 then Text.padded 4 year.toNat
  else "+" ++ Text.padded 4 year.toNat

/-- Date and time as records carry them. -/
def stamp (t : Instant) : String :=
  let (year, month, day) := civil t.days
  "-".intercalate [yearText year, Text.padded 2 month, Text.padded 2 day] ++
    "T" ++ t.timeOfDay ++ t.fraction ++ "Z"

/-- Time of day with milliseconds, cut off and not rounded. -/
def clock (t : Instant) : String := t.timeOfDay ++ "." ++ Text.padded 3 (t.subsecond / 1000000)

end Instant
end TensorMemory
