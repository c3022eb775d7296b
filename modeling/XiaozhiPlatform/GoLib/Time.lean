import Mathlib

/-!
# Time

Instants of the `time` package are nanoseconds since the Unix epoch and durations are nanoseconds.
The location and the monotonic reading of a `time.Time` do not take part in any comparison, so an
instant carries neither. PostgreSQL keeps a `timestamptz` in whole microseconds.
-/

namespace GoLib

/-- An instant, in nanoseconds since the Unix epoch. -/
abbrev Time := ℤ

def microsecond : ℤ := 1000

def millisecond : ℤ := 1000000

def second : ℤ := 1000000000

def minute : ℤ := 60 * second

/-- The instant `time.Time{}`, January 1 of the year 1. -/
def zeroTime : Time := -62135596800 * second

/-- `Time.Unix`: the whole seconds of an instant. -/
def unix (t : Time) : ℤ := t / second

/-! ## Arithmetic of the `time` package -/

/-- `time.Unix(sec, 0)`. The seconds are kept as a count from the year 1 in 64 bits, which a count
near the end of the range overflows. -/
def ofUnix (sec : ℤ) : Time := ((sec + 62135596800).bmod (2 ^ 64) - 62135596800) * second

/-- `Time.Sub`, which saturates at the ends of the range of a duration. -/
def timeSub (t u : Time) : ℤ := max (-2 ^ 63) (min (t - u) (2 ^ 63 - 1))

/-! ## Dates -/

def day : ℤ := 24 * 60 * minute

/-- The Gregorian year, month and day of a number of days since the Unix epoch. The years are
counted from March here, in cycles of 400 years, so that a leap day is the last day of its year. -/
def civil (days : ℤ) : ℤ × ℤ × ℤ :=
  let shifted := days + 719468
  let cycle := shifted / 146097
  let dayOfCycle := shifted % 146097
  let yearOfCycle :=
    (dayOfCycle - dayOfCycle / 1460 + dayOfCycle / 36524 - dayOfCycle / 146096) / 365
  let dayOfYear := dayOfCycle - (365 * yearOfCycle + yearOfCycle / 4 - yearOfCycle / 100)
  let month := (5 * dayOfYear + 2) / 153
  let year := yearOfCycle + cycle * 400
  if month < 10 then (year, month + 3, dayOfYear - (153 * month + 2) / 5 + 1)
  else (year + 1, month - 9, dayOfYear - (153 * month + 2) / 5 + 1)

example : civil 0 = (1970, 1, 1) ∧ civil 19782 = (2024, 2, 29) ∧
    civil (zeroTime / day) = (1, 1, 1) := by decide

/-- A number in decimal digits, with zeros in front up to a width. -/
def zeroPadded (width : ℕ) (value : ℤ) : String :=
  let digits := Nat.toDigits 10 value.natAbs
  let sign := if value < 0 then ['-'] else []
  String.ofList (sign ++ List.replicate (width - digits.length) '0' ++ digits)

/-- `Time.UTC().Format("2006-01-02")`. -/
def formatDate (t : Time) : String :=
  let (year, month, dayOfMonth) := civil (t / day)
  zeroPadded 4 year ++ "-" ++ zeroPadded 2 month ++ "-" ++ zeroPadded 2 dayOfMonth

/-! ## Columns -/

/-- An instant as a column of type `timestamptz` holds it. -/
def timestamptz (t : Time) : Time := t / microsecond * microsecond

theorem timestamptz_le (t : ℤ) : timestamptz t ≤ t := by
  have h : t / 1000 * 1000 ≤ t := by omega
  exact h

theorem timestamptz_add {t d : ℤ} (ht : timestamptz t = t) (hd : timestamptz d = d) :
    timestamptz (t + d) = t + d := by
  have ht' : t / 1000 * 1000 = t := ht
  have hd' : d / 1000 * 1000 = d := hd
  have hsum : (t + d) / 1000 * 1000 = t + d := by omega
  exact hsum

end GoLib
