import Colloquy.Text.Basic

/-!
# Dates

The civil date and time of an instant, and the line in which a reply gives them.
-/

namespace Colloquy

/-- An instant: seconds since the beginning of 1970 in UTC, leap seconds left out. -/
abbrev Instant := Int

namespace Calendar

/-- The days from the first of March of the year 0 to the beginning of 1970. -/
def epochOffset : Int := 719468

/-- A day of the Gregorian calendar. -/
structure Date where
  year : Int
  /-- From 1 to 12. -/
  month : Nat
  /-- From 1 to 31. -/
  day : Nat
  deriving DecidableEq, Repr

/-- The date a number of days after the beginning of 1970. Years are counted from the first of
March, so that a leap day is the last of its year, and in eras of 400 years, which are all alike. -/
def dateOfDays (days : Int) : Date :=
  let shifted := days + epochOffset
  let era := shifted / 146097
  let dayOfEra := (shifted % 146097).toNat
  let yearOfEra :=
    (dayOfEra - dayOfEra / 1460 + dayOfEra / 36524 - dayOfEra / 146096) / 365
  let dayOfYear := dayOfEra - (365 * yearOfEra + yearOfEra / 4 - yearOfEra / 100)
  let month := (5 * dayOfYear + 2) / 153
  let day := dayOfYear - (153 * month + 2) / 5 + 1
  let year := (yearOfEra : Int) + era * 400
  if month < 10 then ⟨year, month + 3, day⟩ else ⟨year + 1, month - 9, day⟩

/-- The names of the days of the week, from Sunday on. -/
def dayNames : List String := ["Sun", "Mon", "Tue", "Wed", "Thu", "Fri", "Sat"]

/-- The names of the months. -/
def monthNames : List String :=
  ["Jan", "Feb", "Mar", "Apr", "May", "Jun", "Jul", "Aug", "Sep", "Oct", "Nov", "Dec"]

/-- A number filled up to a width. -/
def pad (fill : Char) (width n : Nat) : Text :=
  let digits := (toString n).toList
  List.replicate (width - digits.length) fill ++ digits

/-- A year has four digits at least, a sign if it is negative, and also if it has more than four
digits. -/
def yearText (year : Int) : Text :=
  if year < 0 then '-' :: pad '0' 4 year.natAbs
  else if 9999 < year then '+' :: pad '0' 4 year.natAbs
  else pad '0' 4 year.natAbs

/-- An instant as a reply gives it: `Sun Sep  7 12:30:00 2025`. -/
def line (t : Instant) : Text :=
  let days := t / 86400
  let seconds := (t % 86400).toNat
  let date := dateOfDays days
  let weekday := ((days + 4) % 7).toNat
  (dayNames.getD weekday "").toList ++ ' ' :: (monthNames.getD (date.month - 1) "").toList
    ++ ' ' :: pad ' ' 2 date.day
    ++ ' ' :: pad '0' 2 (seconds / 3600) ++ ':' :: pad '0' 2 (seconds / 60 % 60)
    ++ ':' :: pad '0' 2 (seconds % 60) ++ ' ' :: yearText date.year

end Calendar

end Colloquy
