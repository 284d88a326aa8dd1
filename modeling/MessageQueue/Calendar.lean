/-!
# Points in time

A timestamp counts the seconds since the beginning of 1970 in universal time, and may be negative.
It is turned into a date of the Gregorian calendar by counting years from March on, so that the day
that is added in a leap year is the last one of a year; four hundred years always have the same
number of days.
-/

namespace MessageQueue

/-- Seconds since the beginning of 1970. -/
structure Timestamp where
  seconds : Int
deriving DecidableEq, Repr

/-- A day of the calendar. -/
structure Date where
  year : Int
  month : Nat
  day : Nat
deriving DecidableEq, Repr

namespace Date

/-- The day that lies so many days after the first of January 1970. -/
def ofDays (days : Int) : Date :=
  let shifted := days + 719468
  let era := shifted.fdiv 146097
  let dayOfEra := (shifted - era * 146097).toNat
  let yearOfEra := (dayOfEra - dayOfEra / 1460 + dayOfEra / 36524 - dayOfEra / 146096) / 365
  let dayOfYear := dayOfEra - (365 * yearOfEra + yearOfEra / 4 - yearOfEra / 100)
  let monthFromMarch := (5 * dayOfYear + 2) / 153
  let day := dayOfYear - (153 * monthFromMarch + 2) / 5 + 1
  let month := if monthFromMarch < 10 then monthFromMarch + 3 else monthFromMarch - 9
  let year := era * 400 + yearOfEra + if month ≤ 2 then 1 else 0
  ⟨year, month, day⟩

example : ofDays 0 = ⟨1970, 1, 1⟩ := by decide
example : ofDays (-1) = ⟨1969, 12, 31⟩ := by decide
example : ofDays 11016 = ⟨2000, 2, 29⟩ := by decide

/-- Digits filled up with zeros to a width. -/
def padded (width n : Nat) : List Char :=
  let digits := Nat.toDigits 10 n
  List.replicate (width - digits.length) '0' ++ digits

/-- A year in four digits; outside of 0 to 9999 it has a sign and at least four digits. -/
def yearText (year : Int) : List Char :=
  if 0 ≤ year ∧ year ≤ 9999 then padded 4 year.toNat
  else (if year < 0 then '-' else '+') :: padded 4 year.natAbs

/-- The day without separators. -/
def basicText (d : Date) : List Char := yearText d.year ++ padded 2 d.month ++ padded 2 d.day

end Date

namespace Timestamp

/-- The day on which a timestamp falls. -/
def date (t : Timestamp) : Date := Date.ofDays (t.seconds.fdiv 86400)

/-- The day without separators. -/
def dateText (t : Timestamp) : List Char := t.date.basicText

/-- The day and the time of day without separators. -/
def text (t : Timestamp) : List Char :=
  let s := (t.seconds.fmod 86400).toNat
  t.dateText ++ 'T' ::
    (Date.padded 2 (s / 3600) ++ Date.padded 2 (s / 60 % 60) ++ Date.padded 2 (s % 60) ++ ['Z'])

end Timestamp
end MessageQueue
