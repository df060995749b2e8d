import Gatehouse.Calendar.Instant

/-! # The text of an instant

Date and time in the proleptic Gregorian calendar, at zero offset: `2026-03-01T12:00:00Z`. A part of
a second follows with three, six or nine digits, the fewest that lose nothing. Years outside 0 to
9999 carry a sign. A leap second is the sixtieth second of its minute. -/

namespace Gatehouse

/-- A day of the Gregorian calendar. -/
structure Date where
  year : Int
  month : Nat
  day : Nat
  deriving DecidableEq, Repr

/-- The date of a day counted from 1 January 1970. The count is taken from 1 March of year 0, so
that the leap day ends a year; a cycle of four hundred years has 146097 days. -/
def Date.ofDays (days : Int) : Date :=
  let z := days + 719468
  let era := z / 146097
  let dayOfEra := (z % 146097).toNat
  let yearOfEra := (dayOfEra - dayOfEra / 1460 + dayOfEra / 36524 - dayOfEra / 146096) / 365
  let dayOfYear := dayOfEra - (365 * yearOfEra + yearOfEra / 4 - yearOfEra / 100)
  let shifted := (5 * dayOfYear + 2) / 153
  let day := dayOfYear - (153 * shifted + 2) / 5 + 1
  let month := if shifted < 10 then shifted + 3 else shifted - 9
  ⟨yearOfEra + era * 400 + (if month ≤ 2 then 1 else 0), month, day⟩

/-- A number in decimal with zeros in front up to a width. -/
def zeroPadded (width n : Nat) : String :=
  let ds := Nat.toDigits 10 n
  String.ofList (List.replicate (width - ds.length) '0' ++ ds)

/-- A year: four digits, with a sign outside 0 to 9999. -/
def yearText (y : Int) : String :=
  if 0 ≤ y ∧ y ≤ 9999 then zeroPadded 4 y.toNat
  else (if y < 0 then "-" else "+") ++ zeroPadded 4 y.natAbs

/-- A part of a second, in the fewest digits of three, six and nine. -/
def subsecondText (nanos : Nat) : String :=
  if nanos = 0 then ""
  else if nanos % 1000000 = 0 then "." ++ zeroPadded 3 (nanos / 1000000)
  else if nanos % 1000 = 0 then "." ++ zeroPadded 6 (nanos / 1000)
  else "." ++ zeroPadded 9 nanos

/-- The nanoseconds that the text of an instant shows: a leap second counts its own. -/
def Instant.shownNanos (t : Instant) : Nat :=
  if t.IsLeap then t.subsecond - 1000000000 else t.subsecond

/-- The date and the time of an instant to the second, a leap second being the sixtieth of its
minute. -/
def Instant.secondText (t : Instant) : String :=
  let date := Date.ofDays (t.second / Instant.secondsPerDay)
  let s := t.secondOfDay.toNat
  yearText date.year ++ "-" ++ zeroPadded 2 date.month ++ "-" ++ zeroPadded 2 date.day ++ "T" ++
    zeroPadded 2 (s / 3600) ++ ":" ++ zeroPadded 2 (s / 60 % 60) ++ ":" ++
    zeroPadded 2 (s % 60 + (if t.IsLeap then 1 else 0))

/-- The text of an instant. -/
def Instant.text (t : Instant) : String := t.secondText ++ subsecondText t.shownNanos ++ "Z"

/-- The text of an instant with six digits of a second, for lines that stand below each other. -/
def Instant.microsText (t : Instant) : String :=
  t.secondText ++ "." ++ zeroPadded 6 (t.shownNanos / 1000) ++ "Z"

end Gatehouse
