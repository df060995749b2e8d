/-! # Instants and durations

A duration is a count of nanoseconds. An instant is a second, counted from the start of 1970, and
nanoseconds into it. Leap seconds are not counted: one lies in the second before it, a thousand
million nanoseconds or more into it. Instants are ordered by their second and then by the
nanoseconds. A move that stays within a leap second keeps to it; one that leaves it forward goes on
from the second before, and one that leaves it backward from the second after. The calendar ends:
it runs from the first second of year -262143 to the last of year 262142. Moving an instant out of
it is no instant, and `Instant.add?` says so. -/

namespace Gatehouse

/-- A span of time in nanoseconds. -/
structure Duration where
  nanos : Int
  deriving DecidableEq, Repr

namespace Duration

/-- Nanoseconds in a second. -/
def nanosPerSecond : Int := 1000000000

/-- A number of seconds. -/
def ofSeconds (n : Int) : Duration := ⟨n * nanosPerSecond⟩

/-- A number of hours. -/
def ofHours (n : Nat) : Duration := ofSeconds (n * 3600)

/-- A number of days of twenty-four hours. -/
def ofDays (n : Nat) : Duration := ofSeconds (n * 86400)

instance : LE Duration := ⟨fun a b => a.nanos ≤ b.nanos⟩
instance (a b : Duration) : Decidable (a ≤ b) := inferInstanceAs (Decidable (a.nanos ≤ b.nanos))

end Duration

/-- A point in time. -/
structure Instant where
  /-- Seconds since the start of 1970. -/
  second : Int
  /-- Nanoseconds into the second, and into the leap second behind it. -/
  subsecond : Nat
  deriving DecidableEq, Repr

namespace Instant

instance : LE Instant :=
  ⟨fun a b => a.second < b.second ∨ a.second = b.second ∧ a.subsecond ≤ b.subsecond⟩
instance : LT Instant :=
  ⟨fun a b => a.second < b.second ∨ a.second = b.second ∧ a.subsecond < b.subsecond⟩
instance (a b : Instant) : Decidable (a ≤ b) := inferInstanceAs (Decidable (_ ∨ _))
instance (a b : Instant) : Decidable (a < b) := inferInstanceAs (Decidable (_ ∨ _))

theorem le_def {a b : Instant} :
    a ≤ b ↔ a.second < b.second ∨ a.second = b.second ∧ a.subsecond ≤ b.subsecond := Iff.rfl

theorem lt_def {a b : Instant} :
    a < b ↔ a.second < b.second ∨ a.second = b.second ∧ a.subsecond < b.subsecond := Iff.rfl

theorem not_le {a b : Instant} : ¬ a ≤ b ↔ b < a := by
  simp only [le_def, lt_def]; omega

theorem not_lt {a b : Instant} : ¬ a < b ↔ b ≤ a := by
  simp only [le_def, lt_def]; omega

/-- The start of a second. -/
def ofSeconds (s : Int) : Instant := ⟨s, 0⟩

/-- The instant a count of nanoseconds after the start of 1970, in no leap second. -/
def ofNanos (n : Int) : Instant :=
  ⟨n / Duration.nanosPerSecond, (n % Duration.nanosPerSecond).toNat⟩

/-- Nanoseconds since the start of 1970; those of a leap second are those of the next second too. -/
def nanos (t : Instant) : Int := t.second * Duration.nanosPerSecond + t.subsecond

/-- The instant lies in a leap second. -/
def IsLeap (t : Instant) : Prop := Duration.nanosPerSecond ≤ t.subsecond

instance (t : Instant) : Decidable t.IsLeap := inferInstanceAs (Decidable (_ ≤ _))

/-- Seconds in a day. -/
def secondsPerDay : Int := 86400

/-- Seconds since the last midnight. -/
def secondOfDay (t : Instant) : Int := t.second % secondsPerDay

/-- The first second of the calendar. -/
def firstSecond : Int := -8334601228800

/-- The last second of the calendar. -/
def lastSecond : Int := 8210266876799

/-- The calendar holds the instant. -/
def InCalendar (t : Instant) : Prop := firstSecond ≤ t.second ∧ t.second ≤ lastSecond

instance (t : Instant) : Decidable t.InCalendar := inferInstanceAs (Decidable (_ ∧ _))

/-- The start of a second, if the calendar holds it. -/
def ofSeconds? (s : Int) : Option Instant :=
  if firstSecond ≤ s ∧ s ≤ lastSecond then some (ofSeconds s) else none

/-- The instant of a second and nanoseconds into it, a leap second only at the end of a minute. -/
def ofParts? (s n : Int) : Option Instant :=
  if 0 ≤ n ∧ (n < Duration.nanosPerSecond ∨ n < 2 * Duration.nanosPerSecond ∧ s % 60 = 59) then
    (ofSeconds? s).map fun t => { t with subsecond := n.toNat }
  else none

/-- The instant a duration later, or earlier if the duration is negative. -/
def move (t : Instant) (d : Duration) : Instant :=
  let second := Duration.nanosPerSecond
  if t.IsLeap then
    if -second < d.nanos ∧ d.nanos < second ∧ t.subsecond + d.nanos < 2 * second then
      { t with subsecond := (t.subsecond + d.nanos).toNat }
    else if 0 < d.nanos then ofNanos (t.nanos - second + d.nanos)
    else ofNanos (t.nanos + d.nanos)
  else ofNanos (t.nanos + d.nanos)

/-- The instant a duration later, if the calendar holds it. -/
def add? (t : Instant) (d : Duration) : Option Instant :=
  let u := t.move d
  if u.InCalendar then some u else none

/-- The time from `u` to `t`. A leap second counts if it lies in the one that is earlier in its day
than the other. -/
def since (t u : Instant) : Duration :=
  let second := Duration.nanosPerSecond
  let between := t.nanos - u.nanos
  if u.secondOfDay < t.secondOfDay ∧ u.IsLeap then ⟨between + second⟩
  else if t.secondOfDay < u.secondOfDay ∧ t.IsLeap then ⟨between - second⟩
  else ⟨between⟩

/-- The start of the year 2000. -/
def year2000 : Instant := ofSeconds 946684800

/-- The instant in whole microseconds from the start of 2000, a part of one dropped; in no leap
second. -/
def truncateToMicros (t : Instant) : Instant :=
  ofNanos (year2000.nanos + (t.since year2000).nanos.tdiv 1000 * 1000)

theorem nanos_ofNanos (n : Int) : (ofNanos n).nanos = n := by
  simp only [ofNanos, nanos, Duration.nanosPerSecond]; omega

theorem not_isLeap_ofNanos (n : Int) : ¬ (ofNanos n).IsLeap := by
  simp only [IsLeap, ofNanos, Duration.nanosPerSecond]; omega

end Instant

end Gatehouse
