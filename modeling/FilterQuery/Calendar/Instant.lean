import FilterQuery.Calendar.Date

/-!
# Instants

A point of universal time, as whole seconds from the start of 1 January 1970 and nanoseconds on top
of them. A leap second has no number of its own: it is the second before it with a billion
nanoseconds more. Any second can have one, though only those that end a minute do in a calendar.

* `Instant`, `Instant.of?`: the instants of the representable days;
* `Instant.date`, `Date.start`: the day of an instant and the first instant of a day;
* `Instant.addDays?`: an instant some days later or earlier.
-/

namespace FilterQuery

/-- The length of a day in seconds. -/
def secondsPerDay : Int := 86400

theorem zero_lt_twoBillion : 0 < 2000000000 := by decide

/-- A representable instant. -/
structure Instant where
  seconds : Int
  /-- A billion and more of them are in the leap second that follows the second. -/
  nanos : Nat
  first_le : Date.firstDay * secondsPerDay ≤ seconds
  lt_end : seconds < (Date.lastDay + 1) * secondsPerDay
  nanos_lt : nanos < 2000000000
deriving DecidableEq, Repr

/-- The first instant of a day. -/
def Date.start (d : Date) : Instant where
  seconds := d.day * secondsPerDay
  nanos := 0
  first_le := by have := d.first_le; simp only [secondsPerDay]; omega
  lt_end := by have := d.le_last; simp only [secondsPerDay]; omega
  nanos_lt := zero_lt_twoBillion

namespace Instant

/-- The instant with the given seconds and nanoseconds. -/
def of? (seconds : Int) (nanos : Nat) : Option Instant :=
  if h : (Date.firstDay * secondsPerDay ≤ seconds ∧
      seconds < (Date.lastDay + 1) * secondsPerDay) ∧ nanos < 2000000000 then
    some ⟨seconds, nanos, h.1.1, h.1.2, h.2⟩
  else none

/-- The day on which an instant falls. -/
def date (t : Instant) : Date where
  day := t.seconds / secondsPerDay
  first_le := by
    have := t.first_le
    simp only [secondsPerDay, Date.firstDay] at *
    omega
  le_last := by
    have := t.lt_end
    simp only [secondsPerDay, Date.lastDay] at *
    omega

/-- The instant lies in a leap second. -/
def isLeap (t : Instant) : Bool := 1000000000 ≤ t.nanos

/-- The instant `days` days later. A move leaves a leap second: going forward it counts as the
second before it, going back as the second after it. -/
def addDays? (t : Instant) (days : Int) : Option Instant :=
  let moved := t.seconds + days * secondsPerDay
  if days = 0 then some t
  else if t.isLeap then
    of? (if days < 0 then moved + 1 else moved) (t.nanos - 1000000000)
  else of? moved t.nanos

end Instant

end FilterQuery
