/-!
# Calendar dates

Days of the proleptic Gregorian calendar, in which the year 0 exists. A date is its number of days
from 1 January 1970; the civil form (year, month, day of the month) is computed from it and back
in the count of years that start in March, where the leap day comes last.

* `Date`: a day between 1 January −262143 and 31 December 262142;
* `Date.ofCivil?`, `Date.civil`: from and to the civil form;
* `Date.next?`: the following day.
-/

namespace FilterQuery

/-- A year, a month from 1 to 12 and a day of the month. -/
structure CivilDate where
  year : Int
  month : Nat
  day : Nat
deriving DecidableEq, Repr

/-- Every fourth year is a leap year, except the centuries that 400 does not divide. -/
def isLeapYear (year : Int) : Bool := year % 4 == 0 && (year % 100 != 0 || year % 400 == 0)

/-- The number of days of a month. -/
def daysInMonth (year : Int) (month : Nat) : Nat :=
  if month = 2 then (if isLeapYear year then 29 else 28)
  else if month = 4 ∨ month = 6 ∨ month = 9 ∨ month = 11 then 30
  else 31

/-- The month exists and has that day. -/
def CivilDate.valid (c : CivilDate) : Bool :=
  1 ≤ c.month && c.month ≤ 12 && 1 ≤ c.day && c.day ≤ daysInMonth c.year c.month

/-! ## Counting in years that start in March

The calendar repeats every 400 years, that is every 146097 days. -/

/-- The days of a cycle before a year of it. -/
def daysBeforeYear (year : Int) : Int := 365 * year + year / 4 - year / 100

/-- The year of a cycle that holds a day of it. -/
def yearOfCycle (day : Int) : Int := (day - day / 1460 + day / 36524 - day / 146096) / 365

/-- The days of a year before a month, both counted from March. -/
def daysBeforeMonth (month : Int) : Int := (153 * month + 2) / 5

/-- The month that holds a day of the year, both counted from March. -/
def monthOfYear (day : Int) : Int := (5 * day + 2) / 153

/-- The days from 1 March of the year 0 to 1 January 1970. -/
def epochOffset : Int := 719468

/-- The days from 1 January 1970 to a civil date. -/
def CivilDate.dayNumber (c : CivilDate) : Int :=
  let year := if c.month ≤ 2 then c.year - 1 else c.year
  let month : Int := if c.month ≤ 2 then c.month + 9 else (c.month : Int) - 3
  year / 400 * 146097 + daysBeforeYear (year % 400) + daysBeforeMonth month + c.day - 1 -
    epochOffset

/-- The civil date of a day number. -/
def CivilDate.ofDayNumber (day : Int) : CivilDate :=
  let shifted := day + epochOffset
  let inCycle := shifted % 146097
  let year := yearOfCycle inCycle
  let inYear := inCycle - daysBeforeYear year
  let month := monthOfYear inYear
  let inMonth := inYear - daysBeforeMonth month + 1
  if month < 10 then ⟨shifted / 146097 * 400 + year, (month + 3).toNat, inMonth.toNat⟩
  else ⟨shifted / 146097 * 400 + year + 1, (month - 9).toNat, inMonth.toNat⟩

/-- 1 January −262143. -/
def Date.firstDay : Int := -96465292

/-- 31 December 262142. -/
def Date.lastDay : Int := 95026236

/-- A representable day, by its number. -/
structure Date where
  day : Int
  first_le : Date.firstDay ≤ day
  le_last : day ≤ Date.lastDay
deriving DecidableEq, Repr

namespace Date

/-- The day with a given number. -/
def ofDay? (day : Int) : Option Date :=
  if h : firstDay ≤ day ∧ day ≤ lastDay then some ⟨day, h.1, h.2⟩ else none

/-- The day of a civil date, if the calendar has it and it is in reach. -/
def ofCivil? (c : CivilDate) : Option Date :=
  if c.valid then ofDay? c.dayNumber else none

/-- Year, month and day of the month. -/
def civil (d : Date) : CivilDate := CivilDate.ofDayNumber d.day

/-- The day after. -/
def next? (d : Date) : Option Date := ofDay? (d.day + 1)

theorem ofDay?_day (d : Date) : ofDay? d.day = some d := by
  simp [ofDay?, d.first_le, d.le_last]

theorem ofDay?_eq_none_iff {day : Int} :
    ofDay? day = none ↔ day < firstDay ∨ lastDay < day := by
  unfold ofDay?
  split <;> simp <;> omega

theorem next?_eq_none_iff (d : Date) : d.next? = none ↔ d.day = lastDay := by
  have h := d.first_le
  have h' := d.le_last
  unfold next?
  rw [ofDay?_eq_none_iff]
  omega

end Date

end FilterQuery
