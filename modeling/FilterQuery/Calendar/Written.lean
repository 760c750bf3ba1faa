import FilterQuery.Calendar.Instant
import FilterQuery.Text.Number

/-!
# Dates and instants in writing

The ISO forms: `2024-03-01` and `2024-03-01T08:30:00.250Z`. Years have at least four digits; those
above 9999 carry a plus sign and those before the year 0 a minus sign. A fraction has the fewest of
three, six or nine digits that is exact. A leap second is written as the second after the one it
belongs to, which is the second 60 at the end of a minute.

* `Date.text`, `Instant.text`.
-/

namespace FilterQuery

open Text

/-- A year with at least four digits, signed outside 0 to 9999. -/
def yearText (year : Int) : String :=
  if year < 0 then "-" ++ padded 4 year.natAbs
  else if year ≤ 9999 then padded 4 year.natAbs
  else "+" ++ padded 4 year.natAbs

/-- Year, month and day, joined by hyphens. -/
def Date.text (d : Date) : String :=
  let c := d.civil
  yearText c.year ++ "-" ++ padded 2 c.month ++ "-" ++ padded 2 c.day

/-- The fraction of a second, with the point, or nothing for a whole second. -/
def fractionText (nanos : Nat) : String :=
  if nanos = 0 then ""
  else if nanos % 1000000 = 0 then "." ++ padded 3 (nanos / 1000000)
  else if nanos % 1000 = 0 then "." ++ padded 6 (nanos / 1000)
  else "." ++ padded 9 nanos

/-- Date and time of day in universal time. -/
def Instant.text (t : Instant) : String :=
  let ofDay := (t.seconds % secondsPerDay).toNat
  let second := ofDay % 60 + (if t.isLeap then 1 else 0)
  t.date.text ++ "T" ++ padded 2 (ofDay / 3600) ++ ":" ++ padded 2 (ofDay / 60 % 60) ++ ":" ++
    padded 2 second ++ fractionText (t.nanos % 1000000000) ++ "Z"

end FilterQuery
