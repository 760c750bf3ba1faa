import FilterQuery.Calendar.Instant
import Mathlib.Data.Int.ConditionallyCompleteOrder
import Mathlib.Order.Monotone.Basic
import Mathlib.Tactic.IntervalCases
import Mathlib.Tactic.Linarith

/-!
# Civil dates and day numbers

The calendar, told from one day to the next, and the formulas that count its days.

* `yearOfCycle_eq`, `exists_year`: the years of a cycle share out its days; `monthOfYear_eq_iff`: so
  do the months of a year;
* `CivilDate.valid_iff`: the dates of the calendar in years that start in March;
* **`CivilDate.ofDayNumber_dayNumber`**, **`CivilDate.dayNumber_ofDayNumber`**: dates and day
  numbers undo each other;
* `CivilDate.tomorrow`, **`CivilDate.dayNumber_tomorrow`**: the next date has the next number;
* `Calendar`, **`Calendar.date_eq`**: there is one way to count days so that each is followed by the
  next date;
* **`Calendar.exists_date_iff`**: the representable dates.
-/

namespace FilterQuery

/-! ## Years of a cycle -/

/-- The number of days of a year that starts in March. The February at its end is that of the next
year. -/
def daysInYear (year : Int) : Int := if isLeapYear (year + 1) then 366 else 365

theorem daysInYear_bounds (year : Int) : 365 ≤ daysInYear year ∧ daysInYear year ≤ 366 := by
  unfold daysInYear
  split <;> decide

theorem daysInYear_emod (year : Int) : daysInYear (year % 400) = daysInYear year := by
  have h4 : (year % 400 + 1) % 4 = (year + 1) % 4 := by omega
  have h100 : (year % 400 + 1) % 100 = (year + 1) % 100 := by omega
  have h400 : (year % 400 + 1) % 400 = (year + 1) % 400 := by omega
  have hleap : isLeapYear (year % 400 + 1) = isLeapYear (year + 1) := by
    rw [isLeapYear, isLeapYear, h4, h100, h400]
  rw [daysInYear, daysInYear, hleap]

theorem monotone_yearOfCycle : Monotone yearOfCycle := by
  refine monotone_int_of_le_succ fun day => ?_
  have hquad : (day + 1) / 1460 ≤ day / 1460 + 1 := by omega
  have hcentury : day / 36524 ≤ (day + 1) / 36524 := by omega
  have hcycle : ∀ n : Int, n / 146096 = n / 36524 / 4 := fun n => by omega
  unfold yearOfCycle
  refine Int.ediv_le_ediv (by decide) ?_
  rw [hcycle, hcycle]
  omega

/-- The formula is right on the first and on the last day of each year of a cycle, and each year
ends where the next one, or the next cycle, starts. -/
theorem yearOfCycle_ends : ∀ year : Fin 400,
    yearOfCycle (daysBeforeYear year.val) = year.val ∧
    yearOfCycle (daysBeforeYear year.val + daysInYear year.val - 1) = year.val ∧
    daysBeforeYear year.val + daysInYear year.val =
      if year.val = 399 then 146097 else daysBeforeYear (year.val + 1) := by
  decide +kernel

/-- **The formula gives the year in which a day lies.** It is monotone, so it is right between the
first and the last day of the year. -/
theorem yearOfCycle_eq {day year : Int} (hfirst : 0 ≤ year) (hlast : year < 400)
    (hge : daysBeforeYear year ≤ day) (hlt : day < daysBeforeYear year + daysInYear year) :
    yearOfCycle day = year := by
  obtain ⟨n, rfl⟩ := Int.eq_ofNat_of_zero_le hfirst
  obtain ⟨hstart, hend, -⟩ := yearOfCycle_ends ⟨n, by omega⟩
  refine le_antisymm ?_ ?_
  · calc yearOfCycle day ≤ yearOfCycle (daysBeforeYear n + daysInYear n - 1) :=
          monotone_yearOfCycle (by omega)
      _ = n := hend
  · calc (n : Int) = yearOfCycle (daysBeforeYear n) := hstart.symm
      _ ≤ yearOfCycle day := monotone_yearOfCycle hge

theorem daysBeforeYear_bounds (year : Int) (hfirst : 0 ≤ year) (hlast : year < 400) :
    0 ≤ daysBeforeYear year ∧ daysBeforeYear year + daysInYear year ≤ 146097 := by
  have hlength := daysInYear_bounds year
  unfold daysBeforeYear
  omega

theorem exists_year {day : Int} (hfirst : 0 ≤ day) (hlast : day < 146097) :
    ∃ year, 0 ≤ year ∧ year < 400 ∧ daysBeforeYear year ≤ day ∧
      day < daysBeforeYear year + daysInYear year := by
  by_contra! h
  -- If no year held the day, all of them would start before it, and the last one would end there.
  have hstart : ∀ n : Nat, n < 400 → daysBeforeYear n ≤ day := by
    intro n hn
    induction n with
    | zero => exact hfirst
    | succ n ih =>
      have hend := h n (by omega) (by omega) (ih (by omega))
      rw [(yearOfCycle_ends ⟨n, by omega⟩).2.2, if_neg (by simp; omega)] at hend
      exact hend
  have hend := h 399 (by decide) (by decide) (hstart 399 (by decide))
  have hcycle : daysBeforeYear 399 + daysInYear 399 = 146097 := by decide
  omega

/-! ## Years that start in March -/

/-- The days before a year that starts in March, from 1 March of the year 0 on. -/
def daysBeforeMarch (year : Int) : Int := year / 400 * 146097 + daysBeforeYear (year % 400)

theorem daysBeforeMarch_succ (year : Int) :
    daysBeforeMarch (year + 1) = daysBeforeMarch year + daysInYear year := by
  obtain ⟨n, hn⟩ := Int.eq_ofNat_of_zero_le (Int.emod_nonneg year (by decide : (400 : Int) ≠ 0))
  have hnext := (yearOfCycle_ends ⟨n, by omega⟩).2.2
  rw [← daysInYear_emod, daysBeforeMarch, daysBeforeMarch, hn]
  dsimp only at hnext
  split at hnext
  · have hdiv : (year + 1) / 400 = year / 400 + 1 := by omega
    have hmod : (year + 1) % 400 = 0 := by omega
    have hzero : daysBeforeYear 0 = 0 := rfl
    rw [hdiv, hmod, hzero]
    omega
  · have hdiv : (year + 1) / 400 = year / 400 := by omega
    have hmod : (year + 1) % 400 = n + 1 := by omega
    rw [hdiv, hmod]
    omega

theorem strictMono_daysBeforeMarch : StrictMono daysBeforeMarch := by
  refine strictMono_int_of_lt_succ fun year => ?_
  have hlength := daysInYear_bounds year
  rw [daysBeforeMarch_succ]
  omega

theorem exists_marchYear (day : Int) : ∃ year days, 0 ≤ days ∧ days < daysInYear year ∧
    day = daysBeforeMarch year + days - epochOffset := by
  obtain ⟨year, hfirst, hlast, hstart, hend⟩ := exists_year
    (Int.emod_nonneg (day + epochOffset) (by decide)) (Int.emod_lt_of_pos _ (by decide))
  have hdiv : ((day + epochOffset) / 146097 * 400 + year) / 400 =
    (day + epochOffset) / 146097 := by omega
  have hmod : ((day + epochOffset) / 146097 * 400 + year) % 400 = year := by omega
  refine ⟨(day + epochOffset) / 146097 * 400 + year,
    (day + epochOffset) % 146097 - daysBeforeYear year, by omega, ?_, ?_⟩
  · rw [← daysInYear_emod, hmod]
    omega
  · rw [daysBeforeMarch, hdiv, hmod]
    omega

theorem monthOfYear_eq_iff {day month : Int} : monthOfYear day = month ↔
    daysBeforeMonth month ≤ day ∧ day < daysBeforeMonth (month + 1) := by
  unfold monthOfYear daysBeforeMonth
  omega

/-! ## Dates in years that start in March -/

namespace CivilDate

/-- The year from March to February that a date belongs to. -/
def marchYear (c : CivilDate) : Int := if c.month ≤ 2 then c.year - 1 else c.year

/-- The month of a date, counted from March. -/
def marchMonth (c : CivilDate) : Int := if c.month ≤ 2 then c.month + 9 else (c.month : Int) - 3

/-- The days of its year from March on that are before a date. -/
def yearDay (c : CivilDate) : Int := daysBeforeMonth c.marchMonth + c.day - 1

/-- The date of a day of a month of a year, both counted from March. -/
def ofMarch (year month day : Int) : CivilDate :=
  if month < 10 then ⟨year, (month + 3).toNat, day.toNat⟩
  else ⟨year + 1, (month - 9).toNat, day.toNat⟩

theorem dayNumber_eq (c : CivilDate) :
    c.dayNumber = daysBeforeMarch c.marchYear + c.yearDay - epochOffset := by
  unfold dayNumber daysBeforeMarch yearDay marchYear marchMonth
  dsimp only
  split <;> omega

theorem ofMarch_march {c : CivilDate} (h : 1 ≤ c.month) (h' : c.month ≤ 12) :
    ofMarch c.marchYear c.marchMonth c.day = c := by
  obtain ⟨year, month, day⟩ := c
  simp only [ofMarch, marchYear, marchMonth] at *
  split <;> split <;> simp <;> omega

section

variable (year : Int) {month : Int} (day : Int) (h : 0 ≤ month) (h' : month < 12)

include h h'

theorem march_ofMarch : (ofMarch year month day).marchYear = year ∧
    (ofMarch year month day).marchMonth = month := by
  unfold ofMarch marchYear marchMonth
  split <;> simp <;> omega

theorem month_ofMarch :
    1 ≤ (ofMarch year month day).month ∧ (ofMarch year month day).month ≤ 12 := by
  unfold ofMarch
  split <;> simp <;> omega

end

theorem day_ofMarch (year month : Int) {day : Int} (h : 0 ≤ day) :
    ((ofMarch year month day).day : Int) = day := by
  unfold ofMarch
  split <;> exact Int.toNat_of_nonneg h

/-- **A date is in the calendar** if its month is, and its day is one of that month and, as the last
month has no fixed length, of that year. -/
theorem valid_iff (c : CivilDate) : c.valid = true ↔ (1 ≤ c.month ∧ c.month ≤ 12) ∧ 1 ≤ c.day ∧
    c.yearDay < daysBeforeMonth (c.marchMonth + 1) ∧ c.yearDay < daysInYear c.marchYear := by
  obtain ⟨year, month, day⟩ := c
  simp only [valid, Bool.and_eq_true, decide_eq_true_eq, and_assoc]
  refine and_congr_right fun hfirst => and_congr_right fun hlast => and_congr_right fun _ => ?_
  have hlength := daysInYear_bounds (marchYear ⟨year, month, day⟩)
  interval_cases month
  case «2» =>
    simp only [yearDay, marchYear, marchMonth, daysBeforeMonth, daysInMonth, daysInYear]
    norm_num
    split <;> omega
  all_goals
    simp only [yearDay, marchMonth, daysBeforeMonth, daysInMonth]
    norm_num
    omega

/-! ## Dates and day numbers -/

/-- The date of a day, given by its year from March on and the days before it in that year. -/
theorem ofDayNumber_eq {year days : Int} (hfirst : 0 ≤ days) (hlast : days < daysInYear year) :
    ofDayNumber (daysBeforeMarch year + days - epochOffset) =
      ofMarch year (monthOfYear days) (days - daysBeforeMonth (monthOfYear days) + 1) := by
  rw [← daysInYear_emod] at hlast
  obtain ⟨hpos, hle⟩ := daysBeforeYear_bounds (year % 400) (by omega) (by omega)
  have hyear : yearOfCycle (daysBeforeYear (year % 400) + days) = year % 400 :=
    yearOfCycle_eq (by omega) (by omega) (by omega) (by omega)
  have hdiv : (daysBeforeMarch year + days) / 146097 = year / 400 := by
    unfold daysBeforeMarch
    omega
  have hmod : (daysBeforeMarch year + days) % 146097 = daysBeforeYear (year % 400) + days := by
    unfold daysBeforeMarch
    omega
  unfold ofDayNumber
  dsimp only
  rw [Int.sub_add_cancel, hdiv, hmod, hyear, add_sub_cancel_left, Int.ediv_mul_add_emod]
  rfl

theorem yearDay_bounds {c : CivilDate} (h : c.valid = true) :
    daysBeforeMonth c.marchMonth ≤ c.yearDay ∧ 0 ≤ c.yearDay := by
  obtain ⟨⟨hfirst, hlast⟩, hday, -, -⟩ := c.valid_iff.1 h
  have hstart : daysBeforeMonth c.marchMonth ≤ c.yearDay := by
    unfold yearDay
    omega
  refine ⟨hstart, le_trans ?_ hstart⟩
  unfold daysBeforeMonth marchMonth
  split <;> omega

/-- **A date of the calendar has its day number back.** -/
theorem ofDayNumber_dayNumber {c : CivilDate} (h : c.valid = true) :
    ofDayNumber c.dayNumber = c := by
  obtain ⟨⟨hfirst, hlast⟩, hday, hmonth, hyear⟩ := c.valid_iff.1 h
  obtain ⟨hstart, hpos⟩ := yearDay_bounds h
  have hmonthOf : monthOfYear c.yearDay = c.marchMonth := monthOfYear_eq_iff.2 ⟨hstart, hmonth⟩
  have hdayOf : c.yearDay - daysBeforeMonth c.marchMonth + 1 = c.day := by
    unfold yearDay
    omega
  rw [dayNumber_eq, ofDayNumber_eq hpos hyear, hmonthOf, hdayOf, ofMarch_march hfirst hlast]

/-- **The date of a day number is in the calendar, and has that number.** -/
theorem dayNumber_ofDayNumber (day : Int) :
    (ofDayNumber day).valid = true ∧ (ofDayNumber day).dayNumber = day := by
  obtain ⟨year, days, hpos, hlt, rfl⟩ := exists_marchYear day
  obtain ⟨hstart, hend⟩ := monthOfYear_eq_iff.1 (rfl : monthOfYear days = monthOfYear days)
  have hlength := daysInYear_bounds year
  have hmonth : 0 ≤ monthOfYear days ∧ monthOfYear days < 12 := by
    unfold monthOfYear
    omega
  have hday : 0 ≤ days - daysBeforeMonth (monthOfYear days) + 1 := by omega
  obtain ⟨hyear, hmonthOf⟩ := march_ofMarch year (days - daysBeforeMonth (monthOfYear days) + 1)
    hmonth.1 hmonth.2
  have hdayOf := day_ofMarch year (monthOfYear days) hday
  rw [ofDayNumber_eq hpos hlt, valid_iff, dayNumber_eq, yearDay, hyear, hmonthOf, hdayOf]
  exact ⟨⟨month_ofMarch _ _ hmonth.1 hmonth.2, by omega, by omega, by omega⟩, by omega⟩

/-! ## The next date -/

/-- The date after a date: the next day of the month, the first of the next month or the first of
the next year. -/
def tomorrow (c : CivilDate) : CivilDate :=
  if c.day < daysInMonth c.year c.month then { c with day := c.day + 1 }
  else if c.month < 12 then ⟨c.year, c.month + 1, 1⟩
  else ⟨c.year + 1, 1, 1⟩

theorem one_le_daysInMonth (year : Int) (month : Nat) : 1 ≤ daysInMonth year month := by
  unfold daysInMonth
  split_ifs <;> decide

theorem valid_tomorrow {c : CivilDate} (h : c.valid = true) : c.tomorrow.valid = true := by
  have hnext := one_le_daysInMonth c.year (c.month + 1)
  simp only [valid, Bool.and_eq_true, decide_eq_true_eq] at h
  unfold tomorrow
  split
  · simp only [valid, Bool.and_eq_true, decide_eq_true_eq]
    omega
  · split
    · simp only [valid, Bool.and_eq_true, decide_eq_true_eq]
      omega
    · rfl

/-- **The next date has the next number.** At the end of February the year changes that is counted
from March. -/
theorem dayNumber_tomorrow {c : CivilDate} (h : c.valid = true) :
    c.tomorrow.dayNumber = c.dayNumber + 1 := by
  obtain ⟨year, month, day⟩ := c
  simp only [valid, Bool.and_eq_true, decide_eq_true_eq, and_assoc] at h
  obtain ⟨hfirst, hlast, -, hlength⟩ := h
  unfold tomorrow
  dsimp only
  by_cases hwithin : day < daysInMonth year month
  · rw [if_pos hwithin, dayNumber, dayNumber]
    push_cast
    omega
  · have hmarch := daysBeforeMarch_succ (year - 1)
    rw [Int.sub_add_cancel, daysInYear, Int.sub_add_cancel] at hmarch
    obtain rfl : day = daysInMonth year month := by omega
    rw [if_neg hwithin, dayNumber_eq, dayNumber_eq]
    interval_cases month
    case «2» =>
      norm_num [yearDay, marchYear, marchMonth, daysBeforeMonth, daysInMonth]
      rw [hmarch]
      split_ifs <;> omega
    all_goals
      norm_num [yearDay, marchYear, marchMonth, daysBeforeMonth, daysInMonth]
      omega

end CivilDate

/-! ## The calendar -/

/-- A count of days in which 1 January 1970 has the number 0 and each day is followed by the next
date. -/
structure Calendar where
  date : Int → CivilDate
  valid : ∀ day, (date day).valid = true
  epoch : date 0 = ⟨1970, 1, 1⟩
  date_succ : ∀ day, date (day + 1) = (date day).tomorrow

namespace Calendar

theorem dayNumber_date (cal : Calendar) (day : Int) : (cal.date day).dayNumber = day := by
  induction day using Int.induction_on with
  | zero => rw [cal.epoch]; rfl
  | succ i ih => rw [cal.date_succ, CivilDate.dayNumber_tomorrow (cal.valid _), ih]
  | pred i ih =>
    have hnext := CivilDate.dayNumber_tomorrow (cal.valid (-(i : Int) - 1))
    rw [← cal.date_succ, Int.sub_add_cancel, ih] at hnext
    omega

/-- **There is no other way to count days.** -/
theorem date_eq (cal : Calendar) (day : Int) : cal.date day = CivilDate.ofDayNumber day := by
  rw [← CivilDate.ofDayNumber_dayNumber (cal.valid day), cal.dayNumber_date]

/-- The calendar of the formulas. -/
def gregorian : Calendar where
  date := CivilDate.ofDayNumber
  valid day := (CivilDate.dayNumber_ofDayNumber day).1
  epoch := by decide
  date_succ day := by
    obtain ⟨hvalid, hday⟩ := CivilDate.dayNumber_ofDayNumber day
    rw [← CivilDate.ofDayNumber_dayNumber (CivilDate.valid_tomorrow hvalid),
      CivilDate.dayNumber_tomorrow hvalid, hday]

theorem date_eq_iff (cal : Calendar) {day : Int} {c : CivilDate} :
    cal.date day = c ↔ c.valid = true ∧ c.dayNumber = day := by
  constructor
  · rintro rfl
    exact ⟨cal.valid day, cal.dayNumber_date day⟩
  · rintro ⟨hvalid, rfl⟩
    rw [cal.date_eq, CivilDate.ofDayNumber_dayNumber hvalid]

end Calendar

/-! ## Representable dates -/

/-- The number of the first day of a year. -/
def newYear (year : Int) : Int := CivilDate.dayNumber ⟨year, 1, 1⟩

theorem newYear_eq (year : Int) :
    newYear year = daysBeforeMarch (year - 1) + daysBeforeMonth 10 - epochOffset := by
  rw [newYear, CivilDate.dayNumber_eq]
  simp [CivilDate.marchYear, CivilDate.yearDay, CivilDate.marchMonth]

theorem strictMono_newYear : StrictMono newYear := by
  intro year year' h
  have hmarch := strictMono_daysBeforeMarch (Int.sub_lt_sub_right h 1)
  rw [newYear_eq, newYear_eq]
  omega

namespace CivilDate

/-- **A date lies between the first day of its year and that of the next one.** -/
theorem newYear_le_dayNumber {c : CivilDate} (h : c.valid = true) :
    newYear c.year ≤ c.dayNumber ∧ c.dayNumber < newYear (c.year + 1) := by
  obtain ⟨⟨hfirst, hlast⟩, hday, hmonth, hyear⟩ := c.valid_iff.1 h
  obtain ⟨hstart, hpos⟩ := yearDay_bounds h
  have hmarch := daysBeforeMarch_succ (c.year - 1)
  have hlength := daysInYear_bounds (c.year - 1)
  have hten : daysBeforeMonth 10 = 306 := by decide
  rw [Int.sub_add_cancel] at hmarch
  rw [newYear_eq, newYear_eq, dayNumber_eq, add_sub_cancel_right, hten]
  by_cases hwinter : c.month ≤ 2
  · have hyearOf : c.marchYear = c.year - 1 := if_pos hwinter
    have hmonthOf : c.marchMonth = c.month + 9 := if_pos hwinter
    rw [hyearOf] at hyear ⊢
    rw [hmonthOf, daysBeforeMonth] at hstart
    omega
  · have hyearOf : c.marchYear = c.year := if_neg hwinter
    have hmonthOf : c.marchMonth = (c.month : Int) - 3 := if_neg hwinter
    rw [hyearOf]
    rw [hmonthOf, daysBeforeMonth] at hmonth
    omega

theorem newYear_le_dayNumber_iff {c : CivilDate} (h : c.valid = true) (year : Int) :
    newYear year ≤ c.dayNumber ↔ year ≤ c.year := by
  obtain ⟨hstart, hend⟩ := newYear_le_dayNumber h
  constructor
  · intro hle
    by_contra! hlt
    have hmono : newYear (c.year + 1) ≤ newYear year := strictMono_newYear.monotone hlt
    omega
  · intro hle
    exact (strictMono_newYear.monotone hle).trans hstart

end CivilDate

/-- **The representable dates** are those of the years from −262143 to 262142. -/
theorem Calendar.exists_date_iff (cal : Calendar) {c : CivilDate} :
    (∃ d : Date, cal.date d.day = c) ↔ c.valid = true ∧ -262143 ≤ c.year ∧ c.year ≤ 262142 := by
  have hfirst : newYear (-262143) = Date.firstDay := by decide
  have hlast : newYear 262143 = Date.lastDay + 1 := by decide
  simp only [cal.date_eq_iff, exists_and_left]
  refine and_congr_right fun hvalid => ?_
  have hge := CivilDate.newYear_le_dayNumber_iff hvalid (-262143)
  have hlt := CivilDate.newYear_le_dayNumber_iff hvalid 262143
  rw [hfirst] at hge
  rw [hlast] at hlt
  constructor
  · rintro ⟨d, hd⟩
    have hd₁ := d.first_le
    have hd₂ := d.le_last
    omega
  · rintro ⟨hyear, hyear'⟩
    exact ⟨⟨c.dayNumber, by omega, by omega⟩, rfl⟩

end FilterQuery
