import RowFormula.Time.Instant
import Mathlib.Tactic.IntervalCases

/-! The calendar. Every day has one date, and dates of later months have later days. The days of a
date are counted from March, so that the leap day ends a year. -/
namespace RowFormula.Time.Civil

/-- The days before a year that begins in March. -/
def daysBeforeYear (year : Int) : Int := 365 * year + year / 4 - year / 100 + year / 400

/-- The year that began in the last March. -/
def marchYear (date : Civil) : Int := if date.month ≤ 2 then date.year - 1 else date.year

/-- The months since March. -/
def marchMonth (date : Civil) : Int := ((date.month : Int) + 9) % 12

/-- The days since the last first of March. -/
def dayOfYear (date : Civil) : Int := daysBefore date.marchMonth + date.day - 1

/-- The days before the year that begins in March, those of the year itself, and the shift to the
epoch. -/
theorem toDay_eq (date : Civil) :
    date.toDay = daysBeforeYear date.marchYear + date.dayOfYear - 719468 := by
  simp only [toDay, daysBeforeYear, marchYear, dayOfYear, marchMonth]
  omega

/-- The months up to the month of a date. -/
def monthIndex (date : Civil) : Int := date.year * 12 + ((date.month : Int) - 1)

/-- A date is valid when its month and its day exist. -/
theorem isValid_iff (date : Civil) :
    date.isValid = true ↔ 1 ≤ date.month ∧ date.month ≤ 12 ∧ 1 ≤ date.day ∧
      date.day ≤ daysInMonth date.year date.month := by
  simp [isValid, and_assoc]

/-- The rule of the Gregorian calendar. -/
theorem isLeapYear_iff (year : Int) :
    isLeapYear year = true ↔ year % 4 = 0 ∧ (year % 100 ≠ 0 ∨ year % 400 = 0) := by
  simp [isLeapYear]

theorem daysInMonth_pos (year : Int) (month : Nat) : 0 < daysInMonth year month := by
  unfold daysInMonth
  repeat' split
  all_goals decide

/-- A month other than February ends where the next month begins. -/
theorem daysInMonth_le {date : Civil} (h : 1 ≤ date.month ∧ date.month ≤ 12)
    (hFebruary : date.month ≠ 2) :
    (daysInMonth date.year date.month : Int) ≤
      daysBefore (date.marchMonth + 1) - daysBefore date.marchMonth := by
  obtain ⟨year, month, day⟩ := date
  obtain ⟨hFirst, hLast⟩ := h
  dsimp only at hFirst hLast hFebruary
  simp only [marchMonth, daysBefore]
  interval_cases month <;> simp [daysInMonth] at hFebruary ⊢

/-- The day of the year lies in the month of the date. February ends with the year, and only a leap
day is day 365. -/
theorem dayOfYear_bounds {date : Civil} (h : date.isValid = true) :
    daysBefore date.marchMonth ≤ date.dayOfYear ∧
      (date.marchMonth < 11 → date.dayOfYear < daysBefore (date.marchMonth + 1)) ∧
      date.dayOfYear ≤ 365 ∧
      (date.dayOfYear = 365 → isLeapYear (date.marchYear + 1) = true) := by
  obtain ⟨hFirst, hLast, hPos, hDay⟩ := (isValid_iff _).mp h
  by_cases hFebruary : date.month = 2
  · rw [hFebruary] at hDay
    simp only [dayOfYear, marchMonth, marchYear, daysBefore, hFebruary]
    cases hLeap : isLeapYear date.year <;> simp [daysInMonth, hLeap] at hDay ⊢ <;> omega
  · have hLength := daysInMonth_le ⟨hFirst, hLast⟩ hFebruary
    simp only [dayOfYear, marchMonth, daysBefore] at hLength ⊢
    exact ⟨by omega, fun _ => by omega, by omega, fun hLeap => by omega⟩

/-- Months count on through years that begin in March. -/
theorem monthIndex_eq {date : Civil} (h : date.isValid = true) :
    date.monthIndex = 12 * date.marchYear + date.marchMonth + 2 := by
  obtain ⟨hFirst, hLast, -⟩ := (isValid_iff _).mp h
  simp only [monthIndex, marchYear, marchMonth]
  omega

theorem daysBeforeYear_mono {y z : Int} (h : y ≤ z) : daysBeforeYear y ≤ daysBeforeYear z := by
  simp only [daysBeforeYear]
  omega

/-- A year has a day more if the next calendar year is a leap year. -/
theorem daysBeforeYear_succ (year : Int) :
    daysBeforeYear (year + 1) =
      daysBeforeYear year + if isLeapYear (year + 1) = true then 366 else 365 := by
  simp only [daysBeforeYear, isLeapYear_iff]
  split <;> omega

theorem daysBefore_mono {m n : Int} (h : m ≤ n) : daysBefore m ≤ daysBefore n := by
  simp only [daysBefore]
  omega

/-- A valid date lies in its year. -/
theorem dayOfYear_lt {date : Civil} (h : date.isValid = true) :
    daysBeforeYear date.marchYear + date.dayOfYear < daysBeforeYear (date.marchYear + 1) := by
  obtain ⟨-, -, hMost, hLeap⟩ := dayOfYear_bounds h
  rw [daysBeforeYear_succ]
  by_cases hLast : date.dayOfYear = 365
  · rw [if_pos (hLeap hLast)]
    omega
  · split <;> omega

theorem dayOfYear_nonneg {date : Civil} (h : date.isValid = true) : 0 ≤ date.dayOfYear := by
  have hMonth : 0 ≤ date.marchMonth := by simp only [marchMonth]; omega
  have hFirst := daysBefore_mono hMonth
  have hBounds := (dayOfYear_bounds h).1
  simp only [daysBefore] at hFirst hBounds
  omega

/-- Dates of later months have later days. -/
theorem toDay_lt_of_monthIndex_lt {a b : Civil} (ha : a.isValid = true) (hb : b.isValid = true)
    (h : a.monthIndex < b.monthIndex) : a.toDay < b.toDay := by
  rw [monthIndex_eq ha, monthIndex_eq hb] at h
  have hMonthA : 0 ≤ a.marchMonth ∧ a.marchMonth < 12 := by
    simp only [marchMonth]
    omega
  have hMonthB : 0 ≤ b.marchMonth ∧ b.marchMonth < 12 := by
    simp only [marchMonth]
    omega
  rw [toDay_eq, toDay_eq]
  by_cases hYear : a.marchYear < b.marchYear
  · have hMono := daysBeforeYear_mono (show a.marchYear + 1 ≤ b.marchYear from hYear)
    have hEnd := dayOfYear_lt ha
    have hStart := dayOfYear_nonneg hb
    omega
  · have hSame : a.marchYear = b.marchYear := by omega
    have hMono := daysBefore_mono (show a.marchMonth + 1 ≤ b.marchMonth by omega)
    have hEnd := (dayOfYear_bounds ha).2.1 (by omega)
    have hStart := (dayOfYear_bounds hb).1
    rw [hSame]
    omega

/-- Within a month the days are counted one by one. -/
theorem toDay_sub_of_monthIndex_eq {a b : Civil} (ha : a.isValid = true) (hb : b.isValid = true)
    (h : a.monthIndex = b.monthIndex) :
    a.year = b.year ∧ a.month = b.month ∧ b.toDay - a.toDay = (b.day : Int) - a.day := by
  obtain ⟨hFirst, hLast, -⟩ := (isValid_iff _).mp ha
  obtain ⟨hFirst', hLast', -⟩ := (isValid_iff _).mp hb
  simp only [monthIndex] at h
  have hMonth : a.month = b.month := by omega
  have hYear : a.year = b.year := by omega
  refine ⟨hYear, hMonth, ?_⟩
  rw [toDay_eq, toDay_eq]
  simp only [dayOfYear, marchYear, marchMonth, hMonth, hYear]
  omega

/-- A day has one date at most. -/
theorem eq_of_toDay_eq {a b : Civil} (ha : a.isValid = true) (hb : b.isValid = true)
    (h : a.toDay = b.toDay) : a = b := by
  rcases lt_trichotomy a.monthIndex b.monthIndex with hLt | hSame | hGt
  · have hDays := toDay_lt_of_monthIndex_lt ha hb hLt
    omega
  · obtain ⟨hYear, hMonth, hDay⟩ := toDay_sub_of_monthIndex_eq ha hb hSame
    cases a
    cases b
    simp only [Civil.mk.injEq]
    exact ⟨hYear, hMonth, by simp only at hDay; omega⟩
  · have hDays := toDay_lt_of_monthIndex_lt hb ha hGt
    omega

/-! The date of a day. The day is counted in years that begin in March, four hundred of which have
always the same length. -/

/-- A day of four hundred years lies in one of them. -/
theorem exists_year_of_cycle {n : Int} (h : 0 ≤ n) (h' : n < 146097) :
    ∃ year day : Int, 0 ≤ year ∧ year < 400 ∧ 0 ≤ day ∧ day ≤ 365 ∧
      (day = 365 → (year + 1) % 4 = 0 ∧ ((year + 1) % 100 = 0 → year = 399)) ∧
      n = 365 * year + year / 4 - year / 100 + day := by
  let century := min (n / 36524) 3
  let inCentury := n - 36524 * century
  let four := inCentury / 1461
  let inFour := inCentury - 1461 * four
  let single := min (inFour / 365) 3
  refine ⟨100 * century + 4 * four + single, inFour - 365 * single, ?_⟩
  have hInCentury : 0 ≤ inCentury ∧ inCentury ≤ 36524 ∧ (inCentury = 36524 → century = 3) := by
    omega
  have hInFour : 0 ≤ inFour ∧ inFour ≤ 1460 ∧
      (four = 24 → inFour = 1460 → century = 3) := by omega
  have hDay : 0 ≤ inFour - 365 * single ∧ inFour - 365 * single ≤ 365 ∧
      (inFour - 365 * single = 365 → single = 3 ∧ inFour = 1460) := by omega
  have hParts : 0 ≤ century ∧ century ≤ 3 ∧ 0 ≤ four ∧ four ≤ 24 ∧ 0 ≤ single ∧ single ≤ 3 := by
    omega
  have hSum : n = 36524 * century + 1461 * four + inFour := by omega
  clear_value century inCentury four inFour single
  have hFours : (100 * century + 4 * four + single) / 4 = 25 * century + four := by omega
  have hCenturies : (100 * century + 4 * four + single) / 100 = century := by omega
  exact ⟨by omega, by omega, hDay.1, hDay.2.1, by omega, by omega⟩

/-- The year of a day of four hundred years, as the calendar finds it. -/
theorem year_of_cycle {year day n : Int} (hYear : 0 ≤ year ∧ year < 400)
    (hDay : 0 ≤ day ∧ day ≤ 365)
    (hLeap : day = 365 → (year + 1) % 4 = 0 ∧ ((year + 1) % 100 = 0 → year = 399))
    (hSum : n = 365 * year + year / 4 - year / 100 + day) :
    (n - n / 1460 + n / 36524 - n / 146096) / 365 = year := by
  have hCentury : n / 36524 - n / 146096 = year / 100 := by
    by_cases hLast : year = 399 ∧ day = 365
    · omega
    · have hFour : n / 146096 = 0 := by omega
      have hBelow : n < 36524 * (year / 100 + 1) := by omega
      omega
  have hUpper : n / 1460 ≤ year / 4 + day := by omega
  have hLower : year / 4 + day - 364 ≤ n / 1460 := by
    by_cases hLast : day = 365
    · omega
    · omega
  omega

/-- The month of a day of the year, as the calendar finds it. -/
theorem month_of_year {day : Int} (hDay : 0 ≤ day ∧ day ≤ 365) :
    let month := (5 * day + 2) / 153
    0 ≤ month ∧ month < 12 ∧ daysBefore month ≤ day ∧
      (month < 11 → day < daysBefore (month + 1)) := by
  simp only [daysBefore]
  omega

theorem daysBeforeYear_cycle {cycle year : Int} (h : 0 ≤ year ∧ year < 400) :
    daysBeforeYear (cycle * 400 + year) =
      cycle * 146097 + (365 * year + year / 4 - year / 100) := by
  have hFours : (cycle * 400 + year) / 4 = cycle * 100 + year / 4 := by omega
  have hCenturies : (cycle * 400 + year) / 100 = cycle * 4 + year / 100 := by omega
  have hCycles : (cycle * 400 + year) / 400 = cycle := by omega
  rw [daysBeforeYear, hFours, hCenturies, hCycles]
  omega

/-- The date with so many days gone of a month, months and years being counted from March. -/
def ofMarch (year month day : Int) : Civil :=
  let calendarMonth := if month < 10 then month + 3 else month - 9
  ⟨year + (if calendarMonth ≤ 2 then 1 else 0), calendarMonth.toNat, (day + 1).toNat⟩

/-- The date of a day is that of some day of a year that begins in March. -/
theorem exists_ofDay_eq (n : Int) : ∃ year day : Int, (0 ≤ day ∧ day ≤ 365) ∧
    (day = 365 → isLeapYear (year + 1) = true) ∧ n = daysBeforeYear year + day - 719468 ∧
    Civil.ofDay n =
      ofMarch year ((5 * day + 2) / 153) (day - daysBefore ((5 * day + 2) / 153)) := by
  obtain ⟨year, day, hYear, hYear', hDay, hDay', hLeap, hSum⟩ :=
    exists_year_of_cycle (n := (n + 719468) % 146097) (by omega) (by omega)
  have hFound := year_of_cycle ⟨hYear, hYear'⟩ ⟨hDay, hDay'⟩ hLeap hSum
  refine ⟨(n + 719468) / 146097 * 400 + year, day, ⟨hDay, hDay'⟩, ?_, ?_, ?_⟩
  · intro hLast
    obtain ⟨hFours, hCenturies⟩ := hLeap hLast
    rw [isLeapYear_iff]
    omega
  · rw [daysBeforeYear_cycle ⟨hYear, hYear'⟩]
    omega
  · have hInYear : (n + 719468) % 146097 - (365 * year + year / 4 - year / 100) = day := by omega
    simp only [Civil.ofDay, hFound, hInYear, ofMarch]

section March

variable {year month day : Int} (hMonth : 0 ≤ month ∧ month < 12)

include hMonth

theorem marchYear_ofMarch : (ofMarch year month day).marchYear = year := by
  simp only [marchYear, ofMarch]
  omega

theorem marchMonth_ofMarch : (ofMarch year month day).marchMonth = month := by
  simp only [marchMonth, ofMarch]
  omega

theorem dayOfYear_ofMarch (hDay : 0 ≤ day) :
    (ofMarch year month day).dayOfYear = daysBefore month + day := by
  rw [dayOfYear, marchMonth_ofMarch hMonth]
  simp only [ofMarch]
  omega

theorem isValid_ofMarch (hDay : 0 ≤ day)
    (hEnd : month < 11 → daysBefore month + day < daysBefore (month + 1))
    (hMost : daysBefore month + day ≤ 365)
    (hLeap : daysBefore month + day = 365 → isLeapYear (year + 1) = true) :
    (ofMarch year month day).isValid = true := by
  obtain ⟨hLeast, hGreatest⟩ := hMonth
  rw [isValid_iff]
  simp only [ofMarch, daysBefore] at hEnd hMost hLeap ⊢
  refine ⟨by omega, by omega, by omega, ?_⟩
  by_cases hFebruary : month = 11
  · subst hFebruary
    cases hYear : isLeapYear (year + 1) <;> simp [daysInMonth, hYear] at hLeap ⊢ <;> omega
  · interval_cases month <;> simp [daysInMonth] at hEnd ⊢ <;> omega

end March

/-- The date of a day is a date of the calendar. -/
theorem isValid_ofDay (n : Int) : (Civil.ofDay n).isValid = true := by
  obtain ⟨year, day, hDay, hLeap, -, hDate⟩ := exists_ofDay_eq n
  obtain ⟨hMonth, hMonth', hStart, hEnd⟩ := month_of_year hDay
  rw [hDate]
  apply isValid_ofMarch ⟨hMonth, hMonth'⟩ (by omega)
  · rwa [add_sub_cancel]
  · rw [add_sub_cancel]
    exact hDay.2
  · rwa [add_sub_cancel]

/-- Every day has a date. -/
theorem toDay_ofDay (n : Int) : (Civil.ofDay n).toDay = n := by
  obtain ⟨year, day, hDay, -, hSum, hDate⟩ := exists_ofDay_eq n
  obtain ⟨hMonth, hMonth', hStart, -⟩ := month_of_year hDay
  rw [hDate, toDay_eq, marchYear_ofMarch ⟨hMonth, hMonth'⟩,
    dayOfYear_ofMarch ⟨hMonth, hMonth'⟩ (by omega), add_sub_cancel, ← hSum]

/-- A valid date comes back from its day number. -/
theorem ofDay_toDay {date : Civil} (h : date.isValid = true) : Civil.ofDay date.toDay = date :=
  eq_of_toDay_eq (isValid_ofDay _) h (toDay_ofDay _)

end RowFormula.Time.Civil
