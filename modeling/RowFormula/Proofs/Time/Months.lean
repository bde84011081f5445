import RowFormula.Proofs.Time.Civil

/-! Months between instants. Adding months leads into the month that is so many months away, at the
same time of day, and fails only outside the years that instants have. The months between two
instants are those that can be added without passing the second one. -/
namespace RowFormula.Time

namespace Civil

/-- Adding months to a valid date gives a valid one. -/
theorem isValid_addMonths {date : Civil} (h : date.isValid = true) (months : Int) :
    (date.addMonths months).isValid = true := by
  obtain ⟨-, -, hPos, -⟩ := (isValid_iff _).mp h
  have hLength := daysInMonth_pos ((date.year * 12 + ((date.month : Int) - 1) + months) / 12)
    (((date.year * 12 + ((date.month : Int) - 1) + months) % 12).toNat + 1)
  rw [isValid_iff]
  simp only [addMonths]
  exact ⟨by omega, by omega, by omega, min_le_right _ _⟩

/-- Adding months counts the months on. -/
theorem monthIndex_addMonths (date : Civil) (months : Int) :
    (date.addMonths months).monthIndex = date.monthIndex + months := by
  simp only [addMonths, monthIndex]
  omega

/-- The day stays where the month has it. -/
theorem addMonths_zero {date : Civil} (h : date.isValid = true) : date.addMonths 0 = date := by
  obtain ⟨hFirst, hLast, hPos, hDay⟩ := (isValid_iff _).mp h
  have hYear : (date.year * 12 + ((date.month : Int) - 1) + 0) / 12 = date.year := by omega
  have hMonth : ((date.year * 12 + ((date.month : Int) - 1) + 0) % 12).toNat + 1 = date.month := by
    omega
  rw [addMonths, hYear, hMonth, min_eq_left hDay]

theorem year_eq {date : Civil} (h : date.isValid = true) : date.year = date.monthIndex / 12 := by
  obtain ⟨hFirst, hLast, -⟩ := (isValid_iff _).mp h
  simp only [monthIndex]
  omega

theorem daysInMonth_le_thirtyOne (year : Int) (month : Nat) : daysInMonth year month ≤ 31 := by
  unfold daysInMonth
  repeat' split
  all_goals omega

/-- Instants have the days of whole years. -/
theorem day_bounds_iff {date : Civil} (h : date.isValid = true) :
    firstDay ≤ date.toDay ∧ date.toDay ≤ lastDay ↔
      -262143 ≤ date.year ∧ date.year ≤ 262142 := by
  have hFirst : (Civil.mk (-262143) 1 1).isValid = true := by decide
  have hLast : (Civil.mk 262142 12 31).isValid = true := by decide
  have hBelow := toDay_lt_of_monthIndex_lt h hFirst
  have hAbove := toDay_lt_of_monthIndex_lt hLast h
  have hAfterFirst := toDay_lt_of_monthIndex_lt hFirst h
  have hBeforeLast := toDay_lt_of_monthIndex_lt h hLast
  have hSameFirst := toDay_sub_of_monthIndex_eq hFirst h
  have hSameLast := toDay_sub_of_monthIndex_eq h hLast
  obtain ⟨hMonth, hMonth', hPos, hDay⟩ := (isValid_iff _).mp h
  have hLength := daysInMonth_le_thirtyOne date.year date.month
  rw [firstDay_eq] at hBelow hAfterFirst hSameFirst
  rw [lastDay_eq] at hAbove hBeforeLast hSameLast
  simp only [monthIndex] at *
  omega

end Civil

namespace Instant

theorem isValid_civil (t : Instant) : t.civil.isValid = true := Civil.isValid_ofDay _

theorem toDay_civil (t : Instant) : t.civil.toDay = t.day := Civil.toDay_ofDay _

/-- Instants are ordered by day, then second, then nanosecond. -/
theorem isBefore_iff (a b : Instant) :
    a.isBefore b = true ↔ a.day < b.day ∨ a.day = b.day ∧
      (a.second < b.second ∨ a.second = b.second ∧ a.nanos < b.nanos) := by
  simp only [isBefore, order, decide_eq_true_eq, Ordering.then_eq_lt, Int.compare_eq_lt,
    Nat.compare_eq_lt, Int.compare_eq_eq, Nat.compare_eq_eq]

theorem not_isBefore_self (t : Instant) : t.isBefore t = false := by
  rw [Bool.eq_false_iff, ne_eq, isBefore_iff]
  omega

theorem isBefore_asymm {a b : Instant} (h : a.isBefore b = true) : b.isBefore a = false := by
  rw [isBefore_iff] at h
  rw [Bool.eq_false_iff, ne_eq, isBefore_iff]
  omega

/-- What is in an earlier month is earlier. -/
theorem isBefore_of_monthIndex_lt {a b : Instant} (h : a.civil.monthIndex < b.civil.monthIndex) :
    a.isBefore b = true ∧ b.isBefore a = false := by
  have hDay := Civil.toDay_lt_of_monthIndex_lt a.isValid_civil b.isValid_civil h
  rw [toDay_civil, toDay_civil] at hDay
  have hBefore : a.isBefore b = true := (isBefore_iff a b).mpr (Or.inl hDay)
  exact ⟨hBefore, isBefore_asymm hBefore⟩

/-- An instant is made of its parts and of no others. -/
theorem make?_eq_some_iff {day : Int} {second nanos : Nat} {t : Instant} :
    make? day second nanos = some t ↔ t.day = day ∧ t.second = second ∧ t.nanos = nanos := by
  constructor
  · intro h
    unfold make? at h
    split at h
    · cases h
      exact ⟨rfl, rfl, rfl⟩
    · cases h
  · rintro ⟨rfl, rfl, rfl⟩
    exact make?_parts t

/-- Adding months leads to the date that many months later or earlier. -/
theorem civil_of_addMonths? {t shifted : Instant} {months : Int}
    (h : t.addMonths? months = some shifted) : shifted.civil = t.civil.addMonths months := by
  obtain ⟨hDay, -, -⟩ := make?_eq_some_iff.mp h
  rw [civil, hDay, Civil.ofDay_toDay (Civil.isValid_addMonths t.isValid_civil months)]

/-- A shift by months shifts the count of months. -/
theorem monthIndex_of_addMonths? {t shifted : Instant} {months : Int}
    (h : t.addMonths? months = some shifted) :
    shifted.civil.monthIndex = t.civil.monthIndex + months := by
  rw [civil_of_addMonths? h, Civil.monthIndex_addMonths]

/-- No months are no shift. -/
theorem addMonths?_zero (t : Instant) : t.addMonths? 0 = some t := by
  rw [addMonths?, Civil.addMonths_zero t.isValid_civil, toDay_civil, make?_parts]

/-- Adding months fails only outside the years that instants have. -/
theorem exists_addMonths?_iff (t : Instant) (months : Int) :
    (∃ shifted, t.addMonths? months = some shifted) ↔
      -262143 ≤ (t.civil.monthIndex + months) / 12 ∧
        (t.civil.monthIndex + months) / 12 ≤ 262142 := by
  have hValid := Civil.isValid_addMonths t.isValid_civil months
  rw [← Civil.monthIndex_addMonths, ← Civil.year_eq hValid, ← Civil.day_bounds_iff hValid]
  constructor
  · rintro ⟨shifted, hShifted⟩
    obtain ⟨hDay, -, -⟩ := make?_eq_some_iff.mp hShifted
    rw [← hDay]
    exact ⟨shifted.firstDay_le, shifted.le_lastDay⟩
  · rintro ⟨hFirst, hLast⟩
    exact ⟨⟨_, t.second, t.nanos, hFirst, hLast, t.second_lt, t.nanos_lt, t.leap⟩,
      make?_eq_some_iff.mpr ⟨rfl, rfl, rfl⟩⟩

theorem monthIndex_bounds (t : Instant) :
    -262143 ≤ t.civil.monthIndex / 12 ∧ t.civil.monthIndex / 12 ≤ 262142 := by
  simpa using (exists_addMonths?_iff t 0).mp ⟨t, addMonths?_zero t⟩

/-- The months from the month of one instant to that of another, whatever their days. -/
def monthsApart (start finish : Instant) : Int := finish.civil.monthIndex - start.civil.monthIndex

section Until

variable {start finish : Instant}

/-- Adding fewer months leads to an earlier month, adding more to a later one. -/
theorem isBefore_of_addMonths? {months : Int} {shifted : Instant}
    (h : start.addMonths? months = some shifted) (finish : Instant) :
    (months < start.monthsApart finish →
      shifted.isBefore finish = true ∧ finish.isBefore shifted = false) ∧
    (start.monthsApart finish < months →
      finish.isBefore shifted = true ∧ shifted.isBefore finish = false) := by
  have hIndex := monthIndex_of_addMonths? h
  unfold monthsApart
  exact ⟨fun hLess => isBefore_of_monthIndex_lt (by omega),
    fun hMore => isBefore_of_monthIndex_lt (by omega)⟩

/-- The month of the second instant can always be reached from the first one. -/
theorem exists_addMonths?_monthsApart (start finish : Instant) :
    ∃ shifted, start.addMonths? (start.monthsApart finish) = some shifted := by
  rw [exists_addMonths?_iff, monthsApart, add_sub_cancel]
  exact finish.monthIndex_bounds

/-- The months between two instants, cut toward zero where the last one has not fully passed. -/
theorem monthsUntil_eq {shifted : Instant}
    (h : start.addMonths? (start.monthsApart finish) = some shifted) :
    start.monthsUntil finish =
      if 0 < start.monthsApart finish ∧ finish.isBefore shifted = true then
        start.monthsApart finish - 1
      else if start.monthsApart finish < 0 ∧ shifted.isBefore finish = true then
        start.monthsApart finish + 1
      else start.monthsApart finish := by
  have hMonths : (finish.civil.year - start.civil.year) * 12 +
      ((finish.civil.month : Int) - start.civil.month) = start.monthsApart finish := by
    simp only [monthsApart, Civil.monthIndex]
    omega
  unfold monthsUntil
  dsimp only
  rw [hMonths, h]

/-- A later instant lies in no earlier month. -/
theorem monthsApart_nonneg (h : finish.isBefore start = false) : 0 ≤ start.monthsApart finish := by
  by_contra hNot
  have hBefore := ((isBefore_of_addMonths? start.addMonths?_zero finish).2
    (not_le.mp hNot)).1
  exact Bool.false_ne_true (h.symm.trans hBefore)

/-- An earlier instant lies in no later month. -/
theorem monthsApart_nonpos (h : finish.isBefore start = true) : start.monthsApart finish ≤ 0 := by
  by_contra hNot
  have hNotBefore := ((isBefore_of_addMonths? start.addMonths?_zero finish).1
    (not_le.mp hNot)).2
  exact Bool.false_ne_true (hNotBefore.symm.trans h)

theorem eq_of_monthsApart_zero {shifted : Instant} (h : start.monthsApart finish = 0)
    (hShifted : start.addMonths? (start.monthsApart finish) = some shifted) : shifted = start := by
  rw [h, addMonths?_zero] at hShifted
  exact (Option.some.inj hShifted).symm

/-- The months up to a later instant are those that can be added without passing it. -/
theorem le_monthsUntil_iff (h : finish.isBefore start = false) {months : Int} {shifted : Instant}
    (hShifted : start.addMonths? months = some shifted) :
    months ≤ start.monthsUntil finish ↔ finish.isBefore shifted = false := by
  obtain ⟨last, hLast⟩ := exists_addMonths?_monthsApart start finish
  have hNonneg := monthsApart_nonneg h
  have hUntil : start.monthsUntil finish =
      if finish.isBefore last = true then start.monthsApart finish - 1
      else start.monthsApart finish := by
    rw [monthsUntil_eq hLast]
    rcases hNonneg.eq_or_lt with hZero | hPos
    · rw [eq_of_monthsApart_zero hZero.symm hLast, h, ← hZero]
      rfl
    · simp only [hPos, true_and, not_lt.mpr hNonneg, false_and, if_false]
  obtain ⟨hLess, hMore⟩ := isBefore_of_addMonths? hShifted finish
  rw [hUntil]
  rcases lt_trichotomy months (start.monthsApart finish) with hLt | hSame | hGt
  · refine iff_of_true ?_ (hLess hLt).2
    split <;> omega
  · rw [← hSame, hShifted] at hLast
    cases hLast
    cases finish.isBefore shifted <;> simp [hSame]
  · refine iff_of_false ?_ (by simp [(hMore hGt).1])
    split <;> omega

/-- The months back to an earlier instant are those that can be taken away without passing it. -/
theorem monthsUntil_le_iff (h : finish.isBefore start = true) {months : Int} {shifted : Instant}
    (hShifted : start.addMonths? months = some shifted) :
    start.monthsUntil finish ≤ months ↔ shifted.isBefore finish = false := by
  obtain ⟨last, hLast⟩ := exists_addMonths?_monthsApart start finish
  have hNonpos := monthsApart_nonpos h
  have hUntil : start.monthsUntil finish =
      if last.isBefore finish = true then start.monthsApart finish + 1
      else start.monthsApart finish := by
    rw [monthsUntil_eq hLast]
    rcases hNonpos.eq_or_lt with hZero | hNeg
    · have hNot : start.isBefore finish = false := isBefore_asymm h
      rw [eq_of_monthsApart_zero hZero hLast, hNot, hZero]
      rfl
    · simp only [not_lt.mpr hNonpos, false_and, if_false, hNeg, true_and]
  obtain ⟨hLess, hMore⟩ := isBefore_of_addMonths? hShifted finish
  rw [hUntil]
  rcases lt_trichotomy months (start.monthsApart finish) with hLt | hSame | hGt
  · refine iff_of_false ?_ (by simp [(hLess hLt).1])
    split <;> omega
  · rw [← hSame, hShifted] at hLast
    cases hLast
    cases shifted.isBefore finish <;> simp [hSame]
  · refine iff_of_true ?_ (hMore hGt).2
    split <;> omega

/-- The months that were added have passed. -/
theorem monthsUntil_of_addMonths? {months : Int} (h : start.addMonths? months = some finish) :
    start.monthsUntil finish = months := by
  have hApart : start.monthsApart finish = months := by
    rw [monthsApart, monthIndex_of_addMonths? h, add_sub_cancel_left]
  rw [← hApart] at h
  simp [monthsUntil_eq h, not_isBefore_self, hApart]

/-- The months between two instants lie between none and those from month to month. -/
theorem monthsUntil_between (start finish : Instant) :
    (0 ≤ start.monthsApart finish → 0 ≤ start.monthsUntil finish ∧
      start.monthsUntil finish ≤ start.monthsApart finish) ∧
    (start.monthsApart finish ≤ 0 → start.monthsApart finish ≤ start.monthsUntil finish ∧
      start.monthsUntil finish ≤ 0) := by
  obtain ⟨last, hLast⟩ := exists_addMonths?_monthsApart start finish
  rw [monthsUntil_eq hLast]
  split
  · omega
  · split <;> omega

/-- All months from none up to the month of an instant can be added. -/
theorem exists_addMonths?_of_between {months : Int}
    (h : 0 ≤ months ∧ months ≤ start.monthsApart finish ∨
      start.monthsApart finish ≤ months ∧ months ≤ 0) :
    ∃ shifted, start.addMonths? months = some shifted := by
  have hStart := start.monthIndex_bounds
  have hFinish := finish.monthIndex_bounds
  rw [exists_addMonths?_iff]
  unfold monthsApart at h
  omega

end Until

/-- Months that can be added are few. -/
theorem natAbs_lt_of_addMonths? {t shifted : Instant} {months : Int}
    (h : t.addMonths? months = some shifted) : months.natAbs < 2 ^ 53 := by
  have hStart := t.monthIndex_bounds
  have hRange := (exists_addMonths?_iff t months).mp ⟨shifted, h⟩
  omega

end Instant

end RowFormula.Time
