import RowFormula.Formula.Function.Apply
import RowFormula.Proofs.Number.Integer
import RowFormula.Proofs.Time.Elapsed
import RowFormula.Proofs.Time.Months

/-! Adding units to dates and counting the units between dates. In units of the calendar the count
is that of the steps that do not pass the second date; in units of fixed length it undoes the
addition. -/
namespace RowFormula.DateFunction

open Time (Instant TimeUnit Span)

/-- A date with a whole number of units added to it. -/
def added (now start : Instant) (count : Int) (name : String) : Outcome Value :=
  Function.call now (.date .dateAdd) [.date start, .number (Number.ofInt count), .text name]

/-- The whole units from `start` to `finish`. -/
def difference (now finish start : Instant) (name : String) : Outcome Value :=
  Function.call now (.date .dateDiff) [.date finish, .date start, .text name]

section Calls

variable {unit : TimeUnit} {name : String} (hName : TimeUnit.ofName? name = some unit)
  (now start finish : Instant) (count : Int)

include hName

/-- The difference is the number of whole units between the dates. -/
theorem difference_eq :
    difference now finish start name = .ok (.number (unitsBetween finish start unit)) := by
  have hUnit : unitOr .seconds [.date finish, .date start, .text name] 2 = .ok unit := by
    simp [unitOr, Argument.text, Value.toText, hName]
  change apply now .dateDiff _ = _
  rw [apply, hUnit]
  rfl

/-- A date with a count added is the date that is shifted by it, if there is such a date. -/
theorem added_eq : added now start count name =
    match shift? start (Number.ofInt count) unit with
    | some shifted => .ok (.date shifted)
    | none => .error .wrongType := by
  have hUnit : unitOr .days [.date start, .number (Number.ofInt count), .text name] 2 =
      .ok unit := by
    simp [unitOr, Argument.text, Value.toText, hName]
  have hCount : Argument.number [.date start, .number (Number.ofInt count), .text name] 1 =
      .ok (Number.ofInt count) := by
    simp [Argument.number, Argument.toNumber, Value.number?, Number.isNaN_ofInt]
  change apply now .dateAdd _ = _
  rw [apply, hUnit, hCount]
  rfl

theorem added_eq_ok_iff {later : Instant} :
    added now start count name = .ok (.date later) ↔
      shift? start (Number.ofInt count) unit = some later := by
  rw [added_eq hName]
  cases shift? start (Number.ofInt count) unit <;> simp

end Calls

section Calendar

variable {unit : TimeUnit} {size : Nat} (hSpan : unit.span = .months size)

include hSpan

/-- A unit of months has at least one month. -/
theorem size_pos : 0 < size := by
  cases unit <;> cases hSpan <;> decide

/-- Counts of units that can be added are few. -/
theorem natAbs_lt_exactLimit {start shifted : Instant} {count : Int}
    (h : start.addMonths? (count * size) = some shifted) : count.natAbs < Number.exactLimit := by
  have hFew := Instant.natAbs_lt_of_addMonths? h
  rw [Int.natAbs_mul, Int.natAbs_natCast] at hFew
  exact (Nat.le_mul_of_pos_right count.natAbs (size_pos hSpan)).trans_lt hFew

/-- Units of the calendar are months. Counts that are no longer whole doubles are far too many. -/
theorem shift?_ofInt (start : Instant) (count : Int) :
    shift? start (Number.ofInt count) unit = start.addMonths? (count * size) := by
  have hMany {n : Int} (h : Number.exactLimit ≤ n.natAbs) : start.addMonths? (n * size) = none :=
    Option.eq_none_iff_forall_ne_some.mpr fun shifted hShifted =>
      (natAbs_lt_exactLimit hSpan hShifted).not_ge h
  simp only [shift?, hSpan]
  rcases le_total count.natAbs Number.exactLimit with hExact | hLarge
  · rw [(Number.holds_ofInt hExact).toInt64_eq hExact]
  · rw [hMany hLarge, hMany (Number.exactLimit_le_toInt64 hLarge)]

theorem unitsBetween_eq (finish start : Instant) :
    unitsBetween finish start unit = Number.ofInt ((start.monthsUntil finish).tdiv size) := by
  simp only [unitsBetween, hSpan]

theorem addMonths?_of_added {name : String} (hName : TimeUnit.ofName? name = some unit)
    {now start later : Instant} {count : Int}
    (h : added now start count name = .ok (.date later)) :
    start.addMonths? (count * size) = some later ∧ count.natAbs ≤ Number.exactLimit := by
  rw [added_eq_ok_iff hName, shift?_ofInt hSpan] at h
  exact ⟨h, (natAbs_lt_exactLimit hSpan h).le⟩

end Calendar

/-- The counts of units that lead from `start` to a date not after `finish`. -/
def countsUpTo (now start finish : Instant) (name : String) : Set Int :=
  {count | 0 ≤ count ∧ ∃ shifted, added now start count name = .ok (.date shifted) ∧
    finish.isBefore shifted = false}

/-- The counts of units that lead back from `start` to a date not before `finish`. -/
def countsBackTo (now start finish : Instant) (name : String) : Set Int :=
  {count | count ≤ 0 ∧ ∃ shifted, added now start count name = .ok (.date shifted) ∧
    shifted.isBefore finish = false}

theorem le_tdiv_iff {m n : Int} (h : 0 ≤ m) (hPos : 0 < n) (count : Int) :
    count ≤ m.tdiv n ↔ count * n ≤ m := by
  rw [Int.tdiv_eq_ediv_of_nonneg h, Int.le_ediv_iff_mul_le hPos]

theorem tdiv_le_iff {m n : Int} (h : m ≤ 0) (hPos : 0 < n) (count : Int) :
    m.tdiv n ≤ count ↔ m ≤ count * n := by
  rw [← neg_le_neg_iff, ← Int.neg_tdiv, le_tdiv_iff (by omega) hPos, neg_mul, neg_le_neg_iff]

section Steps

variable {unit : TimeUnit} {size : Nat} (hSpan : unit.span = .months size) {name : String}
  (hName : TimeUnit.ofName? name = some unit) (now : Instant) {start finish : Instant}

include hSpan hName

/-- Up to a later date the units are the most that can be added without passing it. -/
theorem isGreatest_countsUpTo (h : finish.isBefore start = false) :
    IsGreatest (countsUpTo now start finish name) ((start.monthsUntil finish).tdiv size) := by
  have hSize : (0 : Int) < size := Nat.cast_pos.mpr (size_pos hSpan)
  have hBetween := (start.monthsUntil_between finish).1 (Instant.monthsApart_nonneg h)
  have hCount := le_tdiv_iff hBetween.1 hSize
  simp only [countsUpTo, added_eq_ok_iff hName, shift?_ofInt hSpan]
  constructor
  · have hNonneg := (hCount _).mpr ((zero_mul (size : Int)).trans_le hBetween.1)
    have hWhole := (hCount _).mp le_rfl
    obtain ⟨shifted, hShifted⟩ := Instant.exists_addMonths?_of_between
      (Or.inl ⟨Int.mul_nonneg hNonneg hSize.le, hWhole.trans hBetween.2⟩)
    exact ⟨hNonneg, shifted, hShifted, (Instant.le_monthsUntil_iff h hShifted).mp hWhole⟩
  · rintro count ⟨-, shifted, hShifted, hWithin⟩
    exact (hCount _).mpr ((Instant.le_monthsUntil_iff h hShifted).mpr hWithin)

/-- Back to an earlier date they are the most that can be taken away without passing it. -/
theorem isLeast_countsBackTo (h : finish.isBefore start = true) :
    IsLeast (countsBackTo now start finish name) ((start.monthsUntil finish).tdiv size) := by
  have hSize : (0 : Int) < size := Nat.cast_pos.mpr (size_pos hSpan)
  have hBetween := (start.monthsUntil_between finish).2 (Instant.monthsApart_nonpos h)
  have hCount := tdiv_le_iff hBetween.2 hSize
  simp only [countsBackTo, added_eq_ok_iff hName, shift?_ofInt hSpan]
  constructor
  · have hNonpos := (hCount _).mpr (hBetween.2.trans_eq (zero_mul (size : Int)).symm)
    have hWhole := (hCount _).mp le_rfl
    obtain ⟨shifted, hShifted⟩ := Instant.exists_addMonths?_of_between
      (Or.inr ⟨hBetween.1.trans hWhole, Int.mul_nonpos_of_nonpos_of_nonneg hNonpos hSize.le⟩)
    exact ⟨hNonpos, shifted, hShifted, (Instant.monthsUntil_le_iff h hShifted).mp hWhole⟩
  · rintro count ⟨-, shifted, hShifted, hWithin⟩
    exact (hCount _).mpr ((Instant.monthsUntil_le_iff h hShifted).mpr hWithin)

/-- The difference in units of the calendar is the whole steps of the addition. Up to a later date
they are the most that do not pass it, and so they are back to an earlier one. What was added is the
difference again. -/
theorem difference_counts_steps (start finish : Instant) :
    (∃ count : Int, count.natAbs ≤ Number.exactLimit ∧
      difference now finish start name = .ok (.number (Number.ofInt count)) ∧
      (finish.isBefore start = false → IsGreatest (countsUpTo now start finish name) count) ∧
      (finish.isBefore start = true → IsLeast (countsBackTo now start finish name) count)) ∧
    ∀ (count : Int) (later : Instant), added now start count name = .ok (.date later) →
      difference now later start name = .ok (.number (Number.ofInt count)) := by
  refine ⟨⟨(start.monthsUntil finish).tdiv size, ?_, ?_, isGreatest_countsUpTo hSpan hName now,
    isLeast_countsBackTo hSpan hName now⟩, fun count later h => ?_⟩
  · cases hOrder : finish.isBefore start with
    | false =>
        obtain ⟨-, _, hAdded, -⟩ := (isGreatest_countsUpTo hSpan hName now hOrder).1
        exact (addMonths?_of_added hSpan hName hAdded).2
    | true =>
        obtain ⟨-, _, hAdded, -⟩ := (isLeast_countsBackTo hSpan hName now hOrder).1
        exact (addMonths?_of_added hSpan hName hAdded).2
  · rw [difference_eq hName, unitsBetween_eq hSpan]
  · have hMonths := Instant.monthsUntil_of_addMonths? (addMonths?_of_added hSpan hName h).1
    have hSize : (size : Int) ≠ 0 := Nat.cast_ne_zero.mpr (size_pos hSpan).ne'
    rw [difference_eq hName, unitsBetween_eq hSpan, hMonths, Int.mul_tdiv_cancel _ hSize]

end Steps

/-- A month after the last of January is the last of February. -/
theorem difference_counts_steps_february :
    let january : Instant := ⟨19753, 0, 0, by decide, by decide, by decide, by decide, by decide⟩
    let february : Instant := ⟨19782, 0, 0, by decide, by decide, by decide, by decide, by decide⟩
    difference .epoch february january "M" = .ok (.number (Number.ofInt 1)) ∧
      ∃ count : Int, count.natAbs ≤ Number.exactLimit ∧
        difference .epoch january february "M" = .ok (.number (Number.ofInt count)) ∧
        IsLeast (countsBackTo .epoch february january "M") count := by
  intro january february
  have hName : TimeUnit.ofName? "M" = some .months := by decide +kernel
  have hAdded : added .epoch january 1 "M" = .ok (.date february) :=
    (added_eq_ok_iff hName _ _ _).mpr ((shift?_ofInt rfl january 1).trans (by decide +kernel))
  obtain ⟨count, hExact, hCount, -, hLeast⟩ :=
    (difference_counts_steps rfl hName .epoch february january).1
  exact ⟨(difference_counts_steps rfl hName .epoch january february).2 1 february hAdded,
    count, hExact, hCount, hLeast (by decide)⟩

theorem place?_maxShift : ∃ p, Number.place? maxShift = some p ∧ 1077 * 2 ^ 52 ≤ p :=
  ⟨_, rfl, by decide +kernel⟩

section Fixed

variable {unit : TimeUnit} {length : Nat} (hSpan : unit.span = .millis length)

include hSpan

theorem length_bounds : 0 < (length : Int) ∧ (length : Int).natAbs ≤ Number.exactLimit := by
  cases unit <;> cases hSpan <;> decide

variable {count : Int} (hCount : (count * length).natAbs ≤ Number.exactLimit)

include hCount

/-- Counts of milliseconds that are exact are no too long shifts. -/
theorem shift?_ofInt_of_exact (start : Instant) :
    shift? start (Number.ofInt count) unit = start.addNanos? (count * length * 1000000) := by
  obtain ⟨hPos, hLength⟩ := length_bounds hSpan
  obtain ⟨p, hPlace, hBound⟩ := place?_maxShift
  have hHolds := Number.holds_ofInt hCount
  simp only [shift?, hSpan]
  rw [Number.ofInt_mul hPos hLength hCount, hHolds.round_truncate, hHolds.toInt64_eq hCount,
    if_pos (Number.abs_ofInt_lt hCount hPlace hBound)]

theorem unitsBetween_of_nanosSince {start finish : Instant}
    (h : finish.nanosSince start = count * length * 1000000) :
    unitsBetween finish start unit = Number.ofInt count := by
  obtain ⟨hPos, hLength⟩ := length_bounds hSpan
  have hHolds := Number.holds_ofInt (Number.natAbs_le_of_mul hPos hCount)
  simp only [unitsBetween, hSpan]
  rw [Instant.millisSince, h, Int.mul_tdiv_cancel _ (by decide),
    Number.ofInt_div hPos hLength hCount, hHolds.round_truncate]

/-- The difference in units of fixed length undoes the addition, in both directions and without
regard to what is below a millisecond. -/
theorem difference_undoes_addition {name : String} (hName : TimeUnit.ofName? name = some unit)
    {now start later : Instant} (hOutside : start.inLeapSecond = false)
    (h : added now start count name = .ok (.date later)) :
    difference now later start name = .ok (.number (Number.ofInt count)) ∧
      difference now start later name = .ok (.number (Number.ofInt (-count))) := by
  rw [added_eq_ok_iff hName, shift?_ofInt_of_exact hSpan hCount] at h
  obtain ⟨hLater, hEarlier⟩ := Instant.nanosSince_of_addNanos? hOutside h
  have hNegated : (-count * length).natAbs ≤ Number.exactLimit := by
    rwa [neg_mul, Int.natAbs_neg]
  rw [difference_eq hName, difference_eq hName,
    unitsBetween_of_nanosSince hSpan hCount hLater,
    unitsBetween_of_nanosSince hSpan hNegated (by rw [hEarlier, neg_mul, neg_mul])]
  exact ⟨rfl, rfl⟩

end Fixed

/-- An hour back from shortly after the epoch. What is below a millisecond stays. -/
theorem difference_undoes_addition_hour :
    let start : Instant := ⟨0, 0, 999999, by decide, by decide, by decide, by decide, by decide⟩
    let earlier : Instant :=
      ⟨-1, 82800, 999999, by decide, by decide, by decide, by decide, by decide⟩
    added .epoch start (-1) "hours" = .ok (.date earlier) ∧
      difference .epoch earlier start "hours" = .ok (.number (Number.ofInt (-1))) ∧
      difference .epoch start earlier "hours" = .ok (.number (Number.ofInt 1)) := by
  intro start earlier
  have hName : TimeUnit.ofName? "hours" = some .hours := by decide +kernel
  have hCount : ((-1 : Int) * (3600000 : Nat)).natAbs ≤ Number.exactLimit := by decide
  have hAdded : added .epoch start (-1) "hours" = .ok (.date earlier) :=
    (added_eq_ok_iff hName _ _ _).mpr
      ((shift?_ofInt_of_exact rfl hCount start).trans (by decide +kernel))
  exact ⟨hAdded, difference_undoes_addition rfl hCount hName (by decide) hAdded⟩

end RowFormula.DateFunction
