import RowFormula.Proofs.Formula.Comparison
import RowFormula.Proofs.Number.Integer
import RowFormula.Proofs.Time.Elapsed
import RowFormula.Proofs.Time.Writing

/-! Dates beside numbers. A date outside leap seconds is read as the whole milliseconds since the
epoch, and no such count is too great to be a double. So the number is read as the date again, cut
to whole milliseconds, and a date is compared with a number as with the date that the number stands
for. -/
namespace RowFormula

namespace Time.Instant

/-- What is below a millisecond is dropped downward, also before the epoch. -/
theorem epochMillis_eq (t : Instant) : t.epochMillis = t.epochNanos / 1000000 := by
  simp only [epochMillis, epochNanos, millis, nanosPerSecond]
  omega

/-- From the first day to the last there are fewer milliseconds than integers that are doubles. -/
theorem natAbs_epochMillis_le (t : Instant) : t.epochMillis.natAbs ≤ Number.exactLimit := by
  have hFirst := t.firstDay_le
  have hLast := t.le_lastDay
  have hSecond := t.second_lt
  have hNanos := t.nanos_lt
  simp only [firstDay, lastDay, nanosPerSecond] at hFirst hLast hNanos
  simp only [epochMillis, epochSecond, millis, Number.exactLimit]
  omega

/-- The milliseconds of every instant are a double exactly. -/
theorem holds_epochMillis (t : Instant) :
    Number.Holds (Number.ofInt t.epochMillis) t.epochMillis :=
  Number.holds_ofInt t.natAbs_epochMillis_le

/-- The instant of a count is the one that was counted, without what the count leaves out. -/
theorem ofEpochMillis?_epochMillis {t : Instant} (h : t.inLeapSecond = false) :
    ofEpochMillis? t.epochMillis = some t.cutToMillis := by
  rw [inLeapSecond_eq_false_iff] at h
  have hSecond := t.second_lt
  have hMillis : t.millis < 1000 := by
    simp only [millis, nanosPerSecond] at h ⊢
    omega
  have hWhole : t.epochMillis / 1000 = t.epochSecond := by
    simp only [epochMillis]
    omega
  have hRest : (t.epochMillis % 1000).toNat = t.millis := by
    simp only [epochMillis]
    omega
  have hDay : t.epochSecond / 86400 = t.day := by
    simp only [epochSecond]
    omega
  have hInDay : (t.epochSecond % 86400).toNat = t.second := by
    simp only [epochSecond]
    omega
  rw [ofEpochMillis?, ofEpochSecond?, hWhole, hRest, hDay, hInDay]
  exact make?_parts t.cutToMillis

theorem cutToMillis_eq_self_iff (t : Instant) : t.cutToMillis = t ↔ t.nanos % 1000000 = 0 := by
  obtain ⟨day, second, nanos⟩ := t
  simp only [cutToMillis, mk.injEq, true_and]
  omega

/-- The count of an earlier instant is smaller, if there is nothing below its milliseconds. -/
theorem epochMillis_lt_of_isBefore {s t : Instant} (hs : s.inLeapSecond = false)
    (hCut : t.cutToMillis = t) (h : s.isBefore t = true) : s.epochMillis < t.epochMillis := by
  rw [inLeapSecond_eq_false_iff] at hs
  rw [cutToMillis_eq_self_iff] at hCut
  rw [isBefore_iff] at h
  have hSecond := s.second_lt
  simp only [epochMillis, epochSecond, millis, nanosPerSecond] at hs ⊢
  omega

/-- Only an instant itself is neither before nor after it. -/
theorem order_eq_iff (s t : Instant) : order s t = .eq ↔ s = t := by
  cases s
  cases t
  simp only [order, Ordering.then_eq_eq, Int.compare_eq_eq, Nat.compare_eq_eq, mk.injEq]

/-- Whole milliseconds are ordered as their counts. -/
theorem order_eq_compare {s t : Instant} (hs : s.inLeapSecond = false)
    (ht : t.inLeapSecond = false) (hCutS : s.cutToMillis = s) (hCutT : t.cutToMillis = t) :
    order s t = compare s.epochMillis t.epochMillis := by
  cases hOrder : order s t with
  | lt =>
      have hBefore : s.isBefore t = true := decide_eq_true hOrder
      exact (Int.compare_eq_lt.mpr (epochMillis_lt_of_isBefore hs hCutT hBefore)).symm
  | eq => rw [(order_eq_iff s t).mp hOrder, Int.compare_eq_eq.mpr rfl]
  | gt =>
      have hAfter : t.isBefore s = true := decide_eq_true (by rw [← order_swap, hOrder]; rfl)
      exact (Int.compare_eq_gt.mpr (epochMillis_lt_of_isBefore ht hCutS hAfter)).symm

end Time.Instant

namespace Value

open Time (Instant)

theorem number?_date (t : Instant) : (date t).number? = some (Number.ofInt t.epochMillis) := rfl

theorem number?_ofInt (n : Int) : (number (Number.ofInt n)).number? = some (Number.ofInt n) := by
  rw [number?, Number.isNaN_ofInt]
  rfl

/-- The order of two counts, each as a date or as a number. -/
theorem order?_epochMillis (s t : Instant) :
    order? (.date s) (.number (Number.ofInt t.epochMillis)) =
        some (compare s.epochMillis t.epochMillis) ∧
      order? (.number (Number.ofInt s.epochMillis)) (.date t) =
        some (compare s.epochMillis t.epochMillis) := by
  have hOrder := s.holds_epochMillis.order?_eq t.holds_epochMillis
  constructor
  all_goals
    rw [order?, number?_date, number?_ofInt]
    exact hOrder

end Value

open Time (Instant)

/-- Outside leap seconds a date is read as a number without rounding: as the milliseconds since the
epoch, what is below them dropped downward. That number is read as the date again, without what was
dropped. Where nothing is dropped, a date and its number compare alike with all others. -/
theorem epoch_millis_faithful {t : Instant} (h : t.inLeapSecond = false) :
    (Value.date t).number? = some (Number.ofInt t.epochMillis) ∧
    Number.Holds (Number.ofInt t.epochMillis) (t.epochNanos / 1000000) ∧
    instantOfMillis? (Number.ofInt t.epochMillis) = some t.cutToMillis ∧
    ∀ s : Instant, s.inLeapSecond = false → s.cutToMillis = s → t.cutToMillis = t → ∀ op,
      Value.compares op (.date s) (.number (Number.ofInt t.epochMillis)) =
        Value.compares op (.date s) (.date t) ∧
      Value.compares op (.number (Number.ofInt s.epochMillis)) (.date t) =
        Value.compares op (.date s) (.date t) := by
  refine ⟨rfl, t.epochMillis_eq ▸ t.holds_epochMillis, ?_, fun s hs hCutS hCutT op => ?_⟩
  · have hHolds := t.holds_epochMillis
    rw [instantOfMillis?, hHolds.isFinite_eq, if_pos rfl,
      hHolds.toInt64_eq t.natAbs_epochMillis_le, Instant.ofEpochMillis?_epochMillis h]
  · obtain ⟨hNumber, hNumber'⟩ := Value.order?_epochMillis s t
    have hDate : Value.order? (.date s) (.date t) = some (Instant.order s t) := rfl
    simp only [Value.compares, Value.isNull]
    rw [hNumber, hNumber', hDate, Instant.order_eq_compare hs h hCutS hCutT]
    exact ⟨rfl, rfl⟩

/-- The last nanosecond before the epoch belongs to the millisecond before it, which is before the
epoch as a date and as a number. -/
theorem epoch_millis_faithful_before_epoch :
    let last : Instant :=
      ⟨-1, 86399, 999999999, by decide, by decide, by decide, by decide, by decide⟩
    let cut : Instant :=
      ⟨-1, 86399, 999000000, by decide, by decide, by decide, by decide, by decide⟩
    (last.inLeapSecond = false ∧ cut.inLeapSecond = false ∧ cut.cutToMillis = cut) ∧
      Number.Holds (Number.ofInt last.epochMillis) (-1) ∧
      instantOfMillis? (Number.ofInt last.epochMillis) = some cut ∧
      Value.compares .less (.date cut) (.number (Number.ofInt Instant.epoch.epochMillis)) = true ∧
      Value.compares .less (.number (Number.ofInt cut.epochMillis)) (.date .epoch) = true := by
  intro last cut
  have hLast : last.inLeapSecond = false := by decide
  have hCut : cut.inLeapSecond = false := by decide
  have hWhole : cut.cutToMillis = cut := by decide
  obtain ⟨-, hHolds, hBack, -⟩ := epoch_millis_faithful hLast
  obtain ⟨-, -, -, hCompares⟩ := epoch_millis_faithful (t := .epoch) (by decide)
  obtain ⟨hNumber, hNumber'⟩ := hCompares cut hCut hWhole (by decide) .less
  exact ⟨⟨hLast, hCut, hWhole⟩, hHolds, hBack.trans (by decide), hNumber.trans (by decide),
    hNumber'.trans (by decide)⟩

end RowFormula
