import RowFormula.Formula.Function.Apply
import RowFormula.Proofs.Formula.StoredNumber
import RowFormula.Proofs.Time.Writing

/-! Computed dates that other formulas read. What a formula field stores is read as text, and so is
a date. The text is read as the date again, cut to whole milliseconds. -/
namespace RowFormula

open Time (Instant)

/-- A textual field reads a date as its standard form. -/
theorem Cell.readAs_date {type : FieldType} (h : type.isTextual = true) (t : Instant) :
    (Cell.date t).readAs type = .text t.iso := by
  simp only [FieldType.isTextual, Bool.not_eq_true', Bool.or_eq_false_iff] at h
  simp [readAs, h, toValue, Value.toText]

/-- A date written by a pattern. -/
def DateFunction.formatted (now t : Instant) (pattern : String) : Outcome Value :=
  Function.call now (.date .dateFormat) [.date t, .text pattern]

theorem DateFunction.formatted_eq (now t : Instant) (pattern : String) :
    formatted now t pattern = .ok (.text (t.format pattern)) := rfl

/-- Dates whose year has four digits read back. The standard form is read as the date, cut to whole
milliseconds, and so is what a field reads as text. A pattern can write the standard form, and what
patterns write that have all of its numbers is read as the same date. -/
theorem dates_read_back (now : Instant) {t : Instant}
    (hYear : 0 ≤ t.civil.year ∧ t.civil.year ≤ 9999) :
    Instant.read? t.iso = some t.cutToMillis ∧
    (∀ type : FieldType, type.isTextual = true →
      ((Cell.date t).readAs type).date? = some t.cutToMillis) ∧
    (t.inLeapSecond = false →
      DateFunction.formatted now t "YYYY-MM-DD[T]HH:mm:ss.SSS[Z]" = .ok (.text t.iso) ∧
      ∀ pattern ∈ ["YYYY-MM-DD HH:mm:ss.SSS", "YYYY-MM-DDTHH:mm:ss.SSS"],
        ∃ s, DateFunction.formatted now t pattern = .ok (.text s) ∧
          Instant.read? s = some t.cutToMillis) := by
  refine ⟨Instant.read?_iso hYear, fun type hType => ?_, fun hOutside => ⟨?_, ?_⟩⟩
  · rw [Cell.readAs_date hType]
    exact Instant.read?_iso hYear
  · have hPieces : Time.Pattern.pieces "YYYY-MM-DD[T]HH:mm:ss.SSS[Z]".toList =
        Time.Pattern.writtenPieces (.block ['T']) [.block ['Z']] := by decide +kernel
    rw [DateFunction.formatted_eq, Instant.format,
      Time.Pattern.formatChars_of_pieces hYear hOutside hPieces rfl, Instant.iso,
      Instant.isoChars_eq hYear]
    rfl
  · have hWritten {pattern : String} {c : Char} (hDivider : c = 'T' ∨ c = ' ')
        (hPieces : Time.Pattern.pieces pattern.toList =
          Time.Pattern.writtenPieces (.literal c) []) :
        ∃ s, DateFunction.formatted now t pattern = .ok (.text s) ∧
          Instant.read? s = some t.cutToMillis := by
      refine ⟨_, DateFunction.formatted_eq now t pattern, ?_⟩
      rw [Instant.format, Time.Pattern.formatChars_of_pieces hYear hOutside hPieces rfl,
        Instant.read?, String.toList_ofList]
      exact Instant.readChars?_writtenChars hYear hDivider (Or.inr rfl)
    intro pattern hMem
    simp only [List.mem_cons, List.not_mem_nil, or_false] at hMem
    rcases hMem with rfl | rfl
    · exact hWritten (Or.inr rfl) (by decide +kernel)
    · exact hWritten (Or.inl rfl) (by decide +kernel)

/-- A leap second at the end of 2016 and an instant before the epoch. -/
theorem dates_read_back_leap_second :
    let leap : Instant :=
      ⟨17166, 86399, 1500000001, by decide, by decide, by decide, by decide, by decide⟩
    let old : Instant :=
      ⟨-719528, 1, 999999, by decide, by decide, by decide, by decide, by decide⟩
    ((Cell.date leap).readAs .formula).date? = some leap.cutToMillis ∧
      ∃ s, DateFunction.formatted .epoch old "YYYY-MM-DD HH:mm:ss.SSS" = .ok (.text s) ∧
        Instant.read? s = some old.cutToMillis := by
  intro leap old
  have hLeap : 0 ≤ leap.civil.year ∧ leap.civil.year ≤ 9999 := by decide
  have hOld : 0 ≤ old.civil.year ∧ old.civil.year ≤ 9999 := by decide
  have hOutside : old.inLeapSecond = false := by decide
  exact ⟨(dates_read_back .epoch hLeap).2.1 .formula (by decide),
    ((dates_read_back .epoch hOld).2.2 hOutside).2 _ List.mem_cons_self⟩

end RowFormula
