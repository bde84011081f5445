import RowFormula.Proofs.Number.Written
import RowFormula.Proofs.Time.Elapsed
import RowFormula.Proofs.Time.Months
import RowFormula.Time.Writing

/-! Written instants read back. The standard form and the patterns that have all of its numbers give
the same digits, and every layout reads these digits as the instant, cut to whole milliseconds. -/
namespace RowFormula.Time

open RowFormula.Number (padded paddedInt digitChars digitsValue isDigit_of_mem_digitChars
  isDigit_of_mem_zeros digitsValue_zeros_append digitsValue_digitChars digitChars_ne_nil
  not_isDigit_of_isBlank)
open RowFormula.Text (dropBlanks trimChars isBlank dropBlanks_eq_self trimChars_eq_self)

/-! Numbers of a fixed width. -/

theorem isDigit_of_mem_padded {width n : Nat} {c : Char} (h : c ∈ padded width n) :
    c.isDigit = true :=
  (List.mem_append.mp h).elim isDigit_of_mem_zeros isDigit_of_mem_digitChars

/-- Zeros in front do not change the number. -/
theorem digitsValue_padded (width n : Nat) : digitsValue (padded width n) = n := by
  rw [padded, digitsValue_zeros_append, digitsValue_digitChars]

theorem exists_padded_eq_cons (width n : Nat) :
    ∃ first others, padded width n = first :: others ∧ first.isDigit = true := by
  obtain ⟨first, others, h⟩ := List.exists_cons_of_ne_nil
    (List.append_ne_nil_of_right_ne_nil (List.replicate (width - (digitChars n).length) '0')
      (digitChars_ne_nil n))
  exact ⟨first, others, h, isDigit_of_mem_padded (h ▸ List.mem_cons_self)⟩

theorem isBlank_of_mem_padded {width n : Nat} {c : Char} (h : c ∈ padded width n) :
    isBlank c = false := by
  rw [Bool.eq_false_iff]
  intro hBlank
  exact Bool.false_ne_true ((not_isDigit_of_isBlank hBlank).symm.trans (isDigit_of_mem_padded h))

theorem head?_padded_append (width n : Nat) (rest : List Char) :
    ∀ c ∈ (padded width n ++ rest).head?, isBlank c = false := by
  obtain ⟨first, others, h, -⟩ := exists_padded_eq_cons width n
  rw [h, List.cons_append]
  rintro c ⟨⟩
  exact isBlank_of_mem_padded (h ▸ List.mem_cons_self)

theorem dropBlanks_padded (width n : Nat) (rest : List Char) :
    dropBlanks (padded width n ++ rest) = padded width n ++ rest :=
  dropBlanks_eq_self (head?_padded_append width n rest)

section Width

variable {width n : Nat} (hWidth : 0 < width) (h : n < 10 ^ width) (rest : List Char)

include hWidth h

/-- A number that fits is padded to the width exactly. -/
theorem length_padded : (padded width n).length = width := by
  have hLength := (Nat.length_toDigits_le_iff (b := 10) (by decide) hWidth).mpr h
  rw [padded, List.length_append, List.length_replicate, digitChars]
  omega

theorem take_padded : (padded width n ++ rest).take width = padded width n := by
  rw [List.take_append_of_le_length (length_padded hWidth h).ge,
    List.take_of_length_le (length_padded hWidth h).le]

theorem drop_padded : (padded width n ++ rest).drop width = rest := by
  rw [List.drop_append_of_le_length (length_padded hWidth h).ge,
    List.drop_of_length_le (length_padded hWidth h).le, List.nil_append]

/-- A padded number is read back where the width is fixed. -/
theorem fixedDigits?_padded : fixedDigits? width (padded width n ++ rest) = some (n, rest) := by
  simp only [fixedDigits?, take_padded hWidth h, drop_padded hWidth h, digitsValue_padded]
  exact if_pos ⟨length_padded hWidth h, List.all_eq_true.mpr fun c => isDigit_of_mem_padded⟩

/-- A padded number is read back where it may be shorter than the width. -/
theorem shortDigits?_padded : shortDigits? width (padded width n ++ rest) = some (n, rest) := by
  obtain ⟨first, others, hCons, -⟩ := exists_padded_eq_cons width n
  have hDigits : (padded width n).takeWhile Char.isDigit = padded width n :=
    List.takeWhile_eq_self_iff.mpr fun c => isDigit_of_mem_padded
  simp only [shortDigits?, take_padded hWidth h, hDigits, digitsValue_padded,
    length_padded hWidth h, drop_padded hWidth h]
  exact if_neg (hCons ▸ List.cons_ne_nil _ _)

end Width

/-- Four digits are a year without sign. -/
theorem layoutYear?_padded {n : Nat} (h : n < 10 ^ 4) (rest : List Char) :
    layoutYear? (padded 4 n ++ rest) = some ((n : Int), rest) := by
  have hDigit {sign : Char} {others : List Char} (hSign : padded 4 n ++ rest = sign :: others) :
      sign.isDigit = true := by
    obtain ⟨first, others, hCons, hFirst⟩ := exists_padded_eq_cons 4 n
    rw [hCons] at hSign
    cases hSign
    exact hFirst
  rw [layoutYear?, dropBlanks_padded]
  split
  case h_1 hSign => cases hDigit hSign
  case h_2 hSign => cases hDigit hSign
  case h_3 =>
    rw [shortDigits?_padded (by decide) h]
    rfl

theorem layoutNumber?_padded {n : Nat} (h : n < 10 ^ 2) (rest : List Char) :
    layoutNumber? (padded 2 n ++ rest) = some (n, rest) := by
  rw [layoutNumber?, dropBlanks_padded, shortDigits?_padded (by decide) h]

/-- Three digits after the point are milliseconds. -/
theorem fraction?_padded {n : Nat} (h : n < 10 ^ 3) {rest : List Char}
    (hRest : ∀ c ∈ rest.head?, c.isDigit = false) :
    fraction? ('.' :: (padded 3 n ++ rest)) = some (n * 1000000, rest) := by
  obtain ⟨first, others, hCons, -⟩ := exists_padded_eq_cons 3 n
  have hLength := length_padded (by decide) h
  have hSpan := Number.spanDigits_append
    (fun c (hMem : c ∈ padded 3 n) => isDigit_of_mem_padded hMem) hRest
  obtain ⟨hTake, hDrop⟩ := Prod.mk.inj hSpan
  have hNine : (padded 3 n).take 9 = padded 3 n := List.take_of_length_le (by omega)
  simp only [fraction?, hTake, hDrop, hNine, hLength, digitsValue_padded]
  exact if_neg (hCons ▸ List.cons_ne_nil _ _)

@[simp] theorem expectChar?_cons (c : Char) (rest : List Char) :
    expectChar? c (c :: rest) = some rest := if_pos rfl

theorem expectChar?_of_ne {c first : Char} (h : first ≠ c) (rest : List Char) :
    expectChar? c (first :: rest) = none := if_neg h

namespace Instant

/-- The instant without what is below a millisecond. -/
def cutToMillis (t : Instant) : Instant :=
  ⟨t.day, t.second, t.nanos / 1000000 * 1000000, t.firstDay_le, t.le_lastDay, t.second_lt,
    (Nat.div_mul_le_self _ _).trans_lt t.nanos_lt,
    fun h => t.leap (h.trans (Nat.div_mul_le_self _ _))⟩

/-- The second of the minute as it is written. A leap second is second 60. -/
def writtenSecond (t : Instant) : Nat :=
  if t.inLeapSecond then t.secondOfMinute + 1 else t.secondOfMinute

/-- What all written forms say of an instant. -/
def written (t : Instant) : Reading :=
  ⟨t.civil.year.natAbs, t.civil.month, t.civil.day, t.hour, t.minute, t.writtenSecond,
    t.millis % 1000 * 1000000⟩

/-- The digits of the date. -/
def dateChars (t : Instant) (rest : List Char) : List Char :=
  padded 4 t.civil.year.natAbs ++ '-' :: (padded 2 t.civil.month ++ '-' ::
    (padded 2 t.civil.day ++ rest))

/-- The digits of the time of day. -/
def clockChars (t : Instant) (rest : List Char) : List Char :=
  padded 2 t.hour ++ ':' :: (padded 2 t.minute ++ ':' :: (padded 2 t.writtenSecond ++ '.' ::
    (padded 3 (t.millis % 1000) ++ rest)))

/-- The digits of date and time, with a divider between the two and an ending. -/
def writtenChars (t : Instant) (divider : Char) (ending : List Char) : List Char :=
  t.dateChars (divider :: t.clockChars ending)

/-- The parts of a clock time are in range. -/
theorem clock_bounds (t : Instant) : t.hour ≤ 23 ∧ t.minute ≤ 59 ∧ t.writtenSecond ≤ 60 := by
  have hSecond := t.second_lt
  refine ⟨?_, ?_, ?_⟩
  · unfold hour
    omega
  · unfold minute
    omega
  · unfold writtenSecond secondOfMinute
    split <;> omega

/-- The numbers of the clock add up to the second of the day, in a leap second to the one that it
continues. -/
theorem clock_eq (t : Instant) :
    (t.hour * 60 + t.minute) * 60 + min t.writtenSecond 59 = t.second := by
  have hLast : t.inLeapSecond = true → t.second % 60 = 59 := fun hLeap =>
    t.leap (of_decide_eq_true hLeap)
  unfold hour minute writtenSecond secondOfMinute
  split
  · rename_i hLeap
    have hSecond := hLast hLeap
    omega
  · omega

/-- A second 60 stands for the nanoseconds that a leap second has beyond one second. -/
theorem nanos_eq (t : Instant) :
    (if t.writtenSecond = 60 then t.millis % 1000 * 1000000 + nanosPerSecond
      else t.millis % 1000 * 1000000) = t.nanos / 1000000 * 1000000 := by
  have hLess := t.nanos_lt
  unfold writtenSecond secondOfMinute millis
  cases hLeap : t.inLeapSecond with
  | true =>
      have hNanos : nanosPerSecond ≤ t.nanos := of_decide_eq_true hLeap
      have hSecond := t.leap hNanos
      unfold nanosPerSecond at *
      rw [if_pos (by rw [if_pos rfl, hSecond])]
      omega
  | false =>
      have hNanos := t.inLeapSecond_eq_false_iff.mp hLeap
      unfold nanosPerSecond at *
      rw [if_neg (by rw [if_neg Bool.false_ne_true]; omega)]
      omega

section Written

variable {t : Instant} (hYear : 0 ≤ t.civil.year ∧ t.civil.year ≤ 9999)

include hYear

/-- The numbers have no more digits than they are written with. -/
theorem written_lt : t.civil.year.natAbs < 10 ^ 4 ∧ t.civil.month < 10 ^ 2 ∧
    t.civil.day < 10 ^ 2 ∧ t.hour < 10 ^ 2 ∧ t.minute < 10 ^ 2 ∧ t.writtenSecond < 10 ^ 2 ∧
    t.millis % 1000 < 10 ^ 3 := by
  obtain ⟨-, hMonth, -, hDay⟩ := (Civil.isValid_iff _).mp t.isValid_civil
  have hLength := Civil.daysInMonth_le_thirtyOne t.civil.year t.civil.month
  have hClock := t.clock_bounds
  omega

/-- The standard form has the letters T and Z. -/
theorem isoChars_eq : t.isoChars = t.writtenChars 'T' ['Z'] := by
  simp [isoChars, yearChars, hYear, writtenChars, dateChars, clockChars, writtenSecond]

/-- The written numbers are those of the instant, cut to whole milliseconds. -/
theorem toInstant?_written : t.written.toInstant? 0 = some t.cutToMillis := by
  obtain ⟨hHour, hMinute, hSecond⟩ := t.clock_bounds
  have hDate : Civil.mk t.civil.year.natAbs t.civil.month t.civil.day = t.civil := by
    rw [Int.natAbs_of_nonneg hYear.1]
  have hDay : (t.day * 86400 + t.second) / 86400 = t.day ∧
      ((t.day * 86400 + t.second) % 86400).toNat = t.second := by
    have hLess := t.second_lt
    omega
  dsimp only [Reading.toInstant?, written, ofEpochSecond?]
  rw [hDate, t.clock_eq, t.nanos_eq, t.isValid_civil, toDay_civil, zero_mul, sub_zero, hDay.1,
    hDay.2, if_pos (by simp [hHour, hMinute, hSecond])]
  exact make?_parts t.cutToMillis

/-- The standard form has an offset. -/
theorem readStandard?_writtenChars {divider : Char} (hDivider : divider = 'T' ∨ divider = ' ')
    {ending : List Char} (hEnding : ∀ c ∈ ending.head?, c.isDigit = false) :
    readStandard? (t.writtenChars divider ending) =
      (offset? ending).bind t.written.toInstant? := by
  obtain ⟨hYear, hMonth, hDay, hHour, hMinute, hSecond, hMillis⟩ := written_lt hYear
  have hLetter (rest : List Char) : (expectChar? 'T' (divider :: rest)).or
      ((expectChar? 't' (divider :: rest)).or (expectChar? ' ' (divider :: rest))) = some rest := by
    rcases hDivider with rfl | rfl <;> rfl
  simp only [readStandard?, writtenChars, dateChars, clockChars, fixedDigits?_padded, hYear, hMonth,
    hDay, hHour, hMinute, hSecond, fraction?_padded hMillis hEnding, expectChar?_cons, hLetter,
    Option.bind_eq_bind, Option.bind_some, Nat.zero_lt_succ]
  rfl

/-- A written date is read back, its year without sign. -/
theorem layoutDate?_dateChars (rest : List Char) : layoutDate? (t.dateChars rest) =
    some (⟨t.civil.year.natAbs, t.civil.month, t.civil.day⟩, rest) := by
  obtain ⟨hYear, hMonth, hDay, -⟩ := written_lt hYear
  simp only [layoutDate?, dateChars, layoutYear?_padded hYear, layoutNumber?_padded hMonth,
    layoutNumber?_padded hDay, expectChar?_cons, Option.bind_eq_bind, Option.bind_some]

/-- A plain layout has none. -/
theorem readLayout?_writtenChars {kind : Divider} {divider : Char}
    (hDivider : kind.skip? (divider :: t.clockChars []) = some (t.clockChars [])) :
    readLayout? kind true (t.writtenChars divider []) = some t.cutToMillis := by
  obtain ⟨-, -, -, hHour, hMinute, hSecond, hMillis⟩ := written_lt hYear
  have hFraction : fraction? ('.' :: (padded 3 (t.millis % 1000) ++ [])) =
      some (t.millis % 1000 * 1000000, []) := fraction?_padded hMillis (by simp)
  rw [← toInstant?_written hYear]
  simp only [readLayout?, writtenChars, layoutDate?_dateChars hYear, hDivider, Option.bind_eq_bind,
    Option.bind_some]
  simp only [clockChars, layoutNumber?_padded hHour, layoutNumber?_padded hMinute,
    layoutNumber?_padded hSecond, hFraction, expectChar?_cons, Option.bind_some, if_true]
  rfl

theorem readLayout?_of_skip?_eq_none {kind : Divider} {divider : Char}
    (hDivider : kind.skip? (divider :: t.clockChars []) = none) (withSeconds : Bool) :
    readLayout? kind withSeconds (t.writtenChars divider []) = none := by
  simp only [readLayout?, writtenChars, layoutDate?_dateChars hYear, hDivider, Option.bind_eq_bind,
    Option.bind_some, Option.bind_none]

end Written

theorem dropBlanks_clockChars (t : Instant) (rest : List Char) :
    dropBlanks (t.clockChars rest) = t.clockChars rest := dropBlanks_padded _ _ _

theorem getLast?_writtenChars (t : Instant) (divider : Char) (ending : List Char) :
    (t.writtenChars divider ending).getLast? =
      (padded 3 (t.millis % 1000) ++ ending).getLast? := by
  obtain ⟨first, others, h, -⟩ := exists_padded_eq_cons 3 (t.millis % 1000)
  simp only [writtenChars, dateChars, clockChars, h, List.cons_append, List.getLast?_append,
    List.getLast?_cons, Option.getD_some, Option.some_or]

/-- There is nothing to trim from what is written. -/
theorem trimChars_writtenChars (t : Instant) {divider : Char} {ending : List Char}
    (hEnding : ∀ c ∈ ending, isBlank c = false) :
    trimChars (t.writtenChars divider ending) = t.writtenChars divider ending := by
  refine trimChars_eq_self (head?_padded_append _ _ _) fun c hc => ?_
  rw [getLast?_writtenChars] at hc
  exact (List.mem_append.mp (List.mem_of_getLast? hc)).elim isBlank_of_mem_padded (hEnding c)

/-- All that is written is read as the instant, cut to whole milliseconds. -/
theorem readChars?_writtenChars {t : Instant} (hYear : 0 ≤ t.civil.year ∧ t.civil.year ≤ 9999)
    {divider : Char} (hDivider : divider = 'T' ∨ divider = ' ') {ending : List Char}
    (hEnding : ending = ['Z'] ∨ ending = []) :
    readChars? (t.writtenChars divider ending) = some t.cutToMillis := by
  have hLetter : ∀ c ∈ ending, c = 'Z' := by
    rcases hEnding with rfl | rfl <;> simp
  have hTrim : trimChars (t.writtenChars divider ending) = t.writtenChars divider ending :=
    trimChars_writtenChars t fun c hc => hLetter c hc ▸ by decide
  have hSome : t.writtenChars divider ending ≠ [] := by
    obtain ⟨first, others, h, -⟩ := exists_padded_eq_cons 4 t.civil.year.natAbs
    rw [writtenChars, dateChars, h]
    exact List.cons_ne_nil _ _
  have hHead : ∀ c ∈ ending.head?, c.isDigit = false := fun c hc =>
    hLetter c (List.mem_of_head? hc) ▸ by decide
  rw [readChars?, hTrim, if_neg hSome, readStandard?_writtenChars hYear hDivider hHead]
  -- Only the ending is an offset. Without it the plain layouts come one after the other, and the
  -- first one that has the divider reads the text.
  rcases hEnding with rfl | rfl
  · simp only [offset?, Option.bind_some, toInstant?_written hYear, Option.some_or]
  · simp only [offset?, Option.bind_none, Option.none_or]
    rcases hDivider with rfl | rfl
    · have hSkip : Divider.letterT.skip? ('T' :: t.clockChars []) = some (t.clockChars []) := by
        rw [Divider.skip?, expectChar?_cons]
      rw [readLayout?_writtenChars hYear hSkip, Option.some_or]
    · have hSkip : Divider.letterT.skip? (' ' :: t.clockChars []) = none := by
        rw [Divider.skip?, expectChar?_of_ne (by decide)]
      have hSkip' : Divider.blanks.skip? (' ' :: t.clockChars []) = some (t.clockChars []) :=
        congrArg some (dropBlanks_clockChars t [])
      rw [readLayout?_of_skip?_eq_none hYear hSkip, readLayout?_of_skip?_eq_none hYear hSkip,
        readLayout?_writtenChars hYear hSkip', Option.none_or, Option.none_or, Option.some_or]

/-- The standard form is read as the instant, cut to whole milliseconds. -/
theorem read?_iso {t : Instant} (hYear : 0 ≤ t.civil.year ∧ t.civil.year ≤ 9999) :
    read? t.iso = some t.cutToMillis := by
  rw [read?, iso, String.toList_ofList, isoChars_eq hYear,
    readChars?_writtenChars hYear (Or.inl rfl) (Or.inl rfl)]

end Instant

/-! Patterns that have all of the numbers. -/

namespace Pattern

def writtenPieces (divider : Piece) (ending : List Piece) : List Piece :=
  [.part .year, .literal '-', .part .month2, .literal '-', .part .day2, divider, .part .hour2,
    .literal ':', .part .minute2, .literal ':', .part .second2, .literal '.', .part .millis3] ++
    ending

/-- A pattern with the pieces of the standard form writes that form. -/
theorem formatChars_of_pieces {t : Instant} (hYear : 0 ≤ t.civil.year ∧ t.civil.year ≤ 9999)
    (hOutside : t.inLeapSecond = false) {pattern : List Char} {divider : Piece}
    {ending : List Piece} (h : pieces pattern = writtenPieces divider ending) {c : Char}
    (hDivider : divider.write t = [c]) :
    t.formatChars pattern = t.writtenChars c (ending.flatMap (Piece.write t)) := by
  have hYearText : paddedInt 4 t.civil.year = padded 4 t.civil.year.natAbs :=
    if_neg (not_lt.mpr hYear.1)
  have hSecond : t.writtenSecond = t.secondOfMinute := by
    rw [Instant.writtenSecond, hOutside, if_neg Bool.false_ne_true]
  have hMillis : t.millis % 1000 = t.millis := by
    have hNanos := t.inLeapSecond_eq_false_iff.mp hOutside
    unfold nanosPerSecond at hNanos
    unfold Instant.millis
    omega
  simp only [Instant.formatChars, h, writtenPieces, List.flatMap_append, List.flatMap_cons,
    hDivider]
  simp [Piece.write, Part.write, hYearText, Instant.writtenChars, Instant.dateChars,
    Instant.clockChars, hSecond, hMillis]

end Pattern

end RowFormula.Time
