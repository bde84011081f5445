import RowFormula.Formula.Compare
import RowFormula.Proofs.Time.Reading

/-! Comparison of values. The comparisons of two values that are not null all follow from one
outcome, and exchanging the values exchanges it. There is none only beside a number that has nothing
to be compared with. What is written as a number is compared as that number. -/
namespace RowFormula

namespace Comparison

/-- The comparison that holds of two values when this one holds of them exchanged. -/
def mirror : Comparison → Comparison
  | .equal => .equal
  | .doubleEqual => .doubleEqual
  | .notEqual => .notEqual
  | .less => .greater
  | .lessEqual => .greaterEqual
  | .greater => .less
  | .greaterEqual => .lessEqual

/-- A comparison and its mirror image accept answers that are turned round. -/
theorem accepts_mirror (op : Comparison) (outcome : Option Ordering) :
    op.mirror.accepts (outcome.map Ordering.swap) = op.accepts outcome := by
  cases outcome with
  | none => cases op <;> rfl
  | some order => cases op <;> cases order <;> rfl

/-- Of the three ways in which two values can be ordered the outcome is one. -/
theorem existsUnique_accepts (order : Ordering) :
    ∃! op, op ∈ [less, equal, greater] ∧ accepts op (some order) = true := by
  cases order with
  | lt => exact ⟨less, by decide, fun op => by cases op <;> decide⟩
  | eq => exact ⟨equal, by decide, fun op => by cases op <;> decide⟩
  | gt => exact ⟨greater, by decide, fun op => by cases op <;> decide⟩

/-- The comparison of numbers. NaN is different from every number and in no order with any. -/
def holds (op : Comparison) (x y : Float) : Bool :=
  match op with
  | .equal | .doubleEqual => x == y
  | .notEqual => x != y
  | .less => decide (x < y)
  | .lessEqual => decide (x ≤ y)
  | .greater => decide (y < x)
  | .greaterEqual => decide (y ≤ x)

/-- On numbers a comparison accepts what the order of the numbers says. -/
theorem accepts_order? (op : Comparison) (x y : Float) :
    op.accepts (Number.order? x y) = op.holds x y := by
  have hEqual : (x == y) = decide (Number.order? x y = some .eq) := by
    rw [Bool.eq_iff_iff, Number.beq_iff_order?, decide_eq_true_iff]
  simp only [holds, bne, hEqual, Number.lt_iff_order?, Number.le_iff_order?,
    ← Number.order?_swap x y]
  cases Number.order? x y with
  | none => cases op <;> rfl
  | some order => cases op <;> cases order <;> rfl

end Comparison

/-- The order of instants is turned round with them. -/
theorem Time.Instant.order_swap (s t : Time.Instant) : (s.order t).swap = t.order s := by
  simp only [order, Ordering.swap_then, Int.compare_swap, Nat.compare_swap]

namespace Value

theorem isNaN_of_textNumber? {s : String} {x : Float} (h : textNumber? s = some x) :
    Number.isNaN x = false :=
  Number.isNaN_of_readDecimal? h

/-- NaN is no reading as a number. -/
theorem isNaN_of_number? {v : Value} {x : Float} (h : v.number? = some x) :
    Number.isNaN x = false := by
  cases v with
  | null =>
      cases h
      decide +kernel
  | bool b =>
      cases h
      cases b <;> decide +kernel
  | number y =>
      rw [number?] at h
      split at h
      · cases h
      · rename_i hNumber
        cases h
        exact Bool.eq_false_iff.mpr hNumber
  | text s =>
      rw [number?] at h
      split at h
      · cases h
        decide +kernel
      · exact isNaN_of_textNumber? h
  | date t =>
      cases h
      exact Number.isNaN_ofInt _

/-- What is written as a number is not NaN. -/
theorem isNaN_of_cleanNumber? {v : Value} {x : Float} (h : v.cleanNumber? = some x) :
    Number.isNaN x = false := by
  cases v with
  | number y => exact isNaN_of_number? (v := .number y) h
  | text s => exact isNaN_of_textNumber? h
  | null | bool _ | date _ => cases h

/-- Comparing the other way round turns the answer round, also where it is missing. -/
theorem numberOrder?_swap (x y : Option Float) :
    (numberOrder? x y).map Ordering.swap = numberOrder? y x := by
  cases x <;> cases y <;> simp [numberOrder?, Number.order?_swap]

/-- Exchanging two values turns their order round. -/
theorem order?_swap (a b : Value) : (order? a b).map Ordering.swap = order? b a := by
  have hText : (compare a.toText b.toText).swap = compare b.toText a.toText :=
    Std.OrientedCmp.eq_swap.symm
  unfold order?
  cases a.date? <;> cases b.date?
  case some.some s t => exact congrArg some (s.order_swap t)
  all_goals
    dsimp only
    rw [Bool.or_comm b.isNumber, apply_ite (Option.map Ordering.swap), numberOrder?_swap]
    refine congrArg _ ?_
    cases a.cleanNumber? <;> cases b.cleanNumber?
    case some.some x y => exact Number.order?_swap x y
    all_goals exact congrArg some hText

/-- Two values are in no order exactly when one is a number and one has no reading as a number. -/
theorem order?_eq_none_iff (a b : Value) :
    order? a b = none ↔ (a.isNumber = true ∨ b.isNumber = true) ∧
      (a.number? = none ∨ b.number? = none) := by
  have hDated : ∀ {v : Value} {t}, v.date? = some t → v.isNumber = false := by
    intro v t h
    cases v with
    | number x => cases h
    | null | bool _ | text _ | date _ => rfl
  unfold order?
  split
  · rename_i hs ht
    simp [hDated hs, hDated ht]
  · split
    · rename_i hNumber
      rw [Bool.or_eq_true] at hNumber
      rw [and_iff_right hNumber]
      cases hx : a.number? with
      | none => simp [numberOrder?]
      | some x =>
          cases hy : b.number? with
          | none => simp [numberOrder?]
          | some y =>
              simp [numberOrder?, Number.order?_eq_none_iff, isNaN_of_number? hx,
                isNaN_of_number? hy]
    · rename_i hOther
      rw [Bool.or_eq_true] at hOther
      refine iff_of_false ?_ fun h => hOther h.1
      split
      · rename_i hx hy
        simp [Number.order?_eq_none_iff, isNaN_of_cleanNumber? hx, isNaN_of_cleanNumber? hy]
      · exact nofun

/-- Without null a comparison accepts what the order of the values says. -/
theorem compares_of_ne_null {a b : Value} (ha : a ≠ .null) (hb : b ≠ .null) (op : Comparison) :
    compares op a b = op.accepts (order? a b) := by
  have hNull : ∀ {v : Value}, v ≠ .null → v.isNull = false := by
    intro v h
    cases v with
    | null => exact absurd rfl h
    | bool _ | number _ | text _ | date _ => rfl
  rw [compares, hNull ha, hNull hb]

/-- Beside null only null is equal, and nothing else holds. -/
theorem compares_null_iff {a b : Value} (h : a = .null ∨ b = .null) (op : Comparison) :
    compares op a b = true ↔ (a = .null ∧ b = .null) ∧ (op = .equal ∨ op = .doubleEqual) := by
  cases a <;> cases b <;> simp [compares, isNull] at h ⊢

end Value

/-- The seven comparisons cohere. Exchanging two values mirrors a comparison, the derived ones are
what their signs say, and of smaller, equal and greater exactly one holds. None of the three holds
beside a number when one of the values has no reading as a number. Null is equal to null only. -/
theorem comparisons_cohere (a b : Value) :
    (a ≠ .null → b ≠ .null →
      (∀ op, Value.compares op a b = Value.compares op.mirror b a) ∧
      Value.compares .doubleEqual a b = Value.compares .equal a b ∧
      Value.compares .notEqual a b = !Value.compares .equal a b ∧
      Value.compares .lessEqual a b = (Value.compares .less a b || Value.compares .equal a b) ∧
      Value.compares .greaterEqual a b =
        (Value.compares .greater a b || Value.compares .equal a b) ∧
      let unread := (a.isNumber = true ∨ b.isNumber = true) ∧ (a.number? = none ∨ b.number? = none)
      (unread → ∀ op ∈ [Comparison.less, .equal, .greater], Value.compares op a b = false) ∧
      (¬unread → ∃! op, op ∈ [Comparison.less, .equal, .greater] ∧
        Value.compares op a b = true)) ∧
    (a = .null ∨ b = .null → ∀ op, Value.compares op a b = true ↔
      (a = .null ∧ b = .null) ∧ (op = .equal ∨ op = .doubleEqual)) := by
  refine ⟨fun ha hb => ?_, Value.compares_null_iff⟩
  have hUnread := Value.order?_eq_none_iff a b
  have hMirror : ∀ op, Value.compares op a b = Value.compares op.mirror b a := by
    intro op
    rw [Value.compares_of_ne_null ha hb, Value.compares_of_ne_null hb ha, ← Value.order?_swap a b,
      Comparison.accepts_mirror]
  refine ⟨hMirror, ?_⟩
  simp only [Value.compares_of_ne_null ha hb, ← hUnread]
  cases Value.order? a b with
  | none => exact ⟨rfl, rfl, rfl, rfl, fun _ => by decide, fun hOrdered => absurd rfl hOrdered⟩
  | some order =>
      refine ⟨rfl, ?_, ?_, ?_, nofun, fun _ => Comparison.existsUnique_accepts order⟩
      all_goals cases order <;> rfl

/-- Words beside a number are in no order with it, a date and its text are equal, and null comes
before nothing. -/
theorem comparisons_cohere_mixed :
    let words : Value := .text "n/a"
    let three : Value := .number 3
    let midnight : Value := .date .epoch
    let text : Value := .text "1970-1-1"
    (words ≠ .null ∧ three ≠ .null ∧ words.number? = none) ∧
      Value.compares .less words three = false ∧
      Value.compares .notEqual words three = !Value.compares .equal words three ∧
      (midnight ≠ .null ∧ text ≠ .null ∧ midnight.isNumber = false ∧ text.isNumber = false) ∧
      (∃! op, op ∈ [Comparison.less, .equal, .greater] ∧
        Value.compares op midnight text = true) ∧
      ¬Value.compares .lessEqual .null three = true := by
  intro words three midnight text
  have hWords : words.number? = none := by decide +kernel
  obtain ⟨_, _, hNotEqual, _, _, hUnread, _⟩ := (comparisons_cohere words three).1 nofun nofun
  obtain ⟨_, _, _, _, _, _, hOrdered⟩ := (comparisons_cohere midnight text).1 nofun nofun
  have hNull := (comparisons_cohere .null three).2 (Or.inl rfl) .lessEqual
  exact ⟨⟨nofun, nofun, hWords⟩,
    hUnread ⟨Or.inr rfl, Or.inl hWords⟩ .less List.mem_cons_self, hNotEqual,
    ⟨nofun, nofun, rfl, rfl⟩, hOrdered fun h => by simp [midnight, text, Value.isNumber] at h,
    fun h => absurd (hNull.mp h).1.2 nofun⟩

namespace Value

/-- A value that stands for a number, as itself or as text, and for no date. -/
structure IsWritten (v : Value) (x : Float) : Prop where
  date? : v.date? = none
  number? : v.number? = some x
  cleanNumber? : v.cleanNumber? = some x

/-- Text that is read as a number is a number in writing. -/
theorem isWritten_text {s : String} {x : Float} (h : (text s).cleanNumber? = some x) :
    IsWritten (.text s) x where
  date? := Time.readChars?_of_readDecimal? h
  number? := by
    have hNotBlank : Text.isAllBlank s = false := by
      refine Bool.eq_false_iff.mpr fun hBlank => ?_
      have hEmpty : Text.trimChars s.toList = [] := by
        rw [Text.trimChars, (Text.dropBlanks_eq_nil_iff _).mpr (List.all_eq_true.mp hBlank)]
        rfl
      rw [cleanNumber?, textNumber?, hEmpty] at h
      cases h
    rw [Value.number?, hNotBlank]
    exact h
  cleanNumber? := h

/-- A number is a number in writing. -/
theorem isWritten_number {x : Float} (h : Number.isNaN x = false) : IsWritten (.number x) x where
  date? := rfl
  number? := by rw [Value.number?, h]; rfl
  cleanNumber? := by rw [Value.cleanNumber?, h]; rfl

/-- What is written as a number is ordered as the number. -/
theorem IsWritten.order? {a b : Value} {x y : Float} (ha : IsWritten a x) (hb : IsWritten b y) :
    Value.order? a b = Number.order? x y := by
  unfold Value.order?
  rw [ha.date?, ha.number?, hb.number?, ha.cleanNumber?, hb.cleanNumber?]
  exact ite_self _

end Value

/-- Text that is written as a number is no date and is compared as that number, with other such text
and with numbers. -/
theorem written_numbers_compare {s t : String} {x y : Float}
    (hs : (Value.text s).cleanNumber? = some x) (ht : (Value.text t).cleanNumber? = some y) :
    (Value.text s).date? = none ∧ (Value.text t).date? = none ∧
      ∀ op, ∀ a ∈ [Value.text s, .number x], ∀ b ∈ [Value.text t, .number y],
        Value.compares op a b = op.holds x y := by
  have hLeft := Value.isWritten_text hs
  have hRight := Value.isWritten_text ht
  refine ⟨hLeft.date?, hRight.date?, fun op a hMemA b hMemB => ?_⟩
  have ha : Value.IsWritten a x := by
    simp only [List.mem_cons, List.not_mem_nil, or_false] at hMemA
    rcases hMemA with rfl | rfl
    · exact hLeft
    · exact Value.isWritten_number (Value.isNaN_of_cleanNumber? hs)
  have hb : Value.IsWritten b y := by
    simp only [List.mem_cons, List.not_mem_nil, or_false] at hMemB
    rcases hMemB with rfl | rfl
    · exact hRight
    · exact Value.isWritten_number (Value.isNaN_of_cleanNumber? ht)
  have hNull : ∀ {v z}, Value.IsWritten v z → v ≠ .null := by
    rintro v z written rfl
    cases written.cleanNumber?
  rw [Value.compares_of_ne_null (hNull ha) (hNull hb), ha.order? hb, Comparison.accepts_order?]

/-- A year with a sign and blanks, against text that is smaller as a number and greater as text. -/
theorem written_numbers_compare_year :
    let year := "\t+02024."
    let small := " -.5E1 "
    ((Value.text year).cleanNumber? = some 2024 ∧ (Value.text small).cleanNumber? = some (-5)) ∧
      (Value.text year).date? = none ∧
      Value.compares .greater (.text year) (.text small) = true ∧
      Value.compares .greater (.text year) (.number (-5)) = true := by
  intro year small
  have hYear : (Value.text year).cleanNumber? = some 2024 := by decide +kernel
  have hSmall : (Value.text small).cleanNumber? = some (-5) := by decide +kernel
  have hGreater : Comparison.greater.holds 2024 (-5) = true := by decide +kernel
  obtain ⟨hDate, _, hCompares⟩ := written_numbers_compare hYear hSmall
  exact ⟨⟨hYear, hSmall⟩, hDate,
    (hCompares .greater _ (by simp) _ List.mem_cons_self).trans hGreater,
    (hCompares .greater _ List.mem_cons_self _ (by simp)).trans hGreater⟩

end RowFormula
