import RowFormula.Formula.Eval
import RowFormula.Proofs.Formula.Comparison
import RowFormula.Proofs.Number.Written

/-! Computed numbers that other formulas read. What a formula field stores is read as text, and so
is a number. The operators read the text as the number again, so they give what they would have
given for the number itself. -/
namespace RowFormula

/-- Cells of the type are read as text. -/
def FieldType.isTextual (type : FieldType) : Bool :=
  !(type.isNumeric || type.isBoolean || type.isDate)

/-- A textual field reads a number as its text. -/
theorem Cell.readAs_number {type : FieldType} (h : type.isTextual = true) (x : Float) :
    (Cell.number x).readAs type = .text (Number.text x) := by
  simp only [FieldType.isTextual, Bool.not_eq_true', Bool.or_eq_false_iff] at h
  simp [readAs, h, toValue, Value.toText]

/-- The same outcome, where the sign of zero does not count. -/
inductive Outcome.Same : Outcome Value → Outcome Value → Prop
  | refl (outcome : Outcome Value) : Same outcome outcome
  | numbers {x y : Float} (h : Number.Same x y) : Same (.ok (.number x)) (.ok (.number y))

theorem Number.isNaN_of_isFinite {x : Float} (h : isFinite x = true) : isNaN x = false := by
  obtain ⟨negative, mantissa, exponent, hExact⟩ := exists_exact_of_isFinite h
  rw [isNaN, hExact]
  rfl

namespace Value

/-- The text of a finite number is read as the number, but for the sign of zero. -/
theorem exists_isWritten_text {x : Float} (hFinite : Number.isFinite x = true) :
    ∃ y, IsWritten (.text (Number.text x)) y ∧ Number.Same y x := by
  obtain ⟨y, hRead, hSame⟩ := Number.readDecimal?_text hFinite
  refine ⟨y, isWritten_text ?_, hSame⟩
  rw [cleanNumber?, textNumber?, (Number.numeral_text hFinite).trimChars, hRead]

namespace IsWritten

variable {a a' b b' : Value} {x x' y y' : Float}

/-- A number in writing is read as the number. -/
theorem toNumber (ha : IsWritten a x) : Argument.toNumber a = .ok x := by
  rw [Argument.toNumber, ha.number?]

/-- Numbers in writing compare as the numbers. -/
theorem compares (ha : IsWritten a x) (hb : IsWritten b y) (op : Comparison) :
    Value.compares op a b = op.accepts (Number.order? x y) := by
  have hNull {v : Value} {z : Float} (written : IsWritten v z) : v ≠ .null := by
    rintro rfl
    cases written.cleanNumber?
  rw [compares_of_ne_null (hNull ha) (hNull hb), ha.order? hb]

/-- Arithmetic on numbers in writing is arithmetic on the numbers, the sign of zero left aside. -/
theorem arithmetic_same (ha : IsWritten a x) (ha' : IsWritten a' x') (hb : IsWritten b y)
    (hb' : IsWritten b' y') (hx : Number.Same x x') (hy : Number.Same y y') (op : Arithmetic) :
    Outcome.Same (op.apply a b) (op.apply a' b') := by
  simp only [Arithmetic.apply, ha.toNumber, ha'.toNumber, hb.toNumber, hb'.toNumber]
  cases op with
  | add => exact .numbers (hx.add hy)
  | subtract => exact .numbers (hx.sub hy)
  | multiply => exact .numbers (hx.mul hy)
  | divide =>
      simp only [bind, Except.bind, ← hy.isZero_eq]
      split
      · exact .refl _
      · rename_i hDivisor
        exact .numbers (hx.div hy (Bool.eq_false_iff.mpr hDivisor))

/-- Operators take values that are written as the same numbers for each other. -/
theorem apply_same (ha : IsWritten a x) (ha' : IsWritten a' x') (hb : IsWritten b y)
    (hb' : IsWritten b' y') (hx : Number.Same x x') (hy : Number.Same y y') (op : BinaryOp) :
    Outcome.Same (op.apply a b) (op.apply a' b') := by
  cases op with
  | arithmetic op => exact ha.arithmetic_same ha' hb hb' hx hy op
  | comparison op =>
      rw [BinaryOp.apply, BinaryOp.apply, ha.compares hb, ha'.compares hb', hx.order?_eq hy]
      exact .refl _

/-- The negative of a number in writing is that of the number, the sign of zero left aside. -/
theorem negate_same (ha : IsWritten a x) (ha' : IsWritten a' x') (hx : Number.Same x x') :
    Outcome.Same (UnaryOp.negate.apply a) (UnaryOp.negate.apply a') := by
  rw [UnaryOp.apply, UnaryOp.apply, ha.toNumber, ha'.toNumber]
  exact .numbers hx.neg

end IsWritten

end Value

/-- A finite number that is stored and read as text loses nothing. The text has a reading as a
number, which is equal to the number, and the operators give the same for the text as for the
number, on either side and on both, but for the sign of zero. -/
theorem stored_numbers_compute {x y : Float} (hx : Number.isFinite x = true)
    (hy : Number.isFinite y = true) {type : FieldType} (hType : type.isTextual = true) :
    (∃ s z, (Cell.number x).readAs type = .text s ∧
      (Value.text s).number? = some z ∧ (z == x) = true) ∧
    ∀ a ∈ [(Cell.number x).readAs type, .number x],
      Outcome.Same (UnaryOp.negate.apply a) (UnaryOp.negate.apply (.number x)) ∧
      ∀ b ∈ [(Cell.number y).readAs type, .number y], ∀ op : BinaryOp,
        Outcome.Same (op.apply a b) (op.apply (.number x) (.number y)) := by
  have hSelf {z : Float} (h : Number.isFinite z = true) : Value.IsWritten (.number z) z :=
    Value.isWritten_number (Number.isNaN_of_isFinite h)
  have hEither {z : Float} (h : Number.isFinite z = true) :
      ∀ v ∈ [(Cell.number z).readAs type, .number z],
        ∃ z', Value.IsWritten v z' ∧ Number.Same z' z := by
    intro v hv
    simp only [List.mem_cons, List.not_mem_nil, or_false] at hv
    rcases hv with rfl | rfl
    · rw [Cell.readAs_number hType]
      exact Value.exists_isWritten_text h
    · exact ⟨z, hSelf h, .refl z⟩
  refine ⟨?_, fun a hMemA => ?_⟩
  · obtain ⟨z, hWritten, hSame⟩ := Value.exists_isWritten_text hx
    exact ⟨_, z, Cell.readAs_number hType x, hWritten.number?,
      hSame.beq (Value.isNaN_of_number? hWritten.number?)⟩
  · obtain ⟨x', hWrittenA, hSameA⟩ := hEither hx a hMemA
    refine ⟨hWrittenA.negate_same (hSelf hx) hSameA, fun b hMemB op => ?_⟩
    obtain ⟨y', hWrittenB, hSameB⟩ := hEither hy b hMemB
    exact hWrittenA.apply_same (hSelf hx) hWrittenB (hSelf hy) hSameA hSameB op

/-- The least positive number and the negative zero, both of which are stored. The product keeps the
sign of its zero only where no text stands between. -/
theorem stored_numbers_compute_tiny :
    let tiny : Float := 5e-324
    let zero : Float := -0.0
    let stored (x : Float) : Value := (Cell.number x).readAs .formula
    Outcome.Same (BinaryOp.apply (.arithmetic .multiply) (stored tiny) (stored zero))
        (BinaryOp.apply (.arithmetic .multiply) (.number tiny) (.number zero)) ∧
      Outcome.Same (BinaryOp.apply (.comparison .greater) (stored tiny) (.number zero))
        (BinaryOp.apply (.comparison .greater) (.number tiny) (.number zero)) ∧
      Outcome.Same (UnaryOp.negate.apply (stored tiny)) (UnaryOp.negate.apply (.number tiny)) := by
  intro tiny zero stored
  have hTiny : Number.isFinite tiny = true := by decide +kernel
  have hZero : Number.isFinite zero = true := by decide +kernel
  have hType : FieldType.isTextual .formula = true := by decide
  obtain ⟨hNegate, hApply⟩ :=
    (stored_numbers_compute hTiny hZero hType).2 (stored tiny) List.mem_cons_self
  exact ⟨hApply (stored zero) List.mem_cons_self _, hApply (.number zero) (by simp) _, hNegate⟩

end RowFormula
