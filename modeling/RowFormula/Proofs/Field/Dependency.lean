import Mathlib.Order.WellFoundedSet
import RowFormula.Proofs.Field.Names
import RowFormula.Proofs.Formula.References

/-! How formula fields depend on each other: one reads another if its formula names it. What
holds of a field as soon as it holds of all that the field reads, holds of every field, if it
can be shown of the fields on a cycle without this help. -/
namespace RowFormula.Field

open Relation

/-- The text from which a formula field is computed. -/
def formulaText (field : Field) : String := field.formula.getD ""

/-- There is no formula text, or it has blanks alone. -/
def isBlank (field : Field) : Bool := Text.isAllBlank field.formulaText

/-- The tree of the formula text, if the text is a formula. -/
def expr? (field : Field) : Option Expr := (Expr.parse field.formulaText).toOption

/-- The formula of one field names another. -/
def Mentions (reader read : Field) : Prop :=
  ∃ e, reader.expr? = some e ∧ ∃ name ∈ e.fieldReferences, read.hasName name = true

/-- One formula field of a table reads another. -/
@[mk_iff] structure Reads (fields : List Field) (reader read : Field) : Prop where
  reader_mem : reader ∈ fields
  reader_isFormula : reader.isFormula = true
  read_mem : read ∈ fields
  read_isFormula : read.isFormula = true
  mentions : reader.Mentions read

instance (reader read : Field) : Decidable (Mentions reader read) :=
  match h : reader.expr? with
  | none => isFalse (by simp [Mentions, h])
  | some e =>
      decidable_of_iff (∃ name ∈ e.fieldReferences, read.hasName name = true)
        (by simp [Mentions, h])

instance (fields : List Field) (reader read : Field) : Decidable (Reads fields reader read) :=
  decidable_of_iff' _ (reads_iff fields reader read)

/-- A field reads itself, at once or through other formula fields. -/
def OnCycle (fields : List Field) (field : Field) : Prop := TransGen (Reads fields) field field

/-- A field that reads one other field is on a cycle only together with it. -/
theorem OnCycle.of_reads_only {fields : List Field} {reader read : Field}
    (h : OnCycle fields reader) (only : ∀ other, Reads fields reader other → other = read) :
    OnCycle fields read := by
  obtain ⟨other, hRead, hBack⟩ := TransGen.head'_iff.mp h
  obtain rfl := only other hRead
  exact TransGen.tail' hBack hRead

/-- Relations that agree on fields which they do not leave have the same paths there. -/
theorem transGen_of_closed {r s : Field → Field → Prop} {inside : Field → Prop}
    (step : ∀ f g, inside f → r f g → s f g ∧ inside g) {f g : Field} (hInside : inside f)
    (path : TransGen r f g) : TransGen s f g ∧ inside g := by
  induction path with
  | single hStep => exact (step _ _ hInside hStep).imp_left TransGen.single
  | tail _ hStep ih => exact (step _ _ ih.2 hStep).imp_left ih.1.tail

/-- One field is read by another that does not lie on a cycle, at once or through others. -/
def Below (fields : List Field) (read reader : Field) : Prop :=
  TransGen (Reads fields) reader read ∧ ¬OnCycle fields reader

instance (fields : List Field) : IsStrictOrder Field (Below fields) where
  irrefl _ h := h.2 h.1
  trans _ _ _ lower upper := ⟨upper.1.trans lower.1, upper.2⟩

/-- Induction along the references. A field that lies on a cycle gets no hypothesis. -/
theorem reads_induction {fields : List Field} {P : Field → Prop}
    (step : ∀ f ∈ fields, (∀ g, Reads fields f g → ¬OnCycle fields f → P g) → P f) :
    ∀ f ∈ fields, P f := by
  have hWellFounded : {f | f ∈ fields}.WellFoundedOn (Below fields) :=
    (List.finite_toSet fields).wellFoundedOn
  intro f hf
  refine hWellFounded.induction hf fun f hf ih => step f hf ?_
  intro g hRead hCycle
  exact ih g hRead.read_mem ⟨TransGen.single hRead, hCycle⟩

end RowFormula.Field
