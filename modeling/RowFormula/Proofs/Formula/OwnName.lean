import RowFormula.Formula.Eval
import RowFormula.Proofs.Expr.Composition
import RowFormula.Proofs.Field.Names
import RowFormula.Proofs.Text.Trimming

/-! Fields read by their own names. What stands between braces is trimmed before it is looked up,
while a catalog keeps names as they are declared. So a field answers to its own name when there is
nothing to trim from it, and otherwise the braces reach another field or none. -/
namespace RowFormula

/-- A braced name is looked up without the blanks at its ends. -/
theorem evalFormula_braced (context : Context) {name : String} (hName : '}' ∉ name.toList) :
    evalFormula context ("\x7b" ++ name ++ "\x7d") = context.resolve (Text.trim name) := by
  rw [evalFormula, (Closed.reference hName).parse]
  rfl

/-- Looking up the trimmed name of a field finds this field only if nothing was trimmed. -/
theorem Field.Distinct.find?_trim_iff {fields : List Field} (distinct : Field.Distinct fields)
    {field : Field} (hField : field ∈ fields) :
    Field.find? fields (Text.trim field.name) = some field ↔
      Text.trim field.name = field.name := by
  rw [distinct.find?_eq_some_iff, Field.hasName_iff]
  constructor
  · rintro ⟨-, hKey⟩
    exact Text.trim_eq_of_lower_eq hKey.symm
  · intro hTrim
    exact ⟨hField, by rw [hTrim]⟩

/-- The formula that puts the name of a declared field in braces looks up the trimmed name. That
finds the field itself exactly when its name neither begins nor ends with a blank, and then the
outcome is what the row stores for this field, read by its type. -/
theorem own_name_resolves {fields : List Field} {catalog : Catalog}
    (accepted : Catalog.ofFields fields = .ok catalog) {field : Field} (hField : field ∈ fields)
    (hName : '}' ∉ field.name.toList) (row : Row) (now : Time.Instant) :
    let outcome := evalFormula ⟨row, fields, now⟩ ("\x7b" ++ field.name ++ "\x7d")
    outcome = Context.resolve ⟨row, fields, now⟩ (Text.trim field.name) ∧
      (Field.find? fields (Text.trim field.name) = some field ↔
        Text.trim field.name = field.name) ∧
      (Text.trim field.name = field.name →
        outcome = match row.get? field.name with
          | none => .ok .null
          | some (.error e) => .error e
          | some cell => .ok (cell.readAs field.type)) := by
  intro outcome
  have hOutcome : outcome = Context.resolve ⟨row, fields, now⟩ (Text.trim field.name) :=
    evalFormula_braced ⟨row, fields, now⟩ hName
  have hFind := (Catalog.distinct_of_ofFields accepted).find?_trim_iff hField
  refine ⟨hOutcome, hFind, fun hTrim => ?_⟩
  rewrite [hOutcome, Context.resolve, hFind.mpr hTrim]
  rfl

/-- Two names that the catalog tells apart and that the braces do not. -/
def Catalog.padded : List Field :=
  [{ name := " A", type := .number }, { name := "A", type := .number }]

theorem Catalog.padded_accepted : ∃ catalog, Catalog.ofFields Catalog.padded = .ok catalog :=
  (Catalog.ofFields_isOk_iff Catalog.padded).mpr ⟨by decide, by unfold Field.Distinct; decide⟩

def Row.padded : Row := (Row.empty.insert " A" (.number 1)).insert "A" (.number 2)

/-- The name without blanks gives what is stored under it. The name with one is not found by what
trimming leaves of it. -/
theorem own_name_resolves_padded :
    evalFormula ⟨.padded, Catalog.padded, .epoch⟩ "\x7bA\x7d" = .ok (.number 2) ∧
      Field.find? Catalog.padded (Text.trim " A") ≠ some { name := " A", type := .number } := by
  obtain ⟨catalog, accepted⟩ := Catalog.padded_accepted
  have hBlankField : Catalog.padded[0] ∈ Catalog.padded := List.getElem_mem _
  have hPlainField : Catalog.padded[1] ∈ Catalog.padded := List.getElem_mem _
  have hBlank := own_name_resolves accepted hBlankField (by decide) .padded .epoch
  have hPlain := own_name_resolves accepted hPlainField (by decide) .padded .epoch
  refine ⟨(hPlain.2.2 (by decide)).trans (by decide +kernel), fun hFound => ?_⟩
  exact absurd (hBlank.2.1.mp hFound) (by decide)

/-- A field with a blank in front of its name does not give what is stored for it: the braces take
it for its neighbour. -/
theorem padded_name_reads_neighbour :
    let outcome := evalFormula ⟨.padded, Catalog.padded, .epoch⟩ "\x7b A\x7d"
    (∃ catalog, Catalog.ofFields Catalog.padded = .ok catalog) ∧
      { name := " A", type := .number } ∈ Catalog.padded ∧ '}' ∉ " A".toList ∧
      Row.padded.get? " A" = some (.number 1) ∧ outcome = .ok (.number 2) ∧
      outcome ≠ .ok ((Cell.number 1).readAs .number) := by
  refine ⟨Catalog.padded_accepted, List.mem_cons_self, by decide, ?_⟩
  decide +kernel

end RowFormula
