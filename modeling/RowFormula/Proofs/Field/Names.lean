import Mathlib.Data.List.Nodup
import RowFormula.Field.Catalog

/-! Names of the fields of one table. A catalog is a list of fields in which no name is blank
and no two names match, so a name stands for at most one field, wherever it is declared. -/
namespace RowFormula

namespace Field

/-- A name belongs to a field when their keys are the same. -/
theorem hasName_iff (field : Field) (name : String) :
    field.hasName name = true ↔ key field.name = key name := by
  simp [hasName]

/-- No two fields have names that match. -/
def Distinct (fields : List Field) : Prop := (fields.map fun field => key field.name).Nodup

namespace Distinct

variable {fields : List Field}

/-- Names stay distinct in any order. -/
theorem perm {others : List Field} (distinct : Distinct fields) (h : fields.Perm others) :
    Distinct others :=
  (h.map _).nodup_iff.mp distinct

theorem nodup (distinct : Distinct fields) : fields.Nodup := List.Nodup.of_map _ distinct

/-- A key belongs to one field. -/
theorem eq_of_key (distinct : Distinct fields) {f g : Field} (hf : f ∈ fields) (hg : g ∈ fields)
    (h : key f.name = key g.name) : f = g :=
  List.inj_on_of_nodup_map distinct hf hg h

/-- A name belongs to one field. -/
theorem eq_of_name (distinct : Distinct fields) {f g : Field} (hf : f ∈ fields) (hg : g ∈ fields)
    (h : f.name = g.name) : f = g :=
  distinct.eq_of_key hf hg (congrArg key h)

/-- The first field with a name is the only one. -/
theorem find?_eq_some_iff (distinct : Distinct fields) (name : String) (field : Field) :
    find? fields name = some field ↔ field ∈ fields ∧ field.hasName name = true := by
  constructor
  · intro h
    exact ⟨List.mem_of_find?_eq_some h,
      List.find?_some (p := fun field : Field => field.hasName name) h⟩
  · rintro ⟨hMem, hName⟩
    cases hFind : find? fields name with
    | none => exact absurd hName (List.find?_eq_none.mp hFind field hMem)
    | some other =>
        have hOther := List.find?_some (p := fun field : Field => field.hasName name) hFind
        have hKey : key other.name = key field.name := by
          rw [(hasName_iff other name).mp hOther, (hasName_iff field name).mp hName]
        rw [distinct.eq_of_key (List.mem_of_find?_eq_some hFind) hMem hKey]

/-- Lists of the same fields give a name the same field. -/
theorem find?_congr {others : List Field} (distinct : Distinct fields) (distinct' : Distinct others)
    (name : String) (same : ∀ field : Field, field.hasName name = true →
      (field ∈ fields ↔ field ∈ others)) : find? fields name = find? others name := by
  apply Option.ext
  intro field
  rw [distinct.find?_eq_some_iff, distinct'.find?_eq_some_iff]
  exact and_congr_left fun hName => same field hName

end Distinct

end Field

namespace Catalog

/-- Indexing succeeds exactly when every name is new and none is blank. -/
theorem indexFrom_isOk_iff (index : Std.HashMap String Field) (fields : List Field) :
    (∃ full, indexFrom index fields = .ok full) ↔
      (∀ field ∈ fields, Text.isAllBlank field.name = false ∧ Field.key field.name ∉ index) ∧
        Field.Distinct fields := by
  induction fields generalizing index with
  | nil => simp [indexFrom, Field.Distinct]
  | cons field rest ih =>
      have hDistinct : Field.Distinct (field :: rest) ↔
          (∀ other ∈ rest, Field.key other.name ≠ Field.key field.name) ∧ Field.Distinct rest := by
        simp [Field.Distinct]
      rw [indexFrom, hDistinct]
      by_cases hBlank : Text.isAllBlank field.name = true
      · simp [hBlank]
      · by_cases hIndexed : Field.key field.name ∈ index
        · simp [hBlank, hIndexed]
        · rw [if_neg hBlank, if_neg (by simpa using hIndexed), ih]
          simp only [Std.HashMap.mem_insert, beq_iff_eq]
          constructor
          · rintro ⟨hRest, hNodup⟩
            refine ⟨?_, fun other ho => Ne.symm (not_or.mp (hRest other ho).2).1, hNodup⟩
            intro other ho
            rcases List.mem_cons.mp ho with rfl | ho
            · exact ⟨by simpa using hBlank, hIndexed⟩
            · exact ⟨(hRest other ho).1, (not_or.mp (hRest other ho).2).2⟩
          · rintro ⟨hAll, hNew, hNodup⟩
            refine ⟨fun other ho => ?_, hNodup⟩
            have hOther := hAll other (List.mem_cons_of_mem _ ho)
            exact ⟨hOther.1, not_or.mpr ⟨Ne.symm (hNew other ho), hOther.2⟩⟩

/-- Fields form a catalog exactly when no name is blank and no two names match. -/
theorem ofFields_isOk_iff (fields : List Field) :
    (∃ catalog, ofFields fields = .ok catalog) ↔
      (∀ field ∈ fields, Text.isAllBlank field.name = false) ∧ Field.Distinct fields := by
  have hIndex := indexFrom_isOk_iff ∅ fields
  simp only [Std.HashMap.not_mem_empty, not_false_eq_true, and_true] at hIndex
  rw [← hIndex, ofFields]
  cases indexFrom ∅ fields with
  | ok index => simp [Except.map]
  | error e => simp [Except.map]

/-- A small table. Two of its fields read each other, one has no formula text. -/
def invoice : List Field :=
  [{ name := "Price", type := .number },
   { name := "Total", type := .formula, formula := some "{subtotal} + {Price}" },
   { name := "Subtotal", type := .formula, formula := some "-{Price}" },
   { name := "Left", type := .formula, formula := some "{Right}" },
   { name := "Right", type := .formula, formula := some "{LEFT}" },
   { name := "Note", type := .formula }]

theorem invoice_accepted : ∃ catalog, ofFields invoice = .ok catalog :=
  (ofFields_isOk_iff invoice).mpr ⟨by decide, by unfold Field.Distinct; decide⟩

/-- The names of a catalog do not match each other. -/
theorem distinct_of_ofFields {fields : List Field} {catalog : Catalog}
    (accepted : ofFields fields = .ok catalog) : Field.Distinct fields :=
  ((ofFields_isOk_iff fields).mp ⟨catalog, accepted⟩).2

end Catalog

end RowFormula
