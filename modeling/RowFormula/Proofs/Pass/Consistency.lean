import RowFormula.Proofs.Pass.Run

/-! The row that a pass in dependency order leaves behind is consistent: what it stores for a
formula field is the outcome of the formula against this very row. Fields on a cycle are the
exception. They get an error, since no row need satisfy their formulas. -/
namespace RowFormula

/-- Blank text has no tree. -/
theorem Field.expr?_of_isBlank {field : Field} (h : field.isBlank = true) : field.expr? = none := by
  rw [Field.expr?, Expr.parse_of_isAllBlank h]
  rfl

/-- Only a formula lies on a cycle. -/
theorem Field.OnCycle.exists_expr {fields : List Field} {field : Field}
    (h : field.OnCycle fields) : ∃ e, field.expr? = some e := by
  obtain ⟨_, hRead, _⟩ := Relation.TransGen.head'_iff.mp h
  obtain ⟨e, hParsed, _⟩ := hRead.mentions
  exact ⟨e, hParsed⟩

/-- Evaluating formula text is evaluating its tree, if it has one. -/
theorem evalFormula_formulaText (context : Context) (field : Field) :
    evalFormula context field.formulaText =
      match field.expr? with
      | some e => e.eval context
      | none => .error .invalid := by
  unfold evalFormula Field.expr?
  cases Expr.parse field.formulaText <;> rfl

/-- The cell that the step of a field computes, in terms of the formula text. -/
theorem Step.compute_ofField (field : Field) (circular : Bool) (context : Context) :
    Step.compute { Step.ofField field with circular := circular } context =
      if field.isBlank = true then .null
      else if circular = true ∧ field.expr?.isSome = true then .error .invalid
      else Outcome.toCell (evalFormula context field.formulaText) := by
  rw [evalFormula_formulaText]
  simp only [Step.compute, Step.ofField, Compiled.ofText_formula]
  cases field.isBlank with
  | true => simp
  | false =>
      cases field.expr? with
      | none => simp [Outcome.toCell]
      | some e => simp

/-- In dependency order each formula field is left with what its marked step computes from the
finished row. -/
theorem Plan.dependency_get? {fields : List Field} (distinct : Field.Distinct fields)
    (now : Time.Instant) (row : Row) {field : Field} (hField : field ∈ fields)
    (hFormula : field.isFormula = true) :
    ((Plan.ofFields fields .dependency).compute now row).row.get? field.name =
      some (((Step.ofField field).mark (stepGraph (Step.ofFields fields))).compute
        ⟨((Plan.ofFields fields .dependency).compute now row).row, fields, now⟩) :=
  Plan.compute_get? now row (Plan.dependency_namesOnce distinct)
    (Plan.dependency_settled distinct)
    ((Plan.mem_dependency_steps_iff fields _).mpr ⟨field, hField, hFormula, rfl⟩)

/-- A pass in dependency order leaves a consistent row. A field with formula text holds the
outcome of this text against the finished row unless it lies on a cycle, where it holds an
error; a field without formula text holds null. -/
theorem dependency_pass_consistent {fields : List Field} {catalog : Catalog}
    (accepted : Catalog.ofFields fields = .ok catalog) (now : Time.Instant) (row : Row) :
    let final := ((Plan.ofFields fields .dependency).compute now row).row
    ∀ field ∈ fields, field.isFormula = true →
      (field.isBlank = true → final.get? field.name = some .null) ∧
      (field.isBlank = false → ¬field.OnCycle fields →
        final.get? field.name =
          some (Outcome.toCell (evalFormula ⟨final, fields, now⟩ field.formulaText))) ∧
      (field.OnCycle fields → final.get? field.name = some (.error .invalid)) := by
  intro final field hField hFormula
  have distinct := Catalog.distinct_of_ofFields accepted
  have hStored := Plan.dependency_get? distinct now row hField hFormula
  have hMark := isCircular_stepGraph_iff distinct hField hFormula
  rw [Step.mark, Step.compute_ofField] at hStored
  refine ⟨fun hBlank => ?_, fun hText hStraight => ?_, fun hCycle => ?_⟩
  · rw [hStored, if_pos hBlank]
  · rw [hStored, if_neg (by simp [hText]), if_neg fun h => hStraight (hMark.mp h.1)]
  · obtain ⟨e, hParsed⟩ := hCycle.exists_expr
    have hText : ¬field.isBlank = true := by
      intro hBlank
      rw [Field.expr?_of_isBlank hBlank] at hParsed
      cases hParsed
    rw [hStored, if_neg hText, if_pos ⟨hMark.mpr hCycle, by rw [hParsed]; rfl⟩]

/-- The total reads a field that is declared after it, the two sides read each other, and the note
has no text. A price that is an error makes the total this error. -/
theorem dependency_pass_consistent_invoice :
    ∃ catalog, Catalog.ofFields Catalog.invoice = .ok catalog ∧
      let pass := fun row => ((Plan.ofFields Catalog.invoice .dependency).compute .epoch row).row
      let final := pass (Row.empty.insert "Price" (.text "12"))
      let failed := pass (Row.empty.insert "Price" (.error .divisionByZero))
      final.get? "Total" = some (Outcome.toCell
        (evalFormula ⟨final, Catalog.invoice, .epoch⟩ "{subtotal} + {Price}")) ∧
      final.get? "Subtotal" = some (.number (-12)) ∧ final.get? "Total" = some (.number 0) ∧
      failed.get? "Total" = some (.error .divisionByZero) ∧
      final.get? "Left" = some (.error .invalid) ∧ final.get? "Note" = some .null := by
  obtain ⟨catalog, accepted⟩ := Catalog.invoice_accepted
  refine ⟨catalog, accepted, ?_⟩
  intro pass final failed
  have distinct := Catalog.distinct_of_ofFields accepted
  have hFinal := dependency_pass_consistent accepted .epoch (Row.empty.insert "Price" (.text "12"))
  have hFailed := dependency_pass_consistent accepted .epoch
    (Row.empty.insert "Price" (.error .divisionByZero))
  have hTotalStraight : ¬Catalog.invoice[1].OnCycle Catalog.invoice := by
    rw [← isCircular_stepGraph_iff distinct (List.getElem_mem _) rfl]
    decide +kernel
  have hSubtotalStraight : ¬Catalog.invoice[2].OnCycle Catalog.invoice := by
    rw [← isCircular_stepGraph_iff distinct (List.getElem_mem _) rfl]
    decide +kernel
  have hCycle : Catalog.invoice[3].OnCycle Catalog.invoice := by
    rw [← isCircular_stepGraph_iff distinct (List.getElem_mem _) rfl]
    decide +kernel
  have hSubtotal :=
    (hFinal Catalog.invoice[2] (List.getElem_mem _) rfl).2.1 (by decide) hSubtotalStraight
  have hTotal := (hFinal Catalog.invoice[1] (List.getElem_mem _) rfl).2.1 (by decide) hTotalStraight
  have hError :=
    (hFailed Catalog.invoice[1] (List.getElem_mem _) rfl).2.1 (by decide) hTotalStraight
  exact ⟨hTotal, hSubtotal.trans (by decide +kernel), hTotal.trans (by decide +kernel),
    hError.trans (by decide +kernel),
    (hFinal Catalog.invoice[3] (List.getElem_mem _) rfl).2.2 hCycle,
    (hFinal Catalog.invoice[5] (List.getElem_mem _) rfl).1 (by decide)⟩

end RowFormula
