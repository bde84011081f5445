import RowFormula.Proofs.Pass.Consistency

/-! What a pass in declared order does. It adds the names of the formula fields to those of the row
and changes no other entry. Each formula sees the fields declared before its own as they are in the
end, and its own and later ones as they were given. -/
namespace RowFormula

/-- A pass stores under the names of the row and of the formula fields, in either order. -/
theorem Plan.contains_compute_iff (fields : List Field) (order : PassOrder) (now : Time.Instant)
    (row : Row) (name : String) :
    ((Plan.ofFields fields order).compute now row).row.contains name = true ↔
      row.contains name = true ∨
        ∃ field ∈ fields, field.isFormula = true ∧ field.name = name := by
  rw [← Plan.mem_names_iff fields order name]
  by_cases hName : name ∈ (Plan.ofFields fields order).names
  · obtain ⟨cell, hCell⟩ := Plan.compute_get?_of_mem now row hName
    simp [Row.contains, hCell, hName]
  · simp [Row.contains, Plan.compute_get?_of_not_mem now row hName, hName]

/-- What is stored under a name that no formula field has is left as it is, in either order. -/
theorem Plan.compute_get?_of_stored {fields : List Field} (order : PassOrder) (now : Time.Instant)
    (row : Row) {name : String}
    (h : ∀ field ∈ fields, field.isFormula = true → field.name ≠ name) :
    ((Plan.ofFields fields order).compute now row).row.get? name = row.get? name := by
  apply Plan.compute_get?_of_not_mem
  rw [Plan.mem_names_iff]
  rintro ⟨field, hField, hFormula, hName⟩
  exact h field hField hFormula hName

/-- The steps of a table that is cut at a formula field are cut there too. -/
theorem Step.ofFields_append_cons {before after : List Field} {field : Field}
    (hFormula : field.isFormula = true) :
    ofFields (before ++ field :: after) = ofFields before ++ ofField field :: ofFields after := by
  simp [ofFields, hFormula]

/-- In declared order a row gets the names of the formula fields beside its own, and no other entry
changes, whatever the order. A formula field without text holds null. Any other holds the outcome
of its text against the row in which the formula fields declared before it have their final cells
and all else is as it was given. -/
theorem declared_pass_in_turn {fields : List Field} {catalog : Catalog}
    (accepted : Catalog.ofFields fields = .ok catalog) (now : Time.Instant) (row : Row) :
    let final := ((Plan.ofFields fields .declared).compute now row).row
    (∀ name, final.contains name = true ↔
      row.contains name = true ∨ ∃ field ∈ fields, field.isFormula = true ∧ field.name = name) ∧
    (∀ order name, (∀ field ∈ fields, field.isFormula = true → field.name ≠ name) →
      ((Plan.ofFields fields order).compute now row).row.get? name = row.get? name) ∧
    ∀ before field after, fields = before ++ field :: after → field.isFormula = true →
      ∃ seen : Row,
        (∀ name, seen.get? name =
          if ∃ earlier ∈ before, earlier.isFormula = true ∧ earlier.name = name then
            final.get? name
          else row.get? name) ∧
        final.get? field.name = some (
          if field.isBlank = true then .null
          else Outcome.toCell (evalFormula ⟨seen, fields, now⟩ field.formulaText)) := by
  intro final
  refine ⟨Plan.contains_compute_iff fields .declared now row,
    fun order _ h => Plan.compute_get?_of_stored order now row h, ?_⟩
  intro before field after hSplit hFormula
  have hSteps : (Plan.ofFields fields .declared).steps =
      Step.ofFields before ++ Step.ofField field :: Step.ofFields after := by
    rw [← Step.ofFields_append_cons hFormula, ← hSplit]
    rfl
  obtain ⟨seen, hSeen, hStored⟩ := Plan.exists_seen now row
    (Plan.declared_namesOnce (Catalog.distinct_of_ofFields accepted)) hSteps
  refine ⟨seen, fun name => (hSeen name).trans (if_congr ?_ rfl rfl), hStored.trans ?_⟩
  · exact Plan.mem_names_iff before .declared name
  · have hCell := Step.compute_ofField field false ⟨seen, fields, now⟩
    rw [if_neg (c := false = true ∧ _) (by simp)] at hCell
    exact congrArg some hCell

/-- The total reads the subtotal that was stored before the pass, since its own formula is declared
first, and is the error that a price is. The right side reads the left side that the pass has
computed. -/
theorem declared_pass_in_turn_invoice :
    ∃ catalog, Catalog.ofFields Catalog.invoice = .ok catalog ∧
      let row := (Row.empty.insert "Price" (.text "12")).insert "Subtotal" (.text "5")
      let failing := Row.empty.insert "Price" (.error .divisionByZero)
      let pass := fun row => ((Plan.ofFields Catalog.invoice .declared).compute .epoch row).row
      let final := pass row
      final.contains "Left" = true ∧ final.contains "left" = false ∧
      final.get? "Price" = some (.text "12") ∧ final.get? "Note" = some .null ∧
      final.get? "Total" = some (Outcome.toCell
        (evalFormula ⟨row, Catalog.invoice, .epoch⟩ "{subtotal} + {Price}")) ∧
      final.get? "Total" = some (.number 17) ∧
      (pass failing).get? "Total" = some (.error .divisionByZero) ∧
      ∃ seen : Row, seen.get? "Left" = final.get? "Left" ∧ seen.get? "Right" = none ∧
        final.get? "Right" = some (Outcome.toCell
          (evalFormula ⟨seen, Catalog.invoice, .epoch⟩ "{LEFT}")) := by
  obtain ⟨catalog, accepted⟩ := Catalog.invoice_accepted
  refine ⟨catalog, accepted, ?_⟩
  intro row failing pass final
  -- what the total is computed from is the row that was given
  have hTotal (given : Row) : (pass given).get? "Total" = some (Outcome.toCell
      (evalFormula ⟨given, Catalog.invoice, .epoch⟩ "{subtotal} + {Price}")) := by
    obtain ⟨-, -, hTurn⟩ := declared_pass_in_turn accepted .epoch given
    obtain ⟨start, hStart, hStored⟩ :=
      hTurn [Catalog.invoice[0]] Catalog.invoice[1] (Catalog.invoice.drop 2) rfl rfl
    have hSame : start = given := by
      apply Row.eq_of_get?
      intro name
      rw [hStart name, if_neg (by simp [Catalog.invoice, Field.isFormula])]
    exact hSame ▸ hStored
  obtain ⟨hNames, hOthers, hTurn⟩ := declared_pass_in_turn accepted .epoch row
  obtain ⟨seen, hSeen, hRight⟩ :=
    hTurn (Catalog.invoice.take 4) Catalog.invoice[4] (Catalog.invoice.drop 5) rfl rfl
  obtain ⟨_, -, hNote⟩ := hTurn (Catalog.invoice.take 5) Catalog.invoice[5] [] rfl rfl
  refine ⟨(hNames "Left").mpr (.inr ?left), ?lower, ?price, hNote, hTotal row,
    (hTotal row).trans ?sum, (hTotal failing).trans ?failed, seen, ?_, ?_, hRight⟩
  case left => exact ⟨Catalog.invoice[3], List.getElem_mem _, rfl, rfl⟩
  case lower => exact Bool.eq_false_iff.mpr fun h => absurd ((hNames "left").mp h) (by decide)
  case price => exact (hOthers .declared "Price" (by decide)).trans (by decide)
  case sum => decide +kernel
  case failed => decide +kernel
  · exact (hSeen "Left").trans (if_pos (by decide))
  · exact (hSeen "Right").trans (if_neg (by decide))

end RowFormula
