import RowFormula.Proofs.Pass.Locality

/-! In dependency order the stored fields settle everything. Neither the order in which fields are
declared nor what a row happens to store under the names of formula fields has any influence,
so a computed row is a fixed point. -/
namespace RowFormula

/-- Formula fields depend on the cells of stored fields alone. -/
theorem shared_of_perm {fields others : List Field} (distinct : Field.Distinct fields)
    (permuted : fields.Perm others) {row row' : Row}
    (agree : ∀ name, (∀ field ∈ fields, field.isFormula = true → field.name ≠ name) →
      row.get? name = row'.get? name) :
    Shared fields others row row' (fun field => field ∈ fields ∧ field.isFormula = true) where
  mem_left _ h := h.1
  mem_right _ h := permuted.mem_iff.mp h.1
  isFormula _ h := h.2
  found _ _ _ _ name _ :=
    distinct.find?_congr (distinct.perm permuted) name fun _ _ => permuted.mem_iff
  closed _ _ _ hRead := ⟨hRead.read_mem, hRead.read_isFormula⟩
  stored _ g _ hg _ hStored := by
    apply agree
    intro field hf hFormula hName
    rw [distinct.eq_of_name hf hg hName, hStored] at hFormula
    cases hFormula

section Permuted

variable {fields others : List Field} (distinct : Field.Distinct fields)
  (permuted : fields.Perm others) (now : Time.Instant) {row row' : Row}
  (agree : ∀ name, (∀ field ∈ fields, field.isFormula = true → field.name ≠ name) →
    row.get? name = row'.get? name)

include distinct permuted agree

/-- A formula field gets the same cell, whatever the order of the fields and whatever is stored
under the names of formula fields. -/
theorem dependency_get?_of_perm {field : Field} (hField : field ∈ fields)
    (hFormula : field.isFormula = true) :
    ((Plan.ofFields fields .dependency).compute now row).row.get? field.name =
      ((Plan.ofFields others .dependency).compute now row').row.get? field.name :=
  (shared_of_perm distinct permuted agree).dependency_get?_eq distinct
    (distinct.perm permuted) now ⟨hField, hFormula⟩

/-- The plans for two orders of declaration have the same marked steps. -/
theorem dependency_steps_perm_of_perm :
    (Plan.ofFields fields .dependency).steps.Perm (Plan.ofFields others .dependency).steps := by
  have hMarks : (Step.ofFields fields).map (Step.mark (stepGraph (Step.ofFields fields))) =
      (Step.ofFields fields).map (Step.mark (stepGraph (Step.ofFields others))) := by
    apply List.map_congr_left
    intro step hs
    obtain ⟨field, hf, hFormula, rfl⟩ := (Step.mem_ofFields_iff fields step).mp hs
    exact (shared_of_perm distinct permuted agree).mark_eq distinct
      (distinct.perm permuted) ⟨hf, hFormula⟩
  have hSteps : (Step.ofFields fields).Perm (Step.ofFields others) :=
    (permuted.filter _).map Step.ofField
  refine (Plan.dependency_steps_perm fields).trans ?_
  rw [hMarks]
  exact (hSteps.map _).trans (Plan.dependency_steps_perm others).symm

/-- What is counted is the same as well. -/
theorem dependency_tally_of_perm :
    ((Plan.ofFields fields .dependency).compute now row).tally =
      ((Plan.ofFields others .dependency).compute now row').tally := by
  apply Plan.compute_tally_eq now row (Plan.dependency_namesOnce distinct)
    (Plan.dependency_namesOnce (distinct.perm permuted))
    (dependency_steps_perm_of_perm distinct permuted agree)
  intro step hs
  obtain ⟨field, hf, hFormula, rfl⟩ := (Plan.mem_dependency_steps_iff fields step).mp hs
  exact dependency_get?_of_perm distinct permuted now agree hf hFormula

end Permuted

/-- A computed row agrees with the row that it was computed from on all stored fields. -/
theorem dependency_keeps_stored (fields : List Field) (now : Time.Instant) (row : Row)
    {name : String} (h : ∀ field ∈ fields, field.isFormula = true → field.name ≠ name) :
    ((Plan.ofFields fields .dependency).compute now row).row.get? name = row.get? name := by
  apply Plan.compute_get?_of_not_mem
  intro hName
  obtain ⟨field, hf, hFormula, hSame⟩ := (Plan.mem_names_iff fields _ name).mp hName
  exact h field hf hFormula hSame

/-- Computing a computed row again changes nothing, and the same things happen. -/
theorem dependency_compute_compute {fields : List Field} (distinct : Field.Distinct fields)
    (now : Time.Instant) (row : Row) :
    (Plan.ofFields fields .dependency).compute now
        ((Plan.ofFields fields .dependency).compute now row).row =
      (Plan.ofFields fields .dependency).compute now row := by
  have hAgree : ∀ name, (∀ field ∈ fields, field.isFormula = true → field.name ≠ name) →
      ((Plan.ofFields fields .dependency).compute now row).row.get? name = row.get? name :=
    fun name h => dependency_keeps_stored fields now row h
  have hTally := dependency_tally_of_perm distinct (List.Perm.refl fields) now hAgree
  have hRow : ((Plan.ofFields fields .dependency).compute now
      ((Plan.ofFields fields .dependency).compute now row).row).row =
        ((Plan.ofFields fields .dependency).compute now row).row := by
    apply Row.eq_of_get?
    intro name
    by_cases hName : ∃ field ∈ fields, field.isFormula = true ∧ field.name = name
    · obtain ⟨field, hf, hFormula, rfl⟩ := hName
      exact dependency_get?_of_perm distinct (List.Perm.refl fields) now hAgree hf hFormula
    · exact dependency_keeps_stored fields now _ fun field hf hFormula hSame =>
        hName ⟨field, hf, hFormula, hSame⟩
  exact Computed.ext hRow hTally

/-- In dependency order the formula fields and the tally are a function of the stored fields. Two
orders of declaration and two rows that differ in stale cells of formula fields give every
formula field the same cell and make the same tally, and a computed row is not changed by
computing it again. -/
theorem dependency_pass_of_stored_fields {fields others : List Field} {catalog : Catalog}
    (accepted : Catalog.ofFields fields = .ok catalog) (permuted : fields.Perm others)
    (now : Time.Instant) (row row' : Row)
    (agree : ∀ name, (∀ field ∈ fields, field.isFormula = true → field.name ≠ name) →
      row.get? name = row'.get? name) :
    let computed := (Plan.ofFields fields .dependency).compute now row
    let computed' := (Plan.ofFields others .dependency).compute now row'
    (∀ field ∈ fields, field.isFormula = true →
      ∃ cell, computed.row.get? field.name = some cell ∧
        computed'.row.get? field.name = some cell) ∧
      computed.tally = computed'.tally ∧
      (Plan.ofFields fields .dependency).compute now computed.row = computed := by
  have distinct := Catalog.distinct_of_ofFields accepted
  refine ⟨fun field hField hFormula => ?_, ?_, ?_⟩
  · have hStored := Plan.dependency_get? distinct now row hField hFormula
    have hSame := dependency_get?_of_perm distinct permuted now agree hField hFormula
    exact ⟨_, hStored, hSame ▸ hStored⟩
  · exact dependency_tally_of_perm distinct permuted now agree
  · exact dependency_compute_compute distinct now row

/-- The total of the invoice, read from the last field to the first and over a stale cell. -/
theorem dependency_pass_of_stored_fields_invoice :
    ∃ catalog, Catalog.ofFields Catalog.invoice = .ok catalog ∧
      let row := Row.empty.insert "Price" (.text "12")
      let computed := (Plan.ofFields Catalog.invoice .dependency).compute .epoch row
      let computed' := (Plan.ofFields Catalog.invoice.reverse .dependency).compute .epoch
        (row.insert "Total" (.text "stale"))
      computed.row.get? "Total" = some (.number 0) ∧
        computed'.row.get? "Total" = some (.number 0) ∧
      computed.tally = computed'.tally := by
  obtain ⟨catalog, accepted⟩ := Catalog.invoice_accepted
  have hAgree : ∀ name,
      (∀ field ∈ Catalog.invoice, field.isFormula = true → field.name ≠ name) →
        (Row.empty.insert "Price" (.text "12")).get? name =
          ((Row.empty.insert "Price" (.text "12")).insert "Total" (.text "stale")).get? name := by
    intro name hNames
    have hTotal : "Total" ≠ name := hNames Catalog.invoice[1] (List.getElem_mem _) rfl
    rw [Row.get?_insert _ "Total", if_neg hTotal.symm]
  obtain ⟨hCells, hTally, -⟩ :=
    dependency_pass_of_stored_fields accepted (List.reverse_perm _).symm .epoch _ _ hAgree
  obtain ⟨cell, hCell, hCell'⟩ := hCells Catalog.invoice[1] (List.getElem_mem _) rfl
  have hZero : cell = .number 0 := Option.some.inj (hCell.symm.trans (by decide +kernel))
  subst hZero
  exact ⟨catalog, accepted, hCell, hCell', hTally⟩

end RowFormula
