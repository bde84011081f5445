import RowFormula.Proofs.Pass.Locality

/-! Isolation of fields. Another formula for one field, good or bad, changes nothing for the
fields from which it cannot be reached, in either order of computation. -/
namespace RowFormula

open Relation

/-- A formula field from which another field cannot be reached by following references. -/
structure Field.Apart (fields : List Field) (x f : Field) : Prop where
  mem : f ∈ fields
  isFormula : f.isFormula = true
  ne : f ≠ x
  unreached : ¬TransGen (Field.Reads fields) f x

section Replacement

variable {before after : List Field} {x : Field} (replacement : Option String)
  (distinct : Field.Distinct (before ++ x :: after))

include distinct

/-- Another formula leaves the names as they are. -/
theorem distinct_of_replacement :
    Field.Distinct (before ++ { x with formula := replacement } :: after) := by
  simpa [Field.Distinct] using distinct

/-- Formula fields from which a field cannot be reached are shared with the table in which this
field has another formula. -/
theorem shared_of_replacement (hFormula : x.isFormula = true) (row : Row) :
    Shared (before ++ x :: after) (before ++ { x with formula := replacement } :: after) row row
      (Field.Apart (before ++ x :: after) x) where
  mem_left _ h := h.mem
  mem_right f h := by
    have hMem := h.mem
    simp only [List.mem_append, List.mem_cons] at hMem ⊢
    exact hMem.imp_right fun hTail => Or.inr (hTail.resolve_left h.ne)
  isFormula _ h := h.isFormula
  found f h e hParsed name hRef := by
    have hNot : ¬x.hasName name = true := by
      intro hName
      exact h.unreached (TransGen.single
        ⟨h.mem, h.isFormula, by simp, hFormula, e, hParsed, name, hRef, hName⟩)
    refine distinct.find?_congr (distinct_of_replacement replacement distinct) name ?_
    intro field hName
    have hLeft : field ≠ x := fun same => hNot (same ▸ hName)
    have hRight : field ≠ { x with formula := replacement } := by
      intro same
      rw [same] at hName
      exact hNot hName
    simp [hLeft, hRight]
  closed f g h hRead := by
    refine ⟨hRead.read_mem, hRead.read_isFormula, ?_, fun path => h.unreached (path.head hRead)⟩
    rintro rfl
    exact h.unreached (TransGen.single hRead)
  stored _ _ _ _ _ _ := rfl

/-- In declared order both passes make the same turns, and only the turn of the field itself may
store different cells. -/
theorem declared_agree_of_replacement (hFormula : x.isFormula = true) (now : Time.Instant)
    (row : Row) :
    Shared.Agree (before ++ x :: after) (Field.Apart (before ++ x :: after) x)
      ((Plan.ofFields (before ++ x :: after) .declared).compute now row).row
      ((Plan.ofFields (before ++ { x with formula := replacement } :: after) .declared).compute
        now row).row := by
  have shared := shared_of_replacement replacement distinct hFormula row
  have distinct' := distinct_of_replacement replacement distinct
  have hSteps : ∀ y : Field, y.isFormula = true →
      (Plan.ofFields (before ++ y :: after) .declared).steps =
        Step.ofFields before ++ Step.ofField y :: Step.ofFields after := by
    intro y hy
    simp [Plan.ofFields, Plan.make, Step.ofFields, hy]
  simp only [Plan.compute, hSteps x hFormula, hSteps { x with formula := replacement } hFormula,
    List.foldl_append, List.foldl_cons]
  apply Shared.Agree.foldl shared distinct distinct' now
  · exact fun f hf => List.mem_append_right _ (List.mem_cons_of_mem _ hf)
  · apply Shared.Agree.next shared distinct distinct' now _ (by simp) hFormula rfl rfl
    · exact fun h => absurd rfl h.ne
    · apply Shared.Agree.foldl shared distinct distinct' now
      · exact fun f hf => List.mem_append_left _ hf
      · exact fun _ _ _ => rfl

end Replacement

/-- Replacing the formula of one field by any text, or by none, leaves the cell of every other
formula field from which the field cannot be reached by following references. -/
theorem replacement_is_isolated {before after : List Field} {x : Field} {catalog : Catalog}
    (accepted : Catalog.ofFields (before ++ x :: after) = .ok catalog)
    (hFormula : x.isFormula = true) (replacement : Option String) (order : PassOrder)
    (now : Time.Instant) (row : Row) {y : Field} (hOther : y ∈ before ++ after)
    (hFormula' : y.isFormula = true)
    (unreached : ¬TransGen (Field.Reads (before ++ x :: after)) y x) :
    ∃ cell,
      ((Plan.ofFields (before ++ x :: after) order).compute now row).row.get? y.name =
        some cell ∧
      ((Plan.ofFields (before ++ { x with formula := replacement } :: after) order).compute
        now row).row.get? y.name = some cell := by
  have distinct := Catalog.distinct_of_ofFields accepted
  have hMem : y ∈ before ++ x :: after := by
    rcases List.mem_append.mp hOther with hBefore | hAfter
    · exact List.mem_append_left _ hBefore
    · exact List.mem_append_right _ (List.mem_cons_of_mem _ hAfter)
  have hNe : y ≠ x := by
    rintro rfl
    exact (List.nodup_middle.mp distinct.nodup).notMem hOther
  have hApart : Field.Apart (before ++ x :: after) x y := ⟨hMem, hFormula', hNe, unreached⟩
  obtain ⟨cell, hCell⟩ := Plan.compute_get?_of_mem now row
    ((Plan.mem_names_iff (before ++ x :: after) order y.name).mpr ⟨y, hMem, hFormula', rfl⟩)
  refine ⟨cell, hCell, ?_⟩
  rw [← hCell]
  cases order with
  | declared =>
      exact (declared_agree_of_replacement replacement distinct hFormula now row y hMem
        fun _ => hApart).symm
  | dependency =>
      exact ((shared_of_replacement replacement distinct hFormula row).dependency_get?_eq distinct
        (distinct_of_replacement replacement distinct) now hApart).symm

/-- The total does not reach the left side, which is no formula any more. -/
theorem replacement_is_isolated_invoice :
    ∃ catalog, Catalog.ofFields Catalog.invoice = .ok catalog ∧
      let broken := { Catalog.invoice[3] with formula := some "-" }
      let pass := (Plan.ofFields Catalog.invoice .declared).compute .epoch .empty
      let pass' := (Plan.ofFields (Catalog.invoice.set 3 broken) .declared).compute .epoch .empty
      pass.row.get? "Total" = some (.number 0) ∧ pass'.row.get? "Total" = some (.number 0) := by
  obtain ⟨catalog, accepted⟩ := Catalog.invoice_accepted
  have hApart : ¬TransGen (Field.Reads Catalog.invoice) Catalog.invoice[1] Catalog.invoice[3] := by
    rw [← stepGraph_path_iff (Catalog.distinct_of_ofFields accepted) (List.getElem_mem _) rfl
      (List.getElem_mem _) rfl, ← Graph.mem_reach_readKeys_iff]
    decide +kernel
  have hSplit : Catalog.ofFields (Catalog.invoice.take 3 ++
      Catalog.invoice[3] :: Catalog.invoice.drop 4) = .ok catalog := accepted
  have hOther : Catalog.invoice[1] ∈ Catalog.invoice.take 3 ++ Catalog.invoice.drop 4 := by decide
  obtain ⟨cell, hCell, hCell'⟩ := replacement_is_isolated hSplit rfl (some "-") .declared .epoch
    .empty hOther rfl hApart
  have hZero : cell = .number 0 := Option.some.inj (hCell.symm.trans (by decide +kernel))
  subst hZero
  exact ⟨catalog, accepted, hCell, hCell'⟩

end RowFormula
