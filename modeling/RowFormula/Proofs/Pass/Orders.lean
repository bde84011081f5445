import RowFormula.Proofs.Pass.Run

/-! When the two orders are one. If each formula reads only formula fields that are declared before
its own, dependency order reorders nothing and finds no cycle, so both orders have one plan. -/
namespace RowFormula

open Relation

/-- Each formula field reads only formula fields that are declared before it. -/
def Field.ReadsEarlier (fields : List Field) : Prop :=
  ∀ i j : Fin fields.length, Field.Reads fields fields[i] fields[j] → j < i

instance (fields : List Field) : Decidable (Field.ReadsEarlier fields) :=
  inferInstanceAs (Decidable (∀ i j : Fin fields.length,
    Field.Reads fields fields[i] fields[j] → j < i))

namespace Field.ReadsEarlier

variable {fields : List Field} (earlier : Field.ReadsEarlier fields)

include earlier

/-- References lead towards the first field. -/
theorem lt_of_path (i : Fin fields.length) {last : Field}
    (path : TransGen (Field.Reads fields) fields[i] last) :
    ∃ j : Fin fields.length, fields[j] = last ∧ j < i := by
  induction path with
  | single hRead =>
      obtain ⟨j, rfl⟩ := List.mem_iff_get.mp hRead.read_mem
      exact ⟨j, rfl, earlier i j hRead⟩
  | tail _ hRead ih =>
      obtain ⟨j, rfl, hLess⟩ := ih
      obtain ⟨k, rfl⟩ := List.mem_iff_get.mp hRead.read_mem
      exact ⟨k, rfl, lt_trans (earlier j k hRead) hLess⟩

/-- References that lead backwards do not lead back to where they start. -/
theorem not_onCycle (distinct : Field.Distinct fields) {field : Field} (hField : field ∈ fields) :
    ¬field.OnCycle fields := by
  intro hCycle
  obtain ⟨i, rfl⟩ := List.mem_iff_get.mp hField
  obtain ⟨j, hSame, hLess⟩ := earlier.lt_of_path i hCycle
  exact hLess.ne (List.nodup_iff_injective_get.mp distinct.nodup hSame)

/-- A field that reads only earlier ones does not read itself. -/
theorem not_reads_self (distinct : Field.Distinct fields) {field : Field}
    (hField : field ∈ fields) : ¬Field.Reads fields field field :=
  fun hRead => earlier.not_onCycle distinct hField (TransGen.single hRead)

theorem pairwise_not_reads :
    fields.Pairwise fun field later => ¬Field.Reads fields field later := by
  rw [List.pairwise_iff_getElem]
  intro i j hi hj hLess hRead
  have hBack := earlier ⟨i, hi⟩ ⟨j, hj⟩ hRead
  exact Nat.lt_asymm hLess hBack

/-- No step gets a mark. -/
theorem mark_eq (distinct : Field.Distinct fields) {step : Step}
    (hs : step ∈ Step.ofFields fields) : step.mark (stepGraph (Step.ofFields fields)) = step := by
  obtain ⟨field, hf, hFormula, rfl⟩ := (Step.mem_ofFields_iff fields step).mp hs
  have hStraight :
      (stepGraph (Step.ofFields fields)).isCircular (Field.key field.name) = false := by
    rw [Bool.eq_false_iff, ne_eq, isCircular_stepGraph_iff distinct hf hFormula]
    exact earlier.not_onCycle distinct hf
  rw [Step.mark, Step.key_ofField, hStraight]
  rfl

/-- The keys are in dependency order as they are declared. -/
theorem order_eq (distinct : Field.Distinct fields) :
    (stepGraph (Step.ofFields fields)).order ((Step.ofFields fields).map Step.key) =
      (Step.ofFields fields).map Step.key := by
  apply Graph.order_eq_self _ (Step.nodup_keys_ofFields distinct)
  · intro key hk hRead
    obtain ⟨step, hs, rfl⟩ := List.mem_map.mp hk
    obtain ⟨field, hf, hFormula, rfl⟩ := (Step.mem_ofFields_iff fields step).mp hs
    exact earlier.not_reads_self distinct hf
      ((stepGraph_reads_keys_iff distinct hf hFormula hf hFormula).mp hRead)
  · rw [Step.ofFields, List.map_map, List.pairwise_map]
    have hFiltered := earlier.pairwise_not_reads.filter Field.isFormula
    refine hFiltered.imp_of_mem ?_
    intro field later hf hl hNot hRead
    obtain ⟨hf, hFormula⟩ := List.mem_filter.mp hf
    obtain ⟨hl, hFormula'⟩ := List.mem_filter.mp hl
    exact hNot ((stepGraph_reads_keys_iff distinct hf hFormula hl hFormula').mp hRead)

/-- Both orders make the same plan. -/
theorem plan_eq (distinct : Field.Distinct fields) :
    Plan.ofFields fields .dependency = Plan.ofFields fields .declared := by
  have hSteps : orderSteps (Step.ofFields fields) = Step.ofFields fields := by
    rw [orderSteps, earlier.order_eq distinct, List.flatMap_map]
    have hEach : ∀ step ∈ Step.ofFields fields,
        stepsOf (stepGraph (Step.ofFields fields)) (Step.ofFields fields) step.key = [step] := by
      intro step hs
      rw [stepsOf_key (Step.nodup_keys_ofFields distinct) _ hs, earlier.mark_eq distinct hs]
    rw [List.flatMap_congr hEach]
    simp
  exact congrArg (Plan.mk fields) hSteps

end Field.ReadsEarlier

/-- If every formula reads only formula fields declared before its own, dependency order computes
the fields as they are declared, marks none of them circular, and leaves the same row and the
same tally as declared order. -/
theorem orders_agree {fields : List Field} {catalog : Catalog}
    (accepted : Catalog.ofFields fields = .ok catalog) (earlier : Field.ReadsEarlier fields) :
    (Plan.ofFields fields .dependency).names = (Plan.ofFields fields .declared).names ∧
      (∀ step ∈ (Plan.ofFields fields .dependency).steps, step.circular = false) ∧
      ∀ (now : Time.Instant) (row : Row), (Plan.ofFields fields .dependency).compute now row =
        (Plan.ofFields fields .declared).compute now row := by
  rw [earlier.plan_eq (Catalog.distinct_of_ofFields accepted)]
  refine ⟨rfl, fun step hs => ?_, fun _ _ => rfl⟩
  obtain ⟨field, _, _, rfl⟩ := (Step.mem_ofFields_iff fields step).mp hs
  rfl

/-- The invoice without its cycle, with the subtotal before the total. -/
theorem orders_agree_invoice :
    let fields := [Catalog.invoice[0], Catalog.invoice[2], Catalog.invoice[1], Catalog.invoice[5]]
    ∃ catalog, Catalog.ofFields fields = .ok catalog ∧
      (Plan.ofFields fields .dependency).names = ["Subtotal", "Total", "Note"] ∧
      (∀ (now : Time.Instant) (row : Row), (Plan.ofFields fields .dependency).compute now row =
        (Plan.ofFields fields .declared).compute now row) ∧
      ((Plan.ofFields fields .dependency).compute .epoch
        (Row.empty.insert "Price" (.text "12"))).row.get? "Subtotal" = some (.number (-12)) := by
  intro fields
  obtain ⟨catalog, accepted⟩ : ∃ catalog, Catalog.ofFields fields = .ok catalog :=
    (Catalog.ofFields_isOk_iff fields).mpr ⟨by decide, by unfold Field.Distinct; decide⟩
  obtain ⟨hNames, -, hSame⟩ := orders_agree accepted (by decide +kernel)
  refine ⟨catalog, accepted, hNames, hSame, ?_⟩
  rw [hSame]
  decide +kernel

end RowFormula
