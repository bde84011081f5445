import RowFormula.Proofs.Pass.Consistency

/-! What a pass counts. Each step belongs to one of four kinds, and the tally has a number for three
of them; the formulas that cannot be read are the rest. Errors are counted beside the kinds, when
they are computed, and since no field is computed twice they are the errors of the finished row. -/
namespace RowFormula

namespace Step

def isBlank (step : Step) : Bool :=
  match step.formula with
  | .blank => true
  | _ => false

def isInvalid (step : Step) : Bool :=
  match step.formula with
  | .invalid => true
  | _ => false

/-- The formula is not evaluated because it lies on a cycle. -/
def isSkipped (step : Step) : Bool := step.formula.expr?.isSome && step.circular

def isEvaluated (step : Step) : Bool := step.formula.expr?.isSome && !step.circular

end Step

/-- Every step is of one kind. -/
theorem length_eq_sum_kinds (steps : List Step) :
    steps.length = steps.countP Step.isBlank + steps.countP Step.isEvaluated +
      steps.countP Step.isSkipped + steps.countP Step.isInvalid := by
  induction steps with
  | nil => rfl
  | cons step steps ih =>
      -- the four conditions exclude each other, and one of them holds
      have hOne : 1 = (if step.isBlank then 1 else 0) + (if step.isEvaluated then 1 else 0) +
          (if step.isSkipped then 1 else 0) + (if step.isInvalid then 1 else 0) := by
        unfold Step.isBlank Step.isEvaluated Step.isSkipped Step.isInvalid
        cases step.formula <;> cases step.circular <;> rfl
      simp only [List.length_cons, List.countP_cons]
      omega

/-- What one step adds to each number. -/
theorem Tally.share_eq (step : Step) (cell : Cell) :
    share step cell =
      ⟨0, if step.isEvaluated then 1 else 0, if cell.error?.isSome then 1 else 0,
        if step.isBlank then 1 else 0, if step.isSkipped then 1 else 0⟩ := by
  unfold share add Step.isBlank Step.isEvaluated Step.isSkipped
  cases step.formula <;> cases step.circular <;> cases cell.error? <;> rfl

/-- A tally counts the steps of each kind and the cells that are errors. -/
theorem Tally.foldl_add (steps : List Step) (cell : Step → Cell) (tally : Tally) :
    steps.foldl (fun tally step => tally.add step (cell step)) tally =
      ⟨tally.formulas, tally.calculated + steps.countP Step.isEvaluated,
        tally.errors + steps.countP fun step => (cell step).error?.isSome,
        tally.blank + steps.countP Step.isBlank, tally.circular + steps.countP Step.isSkipped⟩ := by
  induction steps generalizing tally with
  | nil => rfl
  | cons step steps ih =>
      rw [List.foldl_cons, ih, add_eq, share_eq]
      simp only [List.countP_cons, Tally.mk.injEq]
      omega

/-! The steps of the formula fields. -/

/-- The text of a field compiles to a tree if it is a formula. -/
theorem Compiled.expr?_ofText (field : Field) : (ofText field.formula).expr? = field.expr? := by
  rw [ofText_formula]
  split
  · rename_i hBlank
    exact (Field.expr?_of_isBlank hBlank).symm
  · cases field.expr? <;> rfl

namespace Step

variable (fields : List Field) (order : PassOrder) (field : Field)

theorem isBlank_ofFieldIn : (ofFieldIn fields order field).isBlank = field.isBlank := by
  rw [isBlank, formula_ofFieldIn, Compiled.ofText_formula]
  cases field.isBlank with
  | true => rfl
  | false => cases field.expr? <;> rfl

theorem isInvalid_ofFieldIn :
    (ofFieldIn fields order field).isInvalid = (!field.isBlank && field.expr?.isNone) := by
  rw [isInvalid, formula_ofFieldIn, Compiled.ofText_formula]
  cases field.isBlank with
  | true => rfl
  | false => cases field.expr? <;> rfl

variable {fields field}

/-- A formula is skipped when dependency order finds it on a cycle. -/
theorem isSkipped_ofFieldIn (distinct : Field.Distinct fields) (hField : field ∈ fields)
    (hFormula : field.isFormula = true) :
    (ofFieldIn fields order field).isSkipped = true ↔
      order = .dependency ∧ field.expr?.isSome = true ∧ field.OnCycle fields := by
  rw [isSkipped, formula_ofFieldIn, Compiled.expr?_ofText, Bool.and_eq_true]
  cases order with
  | declared => simp [ofFieldIn, ofField]
  | dependency =>
      simpa [ofFieldIn, mark] using fun _ => isCircular_stepGraph_iff distinct hField hFormula

end Step

namespace Plan

variable (fields : List Field) (order : PassOrder)

/-- Counting steps is counting formula fields. -/
theorem countP_steps {p : Step → Bool} {q : Field → Bool}
    (same : ∀ field ∈ fields, field.isFormula = true →
      (p (Step.ofFieldIn fields order field) = true ↔ q field = true)) :
    (ofFields fields order).steps.countP p = (fields.filter Field.isFormula).countP q := by
  rw [(steps_perm fields order).countP_eq, List.countP_map]
  refine List.countP_congr fun field hMem => ?_
  obtain ⟨hField, hFormula⟩ := List.mem_filter.mp hMem
  exact same field hField hFormula

/-- A pass counts the steps of its plan by their kinds, and the errors in the finished row. -/
theorem compute_tally_counts {plan : Plan} (now : Time.Instant) (row : Row)
    (once : plan.NamesOnce) :
    (plan.compute now row).tally =
      ⟨plan.size, plan.steps.countP Step.isEvaluated,
        plan.steps.countP fun step =>
          (((plan.compute now row).row.get? step.name).getD .null).error?.isSome,
        plan.steps.countP Step.isBlank, plan.steps.countP Step.isSkipped⟩ := by
  rw [compute_tally now row once, Tally.foldl_add plan.steps fun step =>
    ((plan.compute now row).row.get? step.name).getD .null]
  simp only [Nat.zero_add]

end Plan

open Classical in
/-- The tally of a pass accounts for every formula field. A field is counted as blank, as calculated
or as circular, or not at all when its text is no formula; and it is counted as an error when the
finished row has an error for it. -/
theorem tally_accounts_for_fields {fields : List Field} {catalog : Catalog}
    (accepted : Catalog.ofFields fields = .ok catalog) (order : PassOrder) (now : Time.Instant)
    (row : Row) :
    let formulas := fields.filter Field.isFormula
    let computed := (Plan.ofFields fields order).compute now row
    let tally := computed.tally
    tally.formulas = formulas.length ∧
      tally.blank = formulas.countP Field.isBlank ∧
      (order = .dependency → tally.circular =
        formulas.countP fun field => field.expr?.isSome && decide (field.OnCycle fields)) ∧
      (order = .declared → tally.circular = 0) ∧
      tally.formulas = tally.blank + tally.calculated + tally.circular +
        formulas.countP (fun field => !field.isBlank && field.expr?.isNone) ∧
      tally.errors = formulas.countP fun field =>
        ((computed.row.get? field.name).bind Cell.error?).isSome := by
  intro formulas computed tally
  have distinct := Catalog.distinct_of_ofFields accepted
  let plan := Plan.ofFields fields order
  -- a cell that was counted when it was computed still stands in the finished row
  have hTally : tally = _ :=
    Plan.compute_tally_counts now row (Plan.ofFields_namesOnce distinct order)
  have hSize : plan.size = formulas.length := by
    rw [Plan.size, (Plan.steps_perm fields order).length_eq, List.length_map]
  have hBlank : plan.steps.countP Step.isBlank = formulas.countP Field.isBlank :=
    Plan.countP_steps fields order fun field _ _ => by rw [Step.isBlank_ofFieldIn]
  have hInvalid : plan.steps.countP Step.isInvalid =
      formulas.countP fun field => !field.isBlank && field.expr?.isNone :=
    Plan.countP_steps fields order fun field _ _ => by rw [Step.isInvalid_ofFieldIn]
  have hSkipped : plan.steps.countP Step.isSkipped = formulas.countP fun field =>
      decide (order = .dependency ∧ field.expr?.isSome = true ∧ field.OnCycle fields) :=
    Plan.countP_steps fields order fun field hField hFormula => by
      rw [Step.isSkipped_ofFieldIn order distinct hField hFormula, decide_eq_true_iff]
  have hErrors : tally.errors = formulas.countP fun field =>
      ((computed.row.get? field.name).bind Cell.error?).isSome := by
    rw [hTally]
    refine Plan.countP_steps fields order fun field _ _ => ?_
    rw [Step.name_ofFieldIn]
    cases computed.row.get? field.name <;> rfl
  refine ⟨?_, ?_, ?_, ?_, ?_, hErrors⟩
  all_goals rw [hTally]
  · exact hSize
  · exact hBlank
  · rintro rfl
    simpa using hSkipped
  · rintro rfl
    simpa using hSkipped
  · rw [← hInvalid]
    exact length_eq_sum_kinds plan.steps

/-- Five formulas: one is blank, two read each other, and two are calculated. -/
theorem tally_accounts_for_invoice :
    let tally := ((Plan.ofFields Catalog.invoice .dependency).compute .epoch .empty).tally
    tally.formulas = 5 ∧ tally.blank = 1 ∧ tally.circular = 2 ∧ tally.calculated = 2 ∧
      tally.errors = 2 := by
  intro tally
  obtain ⟨catalog, accepted⟩ := Catalog.invoice_accepted
  have distinct := Catalog.distinct_of_ofFields accepted
  obtain ⟨hFormulas, hBlank, hCircular, -, hSum, hErrors⟩ :=
    tally_accounts_for_fields accepted .dependency .epoch .empty
  have hLooped : tally.circular = (Catalog.invoice.filter Field.isFormula).countP fun field =>
      field.expr?.isSome &&
        (stepGraph (Step.ofFields Catalog.invoice)).isCircular (Field.key field.name) := by
    refine (hCircular rfl).trans (List.countP_congr fun field hMem => ?_)
    obtain ⟨hField, hFormula⟩ := List.mem_filter.mp hMem
    simp [isCircular_stepGraph_iff distinct hField hFormula]
  have hFive : tally.formulas = 5 := hFormulas
  have hOne : tally.blank = 1 := hBlank.trans (by decide +kernel)
  have hTwo : tally.circular = 2 := hLooped.trans (by decide +kernel)
  have hNone : (Catalog.invoice.filter Field.isFormula).countP
      (fun field => !field.isBlank && field.expr?.isNone) = 0 := by decide +kernel
  refine ⟨hFive, hOne, hTwo, ?_, hErrors.trans (by decide +kernel)⟩
  change tally.formulas = tally.blank + tally.calculated + tally.circular + _ at hSum
  omega

end RowFormula
