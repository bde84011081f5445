import RowFormula.Pass
import RowFormula.Proofs.Plan.Dependency

/-! What a pass does to the row and to the tally. A step stores one cell; a plan whose steps
compute different names keeps each of these cells; and if every step finds its references
computed, the finished row explains itself: each cell is what its step computes from it. -/
namespace RowFormula

attribute [ext] Computed

namespace Computed

variable (fields : List Field) (now : Time.Instant)

/-- A step stores its cell under its name and touches nothing else. -/
@[simp] theorem next_get? (computed : Computed) (step : Step) (name : String) :
    (computed.next fields now step).row.get? name =
      if name = step.name then some (step.compute ⟨computed.row, fields, now⟩)
      else computed.row.get? name := by
  simp [next]

/-- Steps leave what is stored under other names as it is. -/
theorem foldl_get?_of_not_mem (steps : List Step) (computed : Computed) {name : String}
    (h : name ∉ steps.map Step.name) :
    (steps.foldl (next fields now) computed).row.get? name = computed.row.get? name := by
  induction steps generalizing computed with
  | nil => rfl
  | cons step steps ih =>
      rw [List.map_cons, List.mem_cons, not_or] at h
      rw [List.foldl_cons, ih _ h.2, next_get?, if_neg h.1]

/-- Every name that is computed stores something in the end. -/
theorem foldl_get?_of_mem (steps : List Step) (computed : Computed) {name : String}
    (h : name ∈ steps.map Step.name) :
    ∃ cell, (steps.foldl (next fields now) computed).row.get? name = some cell := by
  induction steps generalizing computed with
  | nil => cases h
  | cons step steps ih =>
      by_cases hAgain : name ∈ steps.map Step.name
      · exact ih _ hAgain
      · obtain rfl : name = step.name := (List.mem_cons.mp h).resolve_right hAgain
        rw [List.foldl_cons, foldl_get?_of_not_mem fields now steps _ hAgain, next_get?, if_pos rfl]
        exact ⟨_, rfl⟩

/-- The cell of a step whose name is not computed again is the one that it computes when its
turn comes. -/
theorem foldl_get?_split (before : List Step) (step : Step) (after : List Step)
    (computed : Computed) (h : step.name ∉ after.map Step.name) :
    ((before ++ step :: after).foldl (next fields now) computed).row.get? step.name =
      some (step.compute ⟨(before.foldl (next fields now) computed).row, fields, now⟩) := by
  rw [List.foldl_append, List.foldl_cons, foldl_get?_of_not_mem fields now after _ h,
    next_get?, if_pos rfl]

/-- Every step counts the cell that stands under its name at the end. -/
theorem foldl_tally (steps : List Step) (computed : Computed)
    (hNodup : (steps.map Step.name).Nodup) :
    (steps.foldl (next fields now) computed).tally =
      steps.foldl (fun tally step => tally.add step
        (((steps.foldl (next fields now) computed).row.get? step.name).getD .null))
        computed.tally := by
  induction steps generalizing computed with
  | nil => rfl
  | cons step steps ih =>
      obtain ⟨hStep, hSteps⟩ := List.nodup_cons.mp (List.map_cons ▸ hNodup)
      rw [List.foldl_cons, ih _ hSteps, List.foldl_cons,
        foldl_get?_of_not_mem fields now steps _ hStep, next_get?, if_pos rfl]
      rfl

end Computed

namespace Tally

/-- What one step adds to a tally. -/
def share (step : Step) (cell : Cell) : Tally := ({} : Tally).add step cell

/-- Tallies are added number by number. -/
theorem add_eq (tally : Tally) (step : Step) (cell : Cell) :
    tally.add step cell =
      ⟨tally.formulas + (share step cell).formulas, tally.calculated + (share step cell).calculated,
        tally.errors + (share step cell).errors, tally.blank + (share step cell).blank,
        tally.circular + (share step cell).circular⟩ := by
  unfold share add
  cases step.formula <;> cases step.circular <;> cases cell.error? <;> rfl

/-- The turns of two steps can be counted in either order. -/
theorem add_right_comm (tally : Tally) (step other : Step) (cell cell' : Cell) :
    (tally.add step cell).add other cell' = (tally.add other cell').add step cell := by
  simp only [add_eq, Nat.add_right_comm]

/-- Steps that are counted in another order, with the same cells, make the same tally. -/
theorem foldl_perm {steps others : List Step} (h : steps.Perm others) {cell cell' : Step → Cell}
    (same : ∀ step ∈ steps, cell step = cell' step) (tally : Tally) :
    steps.foldl (fun tally step => tally.add step (cell step)) tally =
      others.foldl (fun tally step => tally.add step (cell' step)) tally := by
  calc steps.foldl (fun tally step => tally.add step (cell step)) tally
      = steps.foldl (fun tally step => tally.add step (cell' step)) tally := by
        apply List.foldl_ext
        intro tally step hs
        rw [same step hs]
    _ = others.foldl (fun tally step => tally.add step (cell' step)) tally := by
        apply h.foldl_eq'
        intro step _ other _ tally
        exact add_right_comm tally step other _ _

end Tally

/-- Only a formula that is evaluated looks at the context. -/
theorem Step.compute_congr {step : Step} {left right : Context}
    (h : step.circular = false → ∀ e, step.formula = .parsed e → e.eval left = e.eval right) :
    step.compute left = step.compute right := by
  unfold Step.compute
  cases hFormula : step.formula with
  | blank => rfl
  | invalid => rfl
  | parsed e =>
      cases hCircular : step.circular with
      | true => rfl
      | false => simp only [h hCircular e hFormula]

namespace Plan

variable {plan : Plan} (now : Time.Instant) (row : Row)

/-- A pass touches only the names that the plan computes. -/
theorem compute_get?_of_not_mem {name : String} (h : name ∉ plan.names) :
    (plan.compute now row).row.get? name = row.get? name :=
  Computed.foldl_get?_of_not_mem plan.fields now plan.steps _ h

/-- A pass stores something under every name that the plan computes. -/
theorem compute_get?_of_mem {name : String} (h : name ∈ plan.names) :
    ∃ cell, (plan.compute now row).row.get? name = some cell :=
  Computed.foldl_get?_of_mem plan.fields now plan.steps _ h

/-- The tally of a pass is settled by its steps and by the finished row. -/
theorem compute_tally (once : plan.NamesOnce) :
    (plan.compute now row).tally =
      plan.steps.foldl (fun tally step => tally.add step
        (((plan.compute now row).row.get? step.name).getD .null)) { formulas := plan.size } :=
  Computed.foldl_tally plan.fields now plan.steps _ once

/-- Plans of the same steps that leave the same cells make the same tally. -/
theorem compute_tally_eq {other : Plan} {row' : Row} (once : plan.NamesOnce)
    (once' : other.NamesOnce) (sameSteps : plan.steps.Perm other.steps)
    (sameCells : ∀ step ∈ plan.steps, (plan.compute now row).row.get? step.name =
      (other.compute now row').row.get? step.name) :
    (plan.compute now row).tally = (other.compute now row').tally := by
  have hSize : plan.size = other.size := sameSteps.length_eq
  rw [compute_tally now row once, compute_tally now row' once', hSize]
  apply Tally.foldl_perm sameSteps
  intro step hs
  rw [sameCells step hs]

/-- A step computes its cell from the row in which the names before it have their final cells and
all others still have what they had. -/
theorem exists_seen (once : plan.NamesOnce) {before after : List Step} {step : Step}
    (hSplit : plan.steps = before ++ step :: after) :
    ∃ seen : Row,
      (∀ name, seen.get? name =
        if name ∈ before.map Step.name then (plan.compute now row).row.get? name
        else row.get? name) ∧
      (plan.compute now row).row.get? step.name = some (step.compute ⟨seen, plan.fields, now⟩) := by
  have hNodup : (before.map Step.name ++ (step :: after).map Step.name).Nodup := by
    rw [← List.map_append, ← hSplit]
    exact once
  obtain ⟨-, hRest, hApart⟩ := List.nodup_append.mp hNodup
  rw [compute, hSplit]
  refine ⟨_, fun name => ?_, Computed.foldl_get?_split plan.fields now before step after _
    (List.nodup_cons.mp hRest).1⟩
  split
  · rename_i hEarlier
    have hDone : name ∉ (step :: after).map Step.name := fun hLater =>
      hApart name hEarlier name hLater rfl
    rw [List.foldl_append]
    exact (Computed.foldl_get?_of_not_mem plan.fields now (step :: after) _ hDone).symm
  · rename_i hNot
    exact Computed.foldl_get?_of_not_mem plan.fields now before _ hNot

/-- In a settled plan the finished row explains itself: evaluating a formula against it gives
the cell that the row stores. -/
theorem compute_get? (once : plan.NamesOnce) (settled : plan.Settled) {step : Step}
    (hStep : step ∈ plan.steps) :
    (plan.compute now row).row.get? step.name =
      some (step.compute ⟨(plan.compute now row).row, plan.fields, now⟩) := by
  obtain ⟨before, after, hSplit⟩ := List.append_of_mem hStep
  have hNodup : ((before ++ step :: after).map Step.name).Nodup := hSplit ▸ once
  rw [List.map_append, List.nodup_append, List.map_cons, List.nodup_cons] at hNodup
  have hTurn := Computed.foldl_get?_split plan.fields now before step after
    ⟨row, { formulas := plan.size }⟩ hNodup.2.1.1
  rw [← hSplit] at hTurn
  refine hTurn.trans (congrArg some (Step.compute_congr ?_))
  intro hStraight e hParsed
  refine e.eval_congr (fun _ => rfl) (fun _ _ => rfl) ?_
  intro name hRef field hFind
  -- what the formula names is not computed from here on
  have hDone := settled before step after hSplit hStraight e hParsed name hRef field hFind
  rw [compute, hSplit, List.foldl_append]
  exact (Computed.foldl_get?_of_not_mem plan.fields now (step :: after) _ hDone).symm

end Plan

end RowFormula
