import RowFormula.Proofs.Plan.Dependency

/-! Plans by slots. The steps of some formula fields lie in slots, and each turn of a key moves the
steps of the key out, from first to last. When every key has had its turn, what has come out is the
plan in dependency order and no slot holds a step, also when names coincide. -/
namespace RowFormula

/-- A step without its mark. -/
def Step.unmarked (step : Step) : Step := { step with circular := false }

theorem Step.map_unmarked_mark (graph : Graph) (steps : List Step) :
    (steps.map (mark graph)).map unmarked = steps.map unmarked := List.map_map

theorem Step.map_unmarked {steps : List Step} (h : ∀ step ∈ steps, step.circular = false) :
    steps.map unmarked = steps := by
  refine (List.map_congr_left fun step hStep => ?_).trans (List.map_id steps)
  rw [unmarked, ← h step hStep, id]

/-- The steps of a key are the given ones with this key, marked. -/
theorem mem_stepsOf_iff (graph : Graph) (steps : List Step) (key : String) (step : Step) :
    step ∈ stepsOf graph steps key ↔
      ∃ given ∈ steps, given.key = key ∧ given.mark graph = step := by
  simp [stepsOf_eq, and_assoc]

/-! Blocks. -/

theorem key_mem_of_mem_blocks {graph : Graph} {steps : List Step} {keys : List String} {step : Step}
    (h : step ∈ keys.flatMap (stepsOf graph steps)) : step.key ∈ keys := by
  obtain ⟨key, hKey, hBlock⟩ := List.mem_flatMap.mp h
  obtain ⟨given, -, rfl, rfl⟩ := (mem_stepsOf_iff graph steps key step).mp hBlock
  exact hKey

/-- The steps of one key stand together, in the order in which they are given. -/
theorem exists_block (steps : List Step) (key : String) :
    ∃ before after, orderSteps steps = before ++ stepsOf (stepGraph steps) steps key ++ after ∧
      ∀ step ∈ before ++ after, step.key ≠ key := by
  have hOther : ∀ keys : List String, key ∉ keys →
      ∀ step ∈ keys.flatMap (stepsOf (stepGraph steps) steps), step.key ≠ key :=
    fun keys hKey step hStep hSame => hKey (hSame ▸ key_mem_of_mem_blocks hStep)
  by_cases hKey : key ∈ (stepGraph steps).order (steps.map Step.key)
  · obtain ⟨before, after, hSplit⟩ := List.append_of_mem hKey
    have hOnce := hSplit ▸ Graph.nodup_order (stepGraph steps) (steps.map Step.key)
    obtain ⟨-, hTail, hApart⟩ := List.nodup_append.mp hOnce
    refine ⟨before.flatMap (stepsOf (stepGraph steps) steps),
      after.flatMap (stepsOf (stepGraph steps) steps), ?_, ?_⟩
    · rw [orderSteps, hSplit, List.flatMap_append, List.flatMap_cons, List.append_assoc]
    · rw [← List.flatMap_append]
      refine hOther _ fun hMem => ?_
      rcases List.mem_append.mp hMem with hBefore | hAfter
      · exact hApart key hBefore key List.mem_cons_self rfl
      · exact (List.nodup_cons.mp hTail).1 hAfter
  -- a key without a place in the order is the key of no step
  · have hNone : stepsOf (stepGraph steps) steps key = [] := by
      refine List.eq_nil_iff_forall_not_mem.mpr fun step hStep => hKey ?_
      obtain ⟨given, hGiven, rfl, -⟩ := (mem_stepsOf_iff _ _ _ _).mp hStep
      exact (Graph.mem_order_iff _ _ _).mpr (List.mem_map_of_mem hGiven)
    refine ⟨orderSteps steps, [], by simp [hNone], ?_⟩
    rw [List.append_nil]
    exact hOther _ hKey

/-! Slots. -/

/-- A place for a step. It keeps the key of the step when the step is gone. -/
structure Slot where
  key : String
  step : Option Step

namespace Slot

def ofStep (step : Step) : Slot := ⟨step.key, some step⟩

/-- The slot after the turn of a key. -/
def emptied (key : String) (slot : Slot) : Slot :=
  if slot.key = key then { slot with step := none } else slot

/-- What the turn of a key moves out of a slot. -/
def taken (key : String) (circular : Bool) (slot : Slot) : Option Step :=
  if slot.key = key then slot.step.map fun step => { step with circular := circular } else none

/-- The turn of a key, with the steps that have been moved out so far. -/
def turn (graph : Graph) (state : List Step × List Slot) (key : String) : List Step × List Slot :=
  (state.1 ++ state.2.filterMap (taken key (graph.isCircular key)), state.2.map (emptied key))

/-- The slot of a step when some keys have had their turns. -/
def afterTurns (keys : List String) (step : Step) : Slot :=
  ⟨step.key, if step.key ∈ keys then none else some step⟩

/-- One more turn empties the slots of its key. -/
theorem emptied_afterTurns (keys : List String) (key : String) (step : Step) :
    emptied key (afterTurns keys step) = afterTurns (keys ++ [key]) step := by
  by_cases hKey : step.key = key
  · simp [emptied, afterTurns, hKey]
  · simp [emptied, afterTurns, hKey]

/-- The first turn of a key moves out all steps of the key. -/
theorem taken_afterTurns {keys : List String} {key : String} (hFirst : key ∉ keys) (graph : Graph)
    (steps : List Step) :
    (steps.map (afterTurns keys)).filterMap (taken key (graph.isCircular key)) =
      stepsOf graph steps key := by
  rw [stepsOf]
  induction steps with
  | nil => rfl
  | cons step steps ih =>
      by_cases hKey : step.key = key
      · have hTaken : taken key (graph.isCircular key) (afterTurns keys step) =
            some { step with circular := graph.isCircular key } := by
          simp [taken, afterTurns, hKey, hFirst]
        rw [List.map_cons, List.filterMap_cons_some hTaken, ih, List.filter_cons_of_pos (by simpa),
          List.map_cons]
      · have hLeft : taken key (graph.isCircular key) (afterTurns keys step) = none := by
          simp [taken, afterTurns, hKey]
        rw [List.map_cons, List.filterMap_cons_none hLeft, ih, List.filter_cons_of_neg (by simpa)]

/-- One turn adds the block of its key, and the slots of the key are empty from then on. -/
theorem turn_afterTurns {keys : List String} {key : String} (hFirst : key ∉ keys) (graph : Graph)
    (steps plan : List Step) :
    turn graph (plan, steps.map (afterTurns keys)) key =
      (plan ++ stepsOf graph steps key, steps.map (afterTurns (keys ++ [key]))) := by
  have hEmptied : (steps.map (afterTurns keys)).map (emptied key) =
      steps.map (afterTurns (keys ++ [key])) := by
    rw [List.map_map]
    exact List.map_congr_left fun step _ => emptied_afterTurns keys key step
  rw [turn, taken_afterTurns hFirst, hEmptied]

/-- Turns of different keys put the blocks of the keys one behind the other. -/
theorem foldl_turn {turns keys : List String} (hOnce : (keys ++ turns).Nodup) (graph : Graph)
    (steps plan : List Step) :
    turns.foldl (turn graph) (plan, steps.map (afterTurns keys)) =
      (plan ++ turns.flatMap (stepsOf graph steps), steps.map (afterTurns (keys ++ turns))) := by
  induction turns generalizing keys plan with
  | nil => simp
  | cons key turns ih =>
      have hFirst : key ∉ keys := fun hMem =>
        (List.nodup_append.mp hOnce).2.2 key hMem key List.mem_cons_self rfl
      rw [List.foldl_cons, turn_afterTurns hFirst, ih (by simpa using hOnce)]
      simp

/-- The turns in dependency order move out the plan and leave nothing behind. -/
theorem foldl_turn_order (steps : List Step) :
    ((stepGraph steps).order (steps.map Step.key)).foldl (turn (stepGraph steps))
        ([], steps.map ofStep) =
      (orderSteps steps, steps.map fun step => ⟨step.key, none⟩) := by
  have hStart : steps.map ofStep = steps.map (afterTurns []) := by
    simp [ofStep, afterTurns]
  have hEnd : steps.map (afterTurns ((stepGraph steps).order (steps.map Step.key))) =
      steps.map fun step => ⟨step.key, none⟩ := by
    refine List.map_congr_left fun step hStep => ?_
    have hKey : step.key ∈ steps.map Step.key := List.mem_map_of_mem hStep
    rw [afterTurns, if_pos ((Graph.mem_order_iff (stepGraph steps) _ _).mpr hKey)]
  rw [hStart, foldl_turn (by simpa using Graph.nodup_order _ _), List.nil_append, List.nil_append,
    hEnd]
  rfl

end Slot

/-- A plan in dependency order has the compiled formula fields, each as often as it is given. The
steps whose names have one lower case stand together as they are given, and moving all steps out of
their slots, key by key, gives the same plan and empties every slot. -/
theorem plan_keeps_steps (formulaFields fields : List Field) :
    let compiled := formulaFields.map Step.ofField
    let graph := stepGraph compiled
    let plan := Plan.make formulaFields fields .dependency
    (plan.steps.map Step.unmarked).Perm compiled ∧
      (∀ key, ∃ before block after, plan.steps = before ++ block ++ after ∧
        block.map Step.unmarked = compiled.filter (fun step => Text.lower step.name = key) ∧
        ∀ step ∈ before ++ after, Text.lower step.name ≠ key) ∧
      plan.size = formulaFields.length ∧
      (graph.order (compiled.map fun step => Text.lower step.name)).foldl (Slot.turn graph)
          ([], compiled.map Slot.ofStep) =
        (plan.steps, compiled.map fun step => ⟨Text.lower step.name, none⟩) := by
  intro compiled graph plan
  have hPerm : plan.steps.Perm (compiled.map (Step.mark graph)) := orderSteps_perm compiled
  have hPlain : ∀ step ∈ compiled, step.circular = false := by
    intro step hStep
    obtain ⟨field, -, rfl⟩ := List.mem_map.mp hStep
    rfl
  refine ⟨?_, fun key => ?_, ?_, Slot.foldl_turn_order compiled⟩
  · have hUnmarked := hPerm.map Step.unmarked
    rwa [Step.map_unmarked_mark, Step.map_unmarked hPlain] at hUnmarked
  · obtain ⟨before, after, hSplit, hOther⟩ := exists_block compiled key
    refine ⟨before, stepsOf graph compiled key, after, hSplit, ?_, hOther⟩
    rw [stepsOf_eq, Step.map_unmarked_mark]
    exact Step.map_unmarked fun step hStep => hPlain step (List.mem_filter.mp hStep).1
  · rw [Plan.size, hPerm.length_eq]
    simp [compiled]

/-- Steps whose names differ in case alone, or not at all, stand together behind the step that they
read. -/
theorem plan_keeps_steps_spellings :
    let formulaFields : List Field :=
      [⟨"Total", .formula, some "{rate}"⟩, ⟨"Rate", .formula, some "-"⟩, ⟨"TOTAL", .formula, none⟩,
        ⟨"Total", .formula, some "{RATE}"⟩]
    let plan := Plan.make formulaFields formulaFields .dependency
    plan.size = 4 ∧ plan.names = ["Rate", "Total", "TOTAL", "Total"] ∧
      ∃ before block after, plan.steps = before ++ block ++ after ∧
        block.map Step.name = ["Total", "TOTAL", "Total"] ∧
        ∀ step ∈ before ++ after, Text.lower step.name ≠ "total" := by
  intro formulaFields plan
  obtain ⟨-, hBlocks, hSize, -⟩ := plan_keeps_steps formulaFields formulaFields
  obtain ⟨before, block, after, hSplit, hBlock, hOther⟩ := hBlocks "total"
  have hNames : block.map Step.name = ((formulaFields.map Step.ofField).filter
      fun step => Text.lower step.name = "total").map Step.name := by
    rw [← hBlock, List.map_map]
    rfl
  exact ⟨hSize, by decide +kernel, before, block, after, hSplit, hNames.trans (by decide +kernel),
    hOther⟩

end RowFormula
