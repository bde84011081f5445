import Mathlib.Data.List.Perm.Basic
import RowFormula.Plan
import RowFormula.Proofs.Field.Dependency
import RowFormula.Proofs.Graph.Order
import RowFormula.Proofs.Token.Layout

/-! Plans in dependency order. They have the steps of the formula fields, each once; a step is
marked when its field lies on a cycle, and any other step comes after the steps of all fields
that its formula names. -/
namespace RowFormula

open Relation

/-- Blank text is no formula. -/
theorem Expr.parse_of_isAllBlank {text : String} (h : Text.isAllBlank text = true) :
    parse text = .error .empty := by
  have hFits : Token.Layout.Fits text [] := trivial
  exact parse_of_lex (Token.Layout.lexFrom_spell h hFits 0)

/-- What the formula text of a field compiles to. -/
theorem Compiled.ofText_formula (field : Field) :
    ofText field.formula =
      if field.isBlank = true then .blank
      else
        match field.expr? with
        | some e => .parsed e
        | none => .invalid := by
  simp only [ofText, Field.isBlank, Field.formulaText, Field.expr?]
  cases Expr.parse (field.formula.getD "") <;> rfl

/-- Text compiles to a tree exactly when it is a formula. -/
theorem Compiled.ofText_eq_parsed_iff (field : Field) (e : Expr) :
    ofText field.formula = .parsed e ↔ field.expr? = some e := by
  rw [ofText_formula]
  by_cases hBlank : field.isBlank = true
  · have hNone : field.expr? = none := by
      rw [Field.expr?, Expr.parse_of_isAllBlank hBlank]
      rfl
    simp [hBlank, hNone]
  · rw [if_neg hBlank]
    cases field.expr? <;> simp

/-- The steps of the formula fields of a table, as they are declared. -/
def Step.ofFields (fields : List Field) : List Step :=
  (fields.filter Field.isFormula).map ofField

@[simp] theorem Step.key_ofField (field : Field) : (ofField field).key = Field.key field.name := rfl

/-- The steps of a table are those of its formula fields. -/
theorem Step.mem_ofFields_iff (fields : List Field) (step : Step) :
    step ∈ ofFields fields ↔ ∃ field ∈ fields, field.isFormula = true ∧ ofField field = step := by
  simp only [ofFields, List.mem_map, List.mem_filter, and_assoc]

/-- Steps of the fields of one table have different keys. -/
theorem Step.nodup_keys_ofFields {fields : List Field} (distinct : Field.Distinct fields) :
    ((ofFields fields).map key).Nodup := by
  have hKeys : (ofFields fields).map key =
      (fields.filter Field.isFormula).map fun field => Field.key field.name := by
    simp [ofFields, Step.key, ofField, Function.comp_def]
  rw [hKeys]
  exact distinct.sublist (List.filter_sublist.map _)

/-- A step as dependency order runs it. -/
def Step.mark (graph : Graph) (step : Step) : Step :=
  { step with circular := graph.isCircular step.key }

/-- The steps of a key are those that have it, each with its mark. -/
theorem stepsOf_eq (graph : Graph) (steps : List Step) (key : String) :
    stepsOf graph steps key = (steps.filter (·.key = key)).map (Step.mark graph) := by
  apply List.map_congr_left
  intro step hs
  have hKey : step.key = key := by simpa using (List.mem_filter.mp hs).2
  rw [← hKey, Step.mark]

/-- A step is the only one with its key. -/
theorem stepsOf_key {steps : List Step} (hNodup : (steps.map Step.key).Nodup) (graph : Graph)
    {step : Step} (hs : step ∈ steps) : stepsOf graph steps step.key = [step.mark graph] := by
  rw [stepsOf_eq]
  induction steps with
  | nil => cases hs
  | cons first rest ih =>
      obtain ⟨hFirst, hRest⟩ := List.nodup_cons.mp (List.map_cons ▸ hNodup)
      rcases List.mem_cons.mp hs with rfl | hs
      · have hNone : rest.filter (·.key = step.key) = [] := by
          rw [List.filter_eq_nil_iff]
          intro other ho
          have hNot : other.key ≠ step.key := fun h => hFirst (h ▸ List.mem_map_of_mem ho)
          simpa using hNot
        rw [List.filter_cons_of_pos (by simp), hNone, List.map_singleton]
      · have hNot : first.key ≠ step.key := fun h => hFirst (h ▸ List.mem_map_of_mem hs)
        rw [List.filter_cons_of_neg (by simpa using hNot)]
        exact ih hRest hs

/-- Lists of steps that are collected key by key contain each step once. -/
theorem flatMap_filter_key_perm {order : List String} (hNodup : order.Nodup) {steps : List Step}
    (hKeys : ∀ step ∈ steps, step.key ∈ order) :
    (order.flatMap fun key => steps.filter (·.key = key)).Perm steps := by
  induction order generalizing steps with
  | nil =>
      cases steps with
      | nil => exact List.Perm.refl []
      | cons step _ => exact absurd (hKeys step List.mem_cons_self) List.not_mem_nil
  | cons first order ih =>
      obtain ⟨hFirst, hOrder⟩ := List.nodup_cons.mp hNodup
      have hLater : (order.flatMap fun key => steps.filter (·.key = key)) =
          order.flatMap fun key => (steps.filter fun step => !decide (step.key = first)).filter
            (·.key = key) := by
        apply List.flatMap_congr
        intro key hk
        rw [List.filter_filter]
        apply List.filter_congr
        intro step _
        by_cases hKey : step.key = key
        · have hNot : key ≠ first := fun h => hFirst (h ▸ hk)
          simp [hKey, hNot]
        · simp [hKey]
      have hOthers : ∀ step ∈ steps.filter fun step => !decide (step.key = first),
          step.key ∈ order := by
        intro step hs
        obtain ⟨hs, hNot⟩ := List.mem_filter.mp hs
        exact (List.mem_cons.mp (hKeys step hs)).resolve_left (by simpa using hNot)
      rw [List.flatMap_cons, hLater]
      exact ((ih hOrder hOthers).append_left _).trans (List.filter_append_perm _ steps)

/-- Dependency order loses no step and repeats none. -/
theorem orderSteps_perm (steps : List Step) :
    (orderSteps steps).Perm (steps.map (Step.mark (stepGraph steps))) := by
  have hOrder : orderSteps steps = ((Graph.order (stepGraph steps) (steps.map Step.key)).flatMap
      fun key => steps.filter (·.key = key)).map (Step.mark (stepGraph steps)) := by
    rw [List.map_flatMap]
    exact List.flatMap_congr fun key _ => stepsOf_eq (stepGraph steps) steps key
  rw [hOrder]
  apply List.Perm.map
  apply flatMap_filter_key_perm (Graph.nodup_order _ _)
  exact fun step hs => (Graph.mem_order_iff _ _ _).mpr (List.mem_map_of_mem hs)

/-- Steps with different keys are ordered as their keys are. -/
theorem map_key_orderSteps {steps : List Step} (hNodup : (steps.map Step.key).Nodup) :
    (orderSteps steps).map Step.key = (stepGraph steps).order (steps.map Step.key) := by
  rw [orderSteps, List.map_flatMap]
  have hEach : ∀ key ∈ (stepGraph steps).order (steps.map Step.key),
      (stepsOf (stepGraph steps) steps key).map Step.key = [key] := by
    intro key hk
    obtain ⟨step, hs, rfl⟩ := List.mem_map.mp ((Graph.mem_order_iff _ _ _).mp hk)
    rw [stepsOf_key hNodup _ hs]
    rfl
  rw [List.flatMap_congr hEach]
  simp

/-- A key reads what the formula of a step with this key names. -/
theorem stepGraph_reads_iff (steps : List Step) (reader read : String) :
    (stepGraph steps).Reads reader read ↔
      ∃ step ∈ steps, step.key = reader ∧ ∃ e, step.formula = .parsed e ∧
        ∃ reference ∈ e.fieldReferences, Field.key reference = read := by
  rw [stepGraph, Graph.reads_ofFormulas_iff]
  constructor
  · rintro ⟨formula, hm, hKey, hRef⟩
    obtain ⟨step, hs, hMap⟩ := List.mem_filterMap.mp hm
    cases hFormula : step.formula with
    | blank => simp [hFormula, Compiled.expr?] at hMap
    | invalid => simp [hFormula, Compiled.expr?] at hMap
    | parsed e =>
        obtain rfl : (step.name, e) = formula := by simpa [hFormula, Compiled.expr?] using hMap
        exact ⟨step, hs, hKey, e, hFormula, hRef⟩
  · rintro ⟨step, hs, hKey, e, hFormula, hRef⟩
    refine ⟨(step.name, e), List.mem_filterMap.mpr ⟨step, hs, ?_⟩, hKey, hRef⟩
    simp [hFormula, Compiled.expr?]

section Fields

variable {fields : List Field}

/-- A key that reads something belongs to a formula field. -/
theorem exists_field_of_reads {reader read : String}
    (h : (stepGraph (Step.ofFields fields)).Reads reader read) :
    ∃ field ∈ fields, field.isFormula = true ∧ Field.key field.name = reader := by
  obtain ⟨step, hs, hKey, _⟩ := (stepGraph_reads_iff _ reader read).mp h
  obtain ⟨field, hf, hFormula, rfl⟩ := (Step.mem_ofFields_iff fields step).mp hs
  exact ⟨field, hf, hFormula, hKey⟩

variable (distinct : Field.Distinct fields)

include distinct

/-- Between formula fields of one table the graph has the references that the fields have. -/
theorem stepGraph_reads_keys_iff {reader read : Field} (hReader : reader ∈ fields)
    (hFormula : reader.isFormula = true) (hRead : read ∈ fields)
    (hFormula' : read.isFormula = true) :
    (stepGraph (Step.ofFields fields)).Reads (Field.key reader.name) (Field.key read.name) ↔
      Field.Reads fields reader read := by
  rw [stepGraph_reads_iff]
  constructor
  · rintro ⟨step, hs, hKey, e, hParsed, reference, hRef, hName⟩
    obtain ⟨field, hf, _, rfl⟩ := (Step.mem_ofFields_iff fields step).mp hs
    obtain rfl : field = reader := distinct.eq_of_key hf hReader hKey
    refine ⟨hReader, hFormula, hRead, hFormula', e, ?_, reference, hRef, ?_⟩
    · exact (Compiled.ofText_eq_parsed_iff field e).mp hParsed
    · exact (read.hasName_iff reference).mpr hName.symm
  · rintro ⟨_, _, _, _, e, hParsed, reference, hRef, hName⟩
    have hStep := (Step.mem_ofFields_iff fields _).mpr ⟨reader, hReader, hFormula, rfl⟩
    refine ⟨Step.ofField reader, hStep, Step.key_ofField reader, e, ?_, reference, hRef, ?_⟩
    · exact (Compiled.ofText_eq_parsed_iff reader e).mpr hParsed
    · exact ((read.hasName_iff reference).mp hName).symm

/-- Paths between the keys of formula fields are paths between the fields. -/
theorem stepGraph_path_iff {first last : Field} (hFirst : first ∈ fields)
    (hFormula : first.isFormula = true) (hLast : last ∈ fields)
    (hFormula' : last.isFormula = true) :
    TransGen (stepGraph (Step.ofFields fields)).Reads (Field.key first.name)
        (Field.key last.name) ↔
      TransGen (Field.Reads fields) first last := by
  constructor
  · intro path
    generalize hKey : Field.key last.name = key at path
    induction path generalizing last with
    | single hRead =>
        subst hKey
        exact TransGen.single
          ((stepGraph_reads_keys_iff distinct hFirst hFormula hLast hFormula').mp hRead)
    | tail _ hRead ih =>
        subst hKey
        obtain ⟨middle, hm, hFormulaM, rfl⟩ := exists_field_of_reads hRead
        exact (ih hm hFormulaM rfl).tail
          ((stepGraph_reads_keys_iff distinct hm hFormulaM hLast hFormula').mp hRead)
  · intro path
    refine TransGen.lift (fun field : Field => Field.key field.name) ?_ first last path
    intro reader read hRead
    exact (stepGraph_reads_keys_iff distinct hRead.reader_mem hRead.reader_isFormula
      hRead.read_mem hRead.read_isFormula).mpr hRead

/-- A step is marked when its field lies on a cycle. -/
theorem isCircular_stepGraph_iff {field : Field} (hField : field ∈ fields)
    (hFormula : field.isFormula = true) :
    (stepGraph (Step.ofFields fields)).isCircular (Field.key field.name) = true ↔
      Field.OnCycle fields field := by
  rw [Graph.isCircular_iff]
  exact stepGraph_path_iff distinct hField hFormula hField hFormula

end Fields

/-- The step of a formula field in one of the orders. -/
def Step.ofFieldIn (fields : List Field) (order : PassOrder) (field : Field) : Step :=
  match order with
  | .declared => ofField field
  | .dependency => (ofField field).mark (stepGraph (ofFields fields))

@[simp] theorem Step.name_ofFieldIn (fields : List Field) (order : PassOrder) (field : Field) :
    (ofFieldIn fields order field).name = field.name := by
  cases order <;> rfl

@[simp] theorem Step.formula_ofFieldIn (fields : List Field) (order : PassOrder) (field : Field) :
    (ofFieldIn fields order field).formula = .ofText field.formula := by
  cases order <;> rfl

namespace Plan

/-- The steps of a plan compute different names. -/
def NamesOnce (plan : Plan) : Prop := plan.names.Nodup

/-- No step that is evaluated names a field that it computes itself or that is computed later. -/
def Settled (plan : Plan) : Prop :=
  ∀ before step after, plan.steps = before ++ step :: after → step.circular = false →
    ∀ e, step.formula = .parsed e → ∀ name ∈ e.fieldReferences, ∀ field,
      Field.find? plan.fields name = some field → field.name ∉ (step :: after).map Step.name

/-- In dependency order the steps are those of the formula fields, with their marks. -/
theorem dependency_steps_perm (fields : List Field) :
    (ofFields fields .dependency).steps.Perm
      ((Step.ofFields fields).map (Step.mark (stepGraph (Step.ofFields fields)))) :=
  orderSteps_perm (Step.ofFields fields)

/-- A plan has one step for each formula field. -/
theorem steps_perm (fields : List Field) (order : PassOrder) : (ofFields fields order).steps.Perm
    ((fields.filter Field.isFormula).map (Step.ofFieldIn fields order)) := by
  cases order with
  | declared => exact List.Perm.refl _
  | dependency =>
      have hSteps := dependency_steps_perm fields
      rw [Step.ofFields, List.map_map] at hSteps
      exact hSteps

/-- A plan computes the names of the formula fields, in either order. -/
theorem names_perm (fields : List Field) (order : PassOrder) :
    (ofFields fields order).names.Perm ((fields.filter Field.isFormula).map Field.name) := by
  simpa [names, Function.comp_def] using (steps_perm fields order).map Step.name

/-- The steps in dependency order are the marked steps of the formula fields. -/
theorem mem_dependency_steps_iff (fields : List Field) (step : Step) :
    step ∈ (ofFields fields .dependency).steps ↔
      ∃ field ∈ fields, field.isFormula = true ∧
        (Step.ofField field).mark (stepGraph (Step.ofFields fields)) = step := by
  rw [(steps_perm fields .dependency).mem_iff, List.mem_map]
  simp only [List.mem_filter, and_assoc, Step.ofFieldIn]

theorem declared_namesOnce {fields : List Field} (distinct : Field.Distinct fields) :
    (ofFields fields .declared).NamesOnce := by
  have hKeys : ((Step.ofFields fields).map Step.name).map Field.key =
      (Step.ofFields fields).map Step.key := by simp [Step.key, Function.comp_def]
  exact List.Nodup.of_map Field.key (hKeys ▸ Step.nodup_keys_ofFields distinct)

theorem dependency_namesOnce {fields : List Field} (distinct : Field.Distinct fields) :
    (ofFields fields .dependency).NamesOnce := by
  have hNames := (names_perm fields .dependency).trans (names_perm fields .declared).symm
  exact hNames.nodup_iff.mpr (declared_namesOnce distinct)

/-- In either order a name has one step. -/
theorem ofFields_namesOnce {fields : List Field} (distinct : Field.Distinct fields)
    (order : PassOrder) : (ofFields fields order).NamesOnce := by
  cases order with
  | declared => exact declared_namesOnce distinct
  | dependency => exact dependency_namesOnce distinct

/-- A step belongs to a formula field, and only dependency order marks fields, those on a cycle. -/
theorem exists_field_of_step {fields : List Field} (distinct : Field.Distinct fields)
    {order : PassOrder} {step : Step} (hStep : step ∈ (ofFields fields order).steps) :
    ∃ field ∈ fields, field.isFormula = true ∧
      ∃ circular, step = { Step.ofField field with circular := circular } ∧
        (circular = true → order = .dependency ∧ field.OnCycle fields) := by
  cases order with
  | declared =>
      obtain ⟨field, hField, hFormula, rfl⟩ := (Step.mem_ofFields_iff fields step).mp hStep
      exact ⟨field, hField, hFormula, false, rfl, fun h => absurd h Bool.false_ne_true⟩
  | dependency =>
      obtain ⟨field, hField, hFormula, rfl⟩ := (mem_dependency_steps_iff fields step).mp hStep
      exact ⟨field, hField, hFormula, _, rfl, fun h =>
        ⟨rfl, (isCircular_stepGraph_iff distinct hField hFormula).mp h⟩⟩

/-- The names of a plan are those of the formula fields. -/
theorem mem_names_iff (fields : List Field) (order : PassOrder) (name : String) :
    name ∈ (ofFields fields order).names ↔
      ∃ field ∈ fields, field.isFormula = true ∧ field.name = name := by
  rw [(names_perm fields order).mem_iff, List.mem_map]
  simp only [List.mem_filter, and_assoc]

/-- Stored fields are not computed. -/
theorem not_mem_names {fields : List Field} (distinct : Field.Distinct fields) (order : PassOrder)
    {field : Field} (hField : field ∈ fields) (hStored : field.isFormula = false) :
    field.name ∉ (ofFields fields order).names := by
  intro h
  obtain ⟨other, ho, hFormula, hName⟩ := (mem_names_iff fields order field.name).mp h
  rw [distinct.eq_of_name ho hField hName, hStored] at hFormula
  cases hFormula

/-- Whatever a formula off the cycles names is computed before it, if it is computed at all. -/
theorem dependency_settled {fields : List Field} (distinct : Field.Distinct fields) :
    (ofFields fields .dependency).Settled := by
  intro before step after hSplit hStraight e hParsed name hRef field hFind hLater
  have hNodup := Step.nodup_keys_ofFields distinct
  have hKeys := map_key_orderSteps hNodup
  rw [show orderSteps (Step.ofFields fields) = before ++ step :: after from hSplit,
    List.map_append, List.map_cons] at hKeys
  have hMem : step ∈ (ofFields fields .dependency).steps := by rw [hSplit]; simp
  obtain ⟨reader, hReader, hFormula, rfl⟩ := (mem_dependency_steps_iff fields step).mp hMem
  have hName : Field.key field.name = Field.key name :=
    (field.hasName_iff name).mp ((distinct.find?_eq_some_iff name field).mp hFind).2
  -- the key of the name stands at or behind the step
  obtain ⟨later, hl, hSame⟩ := List.mem_map.mp hLater
  have hKeyLater : Field.key name ∈
      ((Step.ofField reader).mark (stepGraph (Step.ofFields fields)) :: after).map Step.key :=
    List.mem_map.mpr ⟨later, hl, by rw [Step.key, hSame, hName]⟩
  have hKnown : Field.key name ∈ (Step.ofFields fields).map Step.key := by
    rw [← Graph.mem_order_iff (stepGraph (Step.ofFields fields)), ← hKeys]
    exact List.mem_append_right _ (by simpa using hKeyLater)
  have hRead : (stepGraph (Step.ofFields fields)).Reads (Field.key reader.name)
      (Field.key name) :=
    (stepGraph_reads_iff _ _ _).mpr ⟨Step.ofField reader,
      (Step.mem_ofFields_iff fields _).mpr ⟨reader, hReader, hFormula, rfl⟩, rfl, e, hParsed,
      name, hRef, rfl⟩
  rcases (Graph.order_ordered (stepGraph (Step.ofFields fields)) _).before_or_back
    hKeys.symm hKnown hRead with hBefore | hBack
  · have hOnce : (before.map Step.key ++ ((Step.ofField reader).mark
        (stepGraph (Step.ofFields fields)) :: after).map Step.key).Nodup := by
      rw [List.map_cons, hKeys]
      exact Graph.nodup_order _ _
    exact (List.nodup_append.mp hOnce).2.2 _ hBefore _ hKeyLater rfl
  · have hCycle : TransGen (stepGraph (Step.ofFields fields)).Reads (Field.key reader.name)
        (Field.key reader.name) :=
      TransGen.head' hRead (ReflTransGen.mono (fun _ _ h => h.2) _ _ hBack)
    have hMarked := (Graph.isCircular_iff _ _).mpr hCycle
    exact Bool.false_ne_true (hStraight.symm.trans hMarked)

end Plan

end RowFormula
