import RowFormula.Proofs.Expr.Composition
import RowFormula.Proofs.Formula.Branching
import RowFormula.Proofs.Number.Text
import RowFormula.Proofs.Pass.Consistency

/-! Formulas that branch on a formula field computed before. The value of the earlier field is
stored, and the later formula reads the stored cell as text. So the branch depends on whether this
text is empty, which it is for null and for the empty text alone. -/
namespace RowFormula

open Relation

/-! The formula. -/

/-- A formula that gives one or two, after the truth of a field. -/
def branchText (name : String) : String := "IF(\x7b" ++ name ++ "\x7d, 1, 2)"

def branchExpr (name : String) : Expr := .call "IF" [.field name, .number 1, .number 2]

/-- The conditional on a field is read as it is meant. -/
theorem parse_branchText {name : String} (hName : '}' ∉ name.toList)
    (hTrim : Text.trim name = name) : Expr.parse (branchText name) = .ok (branchExpr name) := by
  have hWord : "IF".toUpper = (Function.control .choose).name := by
    rw [← String.toList_inj, String.toUpper, String.toList_map]
    decide
  have hOne : Closed " 1" (.number 1) := by
    have hLex : Token.lex " 1" = .ok ([] ++ [⟨.number 1, "1", 1⟩, ⟨.finish, "", 2⟩]) :=
      Token.lex_eq_ok_of_toOption (by decide +kernel)
    exact .of_lex hLex (Expr.parse_of_lex hLex) rfl
  have hTwo : Closed " 2" (.number 2) := by
    have hLex : Token.lex " 2" = .ok ([] ++ [⟨.number 2, "2", 1⟩, ⟨.finish, "", 2⟩]) :=
      Token.lex_eq_ok_of_toOption (by decide +kernel)
    exact .of_lex hLex (Expr.parse_of_lex hLex) rfl
  have hField := Closed.reference hName
  rw [hTrim] at hField
  let parts : List (String × Expr) :=
    [("\x7b" ++ name ++ "\x7d", .field name), (" 1", .number 1), (" 2", .number 2)]
  have hParts : ∀ part ∈ parts, Closed part.1 part.2 := by
    simp [parts, hField, hOne, hTwo]
  have hParse := (Closed.call hParts hWord).parse
  have hText : branchText name = "IF" ++ ("(" ++ ",".intercalate (parts.map Prod.fst) ++ ")") := by
    simp [branchText, parts, ← String.toList_inj]
  rw [hText, hParse]
  rfl

/-! The stored condition. -/

theorem Time.Instant.iso_ne_empty (t : Time.Instant) : t.iso ≠ "" := by
  simp [iso, isoChars, ← String.toList_inj]

/-- Only null and the empty text are read as empty text. -/
theorem Value.toText_eq_empty_iff (value : Value) :
    value.toText = "" ↔ value = .null ∨ value = .text "" := by
  cases value with
  | null => simp [toText]
  | bool b => cases b <;> simp [toText]
  | number x => simp [toText, Number.text_ne_empty]
  | text s => simp [toText]
  | date t => simp [toText, Time.Instant.iso_ne_empty]

/-- What a formula field stores is true when its text is not empty. -/
theorem Value.isTruthy_readAs_formula (value : Value) :
    (value.toCell.readAs .formula).isTruthy = decide (value.toText ≠ "") := by
  cases value <;> rfl

/-- A formula field that stores a value is resolved to what this value is read as. -/
theorem Context.resolve_of_stored {context : Context} {field : Field} {value : Value}
    (hFind : Field.find? context.fields field.name = some field)
    (hStored : context.row.get? field.name = some value.toCell) :
    context.resolve field.name = .ok (value.toCell.readAs field.type) := by
  rw [resolve, hFind]
  simp only [hStored]
  cases value <;> rfl

/-- The conditional on a computed field takes its alternative for null and the empty text alone. -/
theorem eval_branchExpr {context : Context} {field : Field} {value : Value}
    (hFind : Field.find? context.fields field.name = some field) (hFormula : field.isFormula = true)
    (hStored : context.row.get? field.name = some value.toCell) :
    (branchExpr field.name).eval context =
      .ok (.number (if value = .null ∨ value = .text "" then 2 else 1)) := by
  have hType : field.type = .formula := by simpa [Field.isFormula] using hFormula
  have hField : (Expr.field field.name).eval context = .ok (value.toCell.readAs .formula) := by
    rw [Expr.eval, Context.resolve_of_stored hFind hStored, hType]
  have hEval := Expr.eval_choose context (.field field.name) (.number 1) (some (.number 2))
  rw [Option.toList_some, hField] at hEval
  refine hEval.trans ?_
  simp only [Expr.evalAll, Expr.eval, Except.bind, Except.map, List.head?_cons, Option.getD_some,
    Value.isTruthy_readAs_formula, decide_eq_true_eq, Value.toText_eq_empty_iff, ne_eq, ite_not]
  split <;> rfl

/-! The pass. -/

section Branch

variable {fields : List Field} {condition branch : Field}
  (hName : '}' ∉ condition.name.toList) (hTrim : Text.trim condition.name = condition.name)
  (hText : branch.formula = some (branchText condition.name))

include hName hTrim hText

theorem Field.expr?_of_branchText : branch.expr? = some (branchExpr condition.name) := by
  rw [expr?, formulaText, hText, Option.getD_some, parse_branchText hName hTrim]
  rfl

/-- A field with the formula that branches on another field reads this field alone. -/
theorem Field.Reads.eq_of_branchText (distinct : Field.Distinct fields)
    (hCondition : condition ∈ fields) {other : Field}
    (hRead : Field.Reads fields branch other) : other = condition := by
  obtain ⟨e, hParsed, name, hRef, hOther⟩ := hRead.mentions
  rw [expr?_of_branchText hName hTrim hText] at hParsed
  obtain rfl := Option.some.inj hParsed
  obtain rfl : name = condition.name := by
    simpa [branchExpr, Expr.fieldReferences, Expr.fieldLeaves, Expr.fieldLeavesAll,
      Expr.firstSpellings] using hRef
  exact distinct.eq_of_key hRead.read_mem hCondition ((other.hasName_iff _).mp hOther)

/-- The step of a field that branches on another one follows the value stored there. -/
theorem Step.compute_of_branchText {context : Context} {value : Value}
    (hFind : Field.find? context.fields condition.name = some condition)
    (hFormula : condition.isFormula = true)
    (hStored : context.row.get? condition.name = some value.toCell) :
    Step.compute { Step.ofField branch with circular := false } context =
      .number (if value = .null ∨ value = .text "" then 2 else 1) := by
  have hTree := Field.expr?_of_branchText hName hTrim hText
  have hBlank : branch.isBlank ≠ true := by
    intro hBlank
    rw [Field.expr?_of_isBlank hBlank] at hTree
    cases hTree
  rw [Step.compute_ofField, if_neg hBlank, if_neg (by simp), evalFormula_formulaText, hTree]
  exact congrArg Outcome.toCell (eval_branchExpr hFind hFormula hStored)

end Branch

/-- A formula that branches on a formula field which the same pass has computed before it, and which
holds a value, gives two when this value is null or the empty text, and one otherwise. The stored
value is read as text, so false, zero and NaN count as true here. -/
theorem branch_on_computed_condition {fields : List Field} {catalog : Catalog}
    (accepted : Catalog.ofFields fields = .ok catalog) (order : PassOrder) (now : Time.Instant)
    (row : Row) {condition branch : Field} (hCondition : condition ∈ fields)
    (hFormula : condition.isFormula = true) (hName : '}' ∉ condition.name.toList)
    (hTrim : Text.trim condition.name = condition.name) (hBranch : branch ∈ fields)
    (hText : branch.formula = some (branchText condition.name)) {earlier later : List String}
    (hTurn : (Plan.ofFields fields order).names = earlier ++ branch.name :: later)
    (hEarlier : condition.name ∈ earlier) {value : Value}
    (hValue : ((Plan.ofFields fields order).compute now row).row.get? condition.name =
      some value.toCell) :
    ((Plan.ofFields fields order).compute now row).row.get? branch.name =
      some (.number (if value = .null ∨ value = .text "" then 2 else 1)) := by
  have distinct := Catalog.distinct_of_ofFields accepted
  obtain ⟨before, rest, hSplit, rfl, hRest⟩ := List.map_eq_append_iff.mp hTurn
  obtain ⟨step, after, rfl, hStep, -⟩ := List.map_eq_cons_iff.mp hRest
  obtain ⟨field, hField, -, circular, rfl, hCircular⟩ :=
    Plan.exists_field_of_step distinct (hSplit ▸ List.mem_append_right _ List.mem_cons_self)
  obtain rfl : field = branch := distinct.eq_of_name hField hBranch hStep
  -- on a cycle with its condition there would be no value
  have hStraight : circular = false := by
    rw [Bool.eq_false_iff]
    intro hMarked
    obtain ⟨rfl, hCycle⟩ := hCircular hMarked
    have hBoth := hCycle.of_reads_only fun _ hRead =>
      hRead.eq_of_branchText hName hTrim hText distinct hCondition
    have hError :=
      (dependency_pass_consistent accepted now row condition hCondition hFormula).2.2 hBoth
    rw [hValue] at hError
    cases value <;> cases hError
  subst hStraight
  obtain ⟨seen, hSeen, hStored⟩ :=
    Plan.exists_seen now row (Plan.ofFields_namesOnce distinct order) hSplit
  have hFind : Field.find? fields condition.name = some condition :=
    (distinct.find?_eq_some_iff _ _).mpr ⟨hCondition, by simp [Field.hasName]⟩
  have hSeenValue : seen.get? condition.name = some value.toCell := by
    rw [hSeen, if_pos hEarlier, hValue]
  exact hStored.trans
    (congrArg some (Step.compute_of_branchText hName hTrim hText hFind hFormula hSeenValue))

/-- A table whose first field, in dependency order the second one, branches on the other. -/
def Catalog.deadline : List Field :=
  [{ name := "Rate", type := .formula, formula := some (branchText "Late") },
   { name := "Late", type := .formula, formula := some "1 > 2" }]

/-- The field that branches is computed after its condition and takes its first branch. -/
theorem branch_on_computed_condition_deadline :
    ((Plan.ofFields Catalog.deadline .dependency).compute .epoch .empty).row.get? "Rate" =
      some (.number 1) := by
  have hNames : ∀ field ∈ Catalog.deadline, Text.isAllBlank field.name = false := by decide
  obtain ⟨catalog, accepted⟩ := (Catalog.ofFields_isOk_iff Catalog.deadline).mpr
    ⟨hNames, by unfold Field.Distinct; decide⟩
  have hTurn : (Plan.ofFields Catalog.deadline .dependency).names = ["Late"] ++ "Rate" :: [] := by
    decide +kernel
  have hValue : ((Plan.ofFields Catalog.deadline .dependency).compute .epoch .empty).row.get?
      "Late" = some (Value.bool false).toCell := by decide +kernel
  have hCondition : Catalog.deadline[1] ∈ Catalog.deadline := List.getElem_mem _
  have hBranch : Catalog.deadline[0] ∈ Catalog.deadline := List.getElem_mem _
  exact branch_on_computed_condition accepted .dependency .epoch .empty hCondition rfl
    (by decide) (by decide) hBranch rfl hTurn List.mem_cons_self hValue

/-- The truth of the value is not what counts: the condition is false, and its text is not empty. -/
theorem branch_on_false_condition :
    let final := ((Plan.ofFields Catalog.deadline .dependency).compute .epoch .empty).row
    final.get? "Late" = some (Value.bool false).toCell ∧ (Value.bool false).isTruthy = false ∧
      final.get? "Rate" ≠ some (.number (if (Value.bool false).isTruthy then 1 else 2)) := by
  decide +kernel

end RowFormula
