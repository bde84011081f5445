import RowFormula.Formula.Eval

/-! What evaluation reads. An outcome depends on the row only through the fields that the
expression names, and on the clock only if a function that reads it is called. -/
namespace RowFormula

/-- Only two functions see the clock. -/
theorem Function.apply_clock (now later : Time.Instant) (f : Function) (args : List Value)
    (h : f.readsClock = true → now = later) : f.apply now args = f.apply later args := by
  cases f with
  | text f => rfl
  | math f => rfl
  | control f => rfl
  | date f =>
      by_cases hClock : Function.readsClock (.date f) = true
      · rw [h hClock]
      · cases f <;> first | rfl | exact absurd rfl hClock

/-- Only a function that reads the clock depends on it. -/
theorem Function.call_clock (now later : Time.Instant) (f : Function) (args : List Value)
    (h : f.readsClock = true → now = later) : f.call now args = f.call later args := by
  simp only [Function.call, Function.apply_clock now later f args h]

/-- Names that differ only in case are resolved alike. -/
theorem Context.resolve_of_key_eq (context : Context) {name other : String}
    (h : Field.key name = Field.key other) : context.resolve name = context.resolve other := by
  have hFind : Field.find? context.fields name = Field.find? context.fields other := by
    simp only [Field.find?, Field.hasName, h]
  simp only [Context.resolve, hFind]

/-- A name is resolved by the first field that has it and by the cell stored for that field. -/
theorem Context.resolve_congr {left right : Context} {name : String}
    (found : Field.find? left.fields name = Field.find? right.fields name)
    (stored : ∀ field, Field.find? left.fields name = some field →
      left.row.get? field.name = right.row.get? field.name) :
    left.resolve name = right.resolve name := by
  simp only [Context.resolve, ← found]
  cases hFind : Field.find? left.fields name with
  | none => rfl
  | some field => simp only [stored field hFind]

namespace Expr

section Locality

variable {left right : Context}

mutual

/-- Evaluation asks for nothing but the names at the leaves and the clock. -/
theorem eval_congr_leaves : ∀ (e : Expr),
    (e.readsClock = true → left.now = right.now) →
    (∀ name ∈ e.fieldLeaves, left.resolve name = right.resolve name) →
    e.eval left = e.eval right
  | .number _, _, _ => rfl
  | .text _, _, _ => rfl
  | .bool _, _, _ => rfl
  | .field name, _, leaves => leaves name (by simp [fieldLeaves])
  | .unary op operand, clock, leaves => by
      have hOperand := eval_congr_leaves operand (fun h => clock (by simpa [readsClock] using h))
        (fun name hn => leaves name (by simpa [fieldLeaves] using hn))
      simp only [eval, hOperand]
  | .binary op l r, clock, leaves => by
      have hLeft := eval_congr_leaves l (fun h => clock (by simp [readsClock, h]))
        (fun name hn => leaves name (by simp [fieldLeaves, hn]))
      have hRight := eval_congr_leaves r (fun h => clock (by simp [readsClock, h]))
        (fun name hn => leaves name (by simp [fieldLeaves, hn]))
      simp only [eval, hLeft, hRight]
  | .logical op l r, clock, leaves => by
      have hLeft := eval_congr_leaves l (fun h => clock (by simp [readsClock, h]))
        (fun name hn => leaves name (by simp [fieldLeaves, hn]))
      have hRight := eval_congr_leaves r (fun h => clock (by simp [readsClock, h]))
        (fun name hn => leaves name (by simp [fieldLeaves, hn]))
      simp only [eval, hLeft, hRight]
  | .call name args, clock, leaves => by
      have hArgs := evalAll_congr_leaves args (fun h => clock (by simp [readsClock, h]))
        (fun n hn => leaves n (by simpa [fieldLeaves] using hn))
      simp only [eval, hArgs]
      cases hFind : Function.find? name with
      | none => rfl
      | some f =>
          have hClock : f.readsClock = true → left.now = right.now :=
            fun h => clock (by simp [readsClock, hFind, h])
          simp only [Function.call_clock left.now right.now f _ hClock]

theorem evalAll_congr_leaves : ∀ (args : List Expr),
    (readsClockAny args = true → left.now = right.now) →
    (∀ name ∈ fieldLeavesAll args, left.resolve name = right.resolve name) →
    evalAll left args = evalAll right args
  | [], _, _ => rfl
  | arg :: args, clock, leaves => by
      have hArg := eval_congr_leaves arg (fun h => clock (by simp [readsClockAny, h]))
        (fun name hn => leaves name (by simp [fieldLeavesAll, hn]))
      have hArgs := evalAll_congr_leaves args (fun h => clock (by simp [readsClockAny, h]))
        (fun name hn => leaves name (by simp [fieldLeavesAll, hn]))
      simp only [evalAll, hArg, hArgs]

end

end Locality

/-- Every name keeps an earlier spelling, unless its key has been met before. -/
theorem exists_mem_firstSpellings (seen : List String) {names : List String} {name : String}
    (h : name ∈ names) :
    Field.key name ∈ seen ∨
      ∃ spelling ∈ firstSpellings seen names, Field.key spelling = Field.key name := by
  induction names generalizing seen with
  | nil => cases h
  | cons first rest ih =>
      simp only [firstSpellings]
      by_cases hSeen : Field.key first ∈ seen
      · rw [if_pos hSeen]
        rcases List.mem_cons.mp h with rfl | hRest
        · exact Or.inl hSeen
        · exact ih seen hRest
      · rw [if_neg hSeen]
        rcases List.mem_cons.mp h with rfl | hRest
        · exact Or.inr ⟨name, List.mem_cons_self, rfl⟩
        · rcases ih (Field.key first :: seen) hRest with hMet | ⟨spelling, hm, hk⟩
          · rcases List.mem_cons.mp hMet with hFirst | hMet
            · exact Or.inr ⟨first, List.mem_cons_self, hFirst.symm⟩
            · exact Or.inl hMet
          · exact Or.inr ⟨spelling, List.mem_cons_of_mem _ hm, hk⟩

/-- The references leave out spellings, never fields. -/
theorem exists_mem_fieldReferences {e : Expr} {name : String} (h : name ∈ e.fieldLeaves) :
    ∃ spelling ∈ e.fieldReferences, Field.key spelling = Field.key name :=
  (exists_mem_firstSpellings [] h).resolve_left List.not_mem_nil

/-- An outcome is settled by the cells of the referenced fields and by the clock. -/
theorem eval_congr {left right : Context} (e : Expr)
    (clock : e.readsClock = true → left.now = right.now)
    (found : ∀ name ∈ e.fieldReferences,
      Field.find? left.fields name = Field.find? right.fields name)
    (stored : ∀ name ∈ e.fieldReferences, ∀ field,
      Field.find? left.fields name = some field →
        left.row.get? field.name = right.row.get? field.name) :
    e.eval left = e.eval right := by
  apply eval_congr_leaves e clock
  intro name hLeaf
  obtain ⟨spelling, hRef, hKey⟩ := exists_mem_fieldReferences hLeaf
  rw [← left.resolve_of_key_eq hKey, ← right.resolve_of_key_eq hKey]
  exact Context.resolve_congr (found spelling hRef) (stored spelling hRef)

end Expr

/-- The references of an expression are all that it reads of a row: two rows with the same cells
for the fields that the references stand for give it one outcome. -/
theorem references_are_all_reads (e : Expr) (fields : List Field) (now : Time.Instant)
    {row other : Row}
    (agree : ∀ name ∈ e.fieldReferences, ∀ field ∈ Field.find? fields name,
      row.get? field.name = other.get? field.name) :
    e.eval ⟨row, fields, now⟩ = e.eval ⟨other, fields, now⟩ :=
  Expr.eval_congr e (fun _ => rfl) (fun _ _ => rfl) agree

/-- Two spellings of one field are one reference. The rows differ in a field that is not named and
in a cell under a spelling that is not declared. -/
theorem references_are_all_reads_spellings :
    let e : Expr := .logical .or (.field "qty") (.call "IF" [.bool true, .field "QTY"])
    let fields : List Field := [⟨"Qty", .number, none⟩, ⟨"Note", .text, none⟩]
    let row := (Row.empty.insert "Qty" (.number 2)).insert "Note" (.text "new")
    let other := (Row.empty.insert "Qty" (.number 2)).insert "QTY" (.error .wrongType)
    (∀ name ∈ e.fieldReferences, ∀ field ∈ Field.find? fields name,
        row.get? field.name = other.get? field.name) ∧
      e.fieldReferences = ["qty"] ∧
      e.eval ⟨row, fields, .epoch⟩ = .ok (.bool true) ∧
      e.eval ⟨other, fields, .epoch⟩ = .ok (.bool true) := by
  intro e fields row other
  have agree : ∀ name ∈ e.fieldReferences, ∀ field ∈ Field.find? fields name,
      row.get? field.name = other.get? field.name := by decide +kernel
  have hEval : e.eval ⟨row, fields, .epoch⟩ = .ok (.bool true) := rfl
  exact ⟨agree, by decide +kernel, hEval,
    (references_are_all_reads e fields .epoch agree).symm.trans hEval⟩

/-- Without a call that depends on the clock an expression has one outcome at all times. -/
theorem steady_without_clock (e : Expr) (steady : e.readsClock = false) (fields : List Field)
    (row : Row) (now later : Time.Instant) :
    e.eval ⟨row, fields, now⟩ = e.eval ⟨row, fields, later⟩ := by
  apply Expr.eval_congr_leaves
  · intro clock
    rw [steady] at clock
    cases clock
  · exact fun _ _ => rfl

/-- The function is found under its name in small letters, and it reads a date of the row. -/
theorem steady_without_clock_year :
    let e : Expr := .binary (.comparison .less) (.call "year" [.field "Due"]) (.number 2030)
    let fields : List Field := [⟨"Due", .date, none⟩]
    let row := Row.empty.insert "Due" (.text "2024-01-31")
    let later : Time.Instant := ⟨1, 0, 0, by decide, by decide, by decide, by decide, by decide⟩
    e.readsClock = false ∧ e.eval ⟨row, fields, .epoch⟩ = .ok (.bool true) ∧
      e.eval ⟨row, fields, later⟩ = .ok (.bool true) := by
  intro e fields row later
  have steady : e.readsClock = false := by decide +kernel
  have hEval : e.eval ⟨row, fields, .epoch⟩ = .ok (.bool true) := rfl
  exact ⟨steady, hEval,
    (steady_without_clock e steady fields row .epoch later).symm.trans hEval⟩

end RowFormula
