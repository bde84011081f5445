import RowFormula.Formula.Eval

/-! How a formula can fail. With all its calls and fields in order a formula fails only on its
data: an operand has no reading of the kind that is needed, or a divisor is zero. -/
namespace RowFormula

/-- An outcome is no error, or an operand or argument has the wrong type, or, if there is a
division at all, a divisor is zero. -/
def FailsOnData {α : Type} (division : Prop) (outcome : Outcome α) : Prop :=
  ∀ error, outcome = .error error → error = .wrongType ∨ (error = .divisionByZero ∧ division)

section Outcomes

variable {α β : Type} {division : Prop}

theorem failsOnData_ok (a : α) : FailsOnData division (.ok a) := by
  intro error h
  cases h

theorem failsOnData_wrongType : FailsOnData division (.error .wrongType : Outcome α) := by
  intro error h
  cases h
  exact Or.inl rfl

theorem failsOnData_divisionByZero (h : division) :
    FailsOnData division (.error .divisionByZero : Outcome α) := by
  intro error hError
  cases hError
  exact Or.inr ⟨rfl, h⟩

/-- An error is passed on. -/
theorem FailsOnData.of_error {x : Outcome α} (hx : FailsOnData division x) {error : FormulaError}
    (h : x = .error error) : FailsOnData division (.error error : Outcome β) := by
  intro other hOther
  cases hOther
  exact hx error h

/-- A computation fails on data alone when both of its parts do. -/
theorem FailsOnData.bind {x : Outcome α} {f : α → Outcome β} (hx : FailsOnData division x)
    (hf : ∀ a, x = .ok a → FailsOnData division (f a)) : FailsOnData division (x >>= f) := by
  cases x with
  | error _ => exact hx.of_error rfl
  | ok a => exact hf a rfl

theorem FailsOnData.map {x : Outcome α} (hx : FailsOnData division x) (f : α → β) :
    FailsOnData division (x.map f) := by
  cases x with
  | error _ => exact hx.of_error rfl
  | ok a => exact failsOnData_ok (f a)

theorem failsOnData_ite {p : Prop} [Decidable p] {x y : Outcome α}
    (hx : FailsOnData division x) (hy : FailsOnData division y) :
    FailsOnData division (if p then x else y) := by
  split
  · exact hx
  · exact hy

end Outcomes

section Functions

variable {division : Prop}

namespace Argument

/-- Reading a value as a number fails on data alone. -/
theorem toNumber_failsOnData (value : Value) : FailsOnData division (toNumber value) := by
  unfold toNumber
  split
  · exact failsOnData_ok _
  · exact failsOnData_wrongType

/-- A needed argument that is there fails on data alone. -/
theorem number_failsOnData {args : List Value} {index : Nat} (h : index < args.length) :
    FailsOnData division (number args index) := by
  rw [number, List.getElem?_eq_getElem h]
  exact toNumber_failsOnData _

theorem numberOr_failsOnData (default : Float) (args : List Value) (index : Nat) :
    FailsOnData division (numberOr default args index) := by
  unfold numberOr
  split
  · exact toNumber_failsOnData _
  · exact failsOnData_ok _

theorem date_failsOnData {args : List Value} {index : Nat} (h : index < args.length) :
    FailsOnData division (date args index) := by
  rw [date, List.getElem?_eq_getElem h]
  dsimp only
  split
  · exact failsOnData_ok _
  · exact failsOnData_wrongType

theorem numbers_failsOnData (args : List Value) : FailsOnData division (numbers args) := by
  unfold numbers
  induction args with
  | nil => exact failsOnData_ok _
  | cons value rest ih =>
      rw [List.mapM_cons]
      exact (toNumber_failsOnData value).bind fun _ _ => ih.bind fun _ _ => failsOnData_ok _

/-- As many numbers are read as there are arguments. -/
theorem length_numbers {args : List Value} {xs : List Float} (h : numbers args = .ok xs) :
    xs.length = args.length := by
  unfold numbers at h
  induction args generalizing xs with
  | nil =>
      cases h
      rfl
  | cons value rest ih =>
      rw [List.mapM_cons] at h
      cases hValue : toNumber value with
      | error _ =>
          rw [hValue] at h
          cases h
      | ok x =>
          cases hRest : rest.mapM toNumber with
          | error _ =>
              rw [hValue, hRest] at h
              cases h
          | ok others =>
              rw [hValue, hRest] at h
              cases h
              rw [List.length_cons, List.length_cons, ih hRest]

theorem toCount_failsOnData (x : Float) : FailsOnData division (toCount x) :=
  failsOnData_ite failsOnData_wrongType (failsOnData_ok _)

theorem toPlace_failsOnData (x : Float) : FailsOnData division (toPlace x) :=
  failsOnData_ite failsOnData_wrongType (failsOnData_ok _)

end Argument

open Argument

theorem TextFunction.repeated_failsOnData (times : Nat) (cs : List Char) :
    FailsOnData division (repeated times cs) :=
  failsOnData_ite failsOnData_wrongType (failsOnData_ite (failsOnData_ok _) (failsOnData_ok _))

/-- With enough arguments a text function fails on data alone. -/
theorem TextFunction.apply_failsOnData (f : TextFunction) {args : List Value}
    (least : f.signature.2.least ≤ args.length) : FailsOnData division (f.apply args) := by
  cases f with
  | concat | upper | lower | len | trim => exact failsOnData_ok _
  | left | right =>
      exact (numberOr_failsOnData 1 args 1).bind fun x _ =>
        (toCount_failsOnData x).bind fun _ _ => failsOnData_ok _
  | mid =>
      have hArgs : 3 ≤ args.length := least
      exact (number_failsOnData (by omega)).bind fun place _ =>
        (number_failsOnData (by omega)).bind fun count _ =>
          (toPlace_failsOnData place).bind fun _ _ =>
            (toCount_failsOnData count).bind fun _ _ => failsOnData_ok _
  | find =>
      exact (numberOr_failsOnData 1 args 2).bind fun x _ =>
        (toPlace_failsOnData x).bind fun _ _ => failsOnData_ok _
  | substitute =>
      dsimp only [apply]
      split
      · exact failsOnData_ok _
      · split
        · exact failsOnData_ok _
        · exact (number_failsOnData (by omega)).bind fun x _ =>
            (toPlace_failsOnData x).bind fun _ _ => failsOnData_ok _
  | rept =>
      exact (numberOr_failsOnData 0 args 1).bind fun x _ =>
        (toCount_failsOnData x).bind fun times _ =>
          (repeated_failsOnData times _).bind fun _ _ => failsOnData_ok _

/-- Only the remainder divides by an argument, and a mean has something to count. -/
theorem MathFunction.applyNumber_failsOnData (f : MathFunction) {args : List Value}
    (least : f.signature.2.least ≤ args.length) (hDivision : f = .mod → division) :
    FailsOnData division (f.applyNumber args) := by
  cases f with
  | round | floor | ceiling =>
      have hArgs : 1 ≤ args.length := least
      exact (number_failsOnData (by omega)).bind fun _ _ =>
        (numberOr_failsOnData _ args 1).bind fun _ _ => failsOnData_ok _
  | abs =>
      have hArgs : 1 ≤ args.length := least
      exact (number_failsOnData (by omega)).bind fun _ _ => failsOnData_ok _
  | mod =>
      have hArgs : 2 ≤ args.length := least
      exact (number_failsOnData (by omega)).bind fun _ _ =>
        (number_failsOnData (by omega)).bind fun _ _ =>
          failsOnData_ite (failsOnData_divisionByZero (hDivision rfl)) (failsOnData_ok _)
  | sum | min | max =>
      exact (numbers_failsOnData args).bind fun _ _ => failsOnData_ok _
  | average =>
      refine (numbers_failsOnData args).bind fun xs hNumbers => ?_
      have hArgs : 1 ≤ args.length := least
      have hSome : xs ≠ [] := by
        rw [← List.length_pos_iff, length_numbers hNumbers]
        exact hArgs
      rw [mean, if_neg hSome]
      exact failsOnData_ok _
  | value =>
      dsimp only [applyNumber]
      split
      · exact failsOnData_ok _
      · split
        · exact failsOnData_ok _
        · exact failsOnData_wrongType

/-- A control function fails on data alone. -/
theorem ControlFunction.apply_failsOnData (f : ControlFunction) (args : List Value) :
    FailsOnData division (f.apply args) := by
  cases f with
  | choose | blank => exact failsOnData_ok _
  | switch => cases args <;> exact failsOnData_ok _

theorem DateFunction.unitOr_failsOnData (default : Time.TimeUnit) (args : List Value)
    (index : Nat) : FailsOnData division (unitOr default args index) := by
  unfold unitOr
  split
  · split
    · exact failsOnData_ok _
    · exact failsOnData_wrongType
  · exact failsOnData_ok _

/-- With enough arguments a date function fails on data alone. -/
theorem DateFunction.apply_failsOnData (now : Time.Instant) (f : DateFunction)
    {args : List Value} (least : f.signature.2.least ≤ args.length) :
    FailsOnData division (f.apply now args) := by
  cases f with
  | dateAdd =>
      have hArgs : 3 ≤ args.length := least
      refine (date_failsOnData (by omega)).bind fun t _ =>
        (number_failsOnData (by omega)).bind fun count _ =>
          (unitOr_failsOnData _ args 2).bind fun unit _ => ?_
      split
      · exact failsOnData_ok _
      · exact failsOnData_wrongType
  | dateDiff =>
      have hArgs : 2 ≤ args.length := least
      exact (date_failsOnData (by omega)).bind fun _ _ =>
        (date_failsOnData (by omega)).bind fun _ _ =>
          (unitOr_failsOnData _ args 2).bind fun _ _ => failsOnData_ok _
  | dateFormat =>
      have hArgs : 1 ≤ args.length := least
      exact (date_failsOnData (by omega)).bind fun _ _ =>
        failsOnData_ite (failsOnData_ok _) (failsOnData_ok _)
  | year | month | day =>
      have hArgs : 1 ≤ args.length := least
      exact (date_failsOnData (by omega)).bind fun _ _ => failsOnData_ok _
  | now | today => exact failsOnData_ok _

/-- With a right number of arguments no function misses one. -/
theorem Function.call_failsOnData (now : Time.Instant) (f : Function) {args : List Value}
    (admitted : f.arity.admits args.length = true) (hDivision : f = .math .mod → division) :
    FailsOnData division (f.call now args) := by
  have least : f.arity.least ≤ args.length := by
    simp only [Arity.admits, Bool.and_eq_true, decide_eq_true_eq] at admitted
    exact admitted.1
  rw [Function.call, if_pos admitted]
  cases f with
  | text f => exact f.apply_failsOnData least
  | math f =>
      have hNumber : FailsOnData division (f.applyNumber args) :=
        f.applyNumber_failsOnData least fun h => hDivision (congrArg Function.math h)
      exact hNumber.map _
  | control f => exact f.apply_failsOnData args
  | date f => exact f.apply_failsOnData now least

/-- An operator in front fails on data alone. -/
theorem UnaryOp.apply_failsOnData (op : UnaryOp) (operand : Value) :
    FailsOnData division (op.apply operand) := by
  cases op with
  | negate => exact (toNumber_failsOnData operand).map _
  | not => exact failsOnData_ok _

/-- An infix operator fails on data alone, and only a division divides by zero. -/
theorem BinaryOp.apply_failsOnData (op : BinaryOp) (left right : Value)
    (hDivision : op = .arithmetic .divide → division) :
    FailsOnData division (op.apply left right) := by
  cases op with
  | comparison op => exact failsOnData_ok _
  | arithmetic op =>
      refine (toNumber_failsOnData left).bind fun x _ =>
        (toNumber_failsOnData right).bind fun y _ => ?_
      cases op with
      | divide =>
          exact failsOnData_ite (failsOnData_divisionByZero (hDivision rfl)) (failsOnData_ok _)
      | _ => exact failsOnData_ok _

end Functions

namespace Expr

mutual

/-- The expression and all expressions that it is made of. -/
def parts : Expr → List Expr
  | .number x => [.number x]
  | .text s => [.text s]
  | .bool b => [.bool b]
  | .field name => [.field name]
  | .unary op operand => .unary op operand :: operand.parts
  | .binary op left right => .binary op left right :: (left.parts ++ right.parts)
  | .logical op left right => .logical op left right :: (left.parts ++ right.parts)
  | .call name args => .call name args :: partsAll args

def partsAll : List Expr → List Expr
  | [] => []
  | arg :: args => arg.parts ++ partsAll args

end

/-- A call names a function that takes this number of arguments, and a field is declared and has
no error stored. -/
def isFitting (context : Context) : Expr → Bool
  | .call name args => (Function.find? name).any fun f => f.arity.admits args.length
  | .field name => (Field.find? context.fields name).any fun field =>
      ((context.row.get? field.name).bind Cell.error?).isNone
  | _ => true

/-- A division, or a call of the function that divides. -/
def divides : Expr → Bool
  | .binary (.arithmetic .divide) _ _ => true
  | .call name _ => Function.find? name = some (.math .mod)
  | _ => false

/-- There are as many values as arguments. -/
theorem length_evalAll {context : Context} {args : List Expr} {values : List Value}
    (h : evalAll context args = .ok values) : values.length = args.length := by
  induction args generalizing values with
  | nil =>
      cases h
      rfl
  | cons arg rest ih =>
      simp only [evalAll] at h
      split at h
      · split at h
        · rename_i hRest
          cases h
          rw [List.length_cons, List.length_cons, ih hRest]
        · cases h
      · cases h

section Evaluation

variable {context : Context} {division : Prop}

/-- A field that is declared and has no error stored fails on data alone. -/
theorem resolve_failsOnData {name : String} (fitting : (field name).isFitting context = true) :
    FailsOnData division (context.resolve name) := by
  simp only [isFitting, Option.any_eq_true] at fitting
  obtain ⟨field, hFind, hClean⟩ := fitting
  simp only [Context.resolve, hFind]
  split
  · exact failsOnData_ok _
  · rename_i hCell
    simp [hCell, Cell.error?] at hClean
  · exact failsOnData_ok _

mutual

/-- If every part is fitting, evaluation fails only on data, and a zero divisor is noticed only
where a part divides. -/
theorem eval_failsOnData : ∀ (e : Expr),
    (∀ part ∈ e.parts, part.isFitting context = true ∧ (part.divides = true → division)) →
    FailsOnData division (e.eval context)
  | .number _, _ => failsOnData_ok _
  | .text _, _ => failsOnData_ok _
  | .bool _, _ => failsOnData_ok _
  | .field _, hParts => resolve_failsOnData (hParts _ (by simp [parts])).1
  | .unary op operand, hParts => by
      have hOperand := eval_failsOnData operand fun part hp => hParts part (by simp [parts, hp])
      rw [eval]
      split
      · exact op.apply_failsOnData _
      · rename_i hError
        exact hOperand.of_error hError
  | .binary op left right, hParts => by
      have hLeft := eval_failsOnData left fun part hp => hParts part (by simp [parts, hp])
      have hRight := eval_failsOnData right fun part hp => hParts part (by simp [parts, hp])
      have hSelf := (hParts (.binary op left right) (by simp [parts])).2
      rw [eval]
      split
      · split
        · exact op.apply_failsOnData _ _ fun hDivide => hSelf (by rw [hDivide]; rfl)
        · rename_i hError
          exact hRight.of_error hError
      · rename_i hError
        exact hLeft.of_error hError
  | .logical op left right, hParts => by
      have hLeft := eval_failsOnData left fun part hp => hParts part (by simp [parts, hp])
      have hRight := eval_failsOnData right fun part hp => hParts part (by simp [parts, hp])
      rw [eval]
      split
      · refine failsOnData_ite (failsOnData_ok _) ?_
        split
        · exact failsOnData_ok _
        · rename_i hError
          exact hRight.of_error hError
      · rename_i hError
        exact hLeft.of_error hError
  | .call name args, hParts => by
      have hArgs := evalAll_failsOnData args fun part hp => hParts part (by simp [parts, hp])
      obtain ⟨hFitting, hSelf⟩ := hParts (.call name args) (by simp [parts])
      simp only [isFitting, Option.any_eq_true] at hFitting
      obtain ⟨f, hFind, admitted⟩ := hFitting
      simp only [eval, hFind]
      split
      · rename_i hValues
        rw [← length_evalAll hValues] at admitted
        refine f.call_failsOnData context.now admitted fun hMod => hSelf ?_
        simp [divides, hFind, hMod]
      · rename_i hError
        exact hArgs.of_error hError

theorem evalAll_failsOnData : ∀ (args : List Expr),
    (∀ part ∈ partsAll args, part.isFitting context = true ∧ (part.divides = true → division)) →
    FailsOnData division (evalAll context args)
  | [], _ => failsOnData_ok _
  | arg :: args, hParts => by
      have hArg := eval_failsOnData arg fun part hp => hParts part (by simp [partsAll, hp])
      have hArgs := evalAll_failsOnData args fun part hp => hParts part (by simp [partsAll, hp])
      rw [evalAll]
      split
      · split
        · exact failsOnData_ok _
        · rename_i hError
          exact hArgs.of_error hError
      · rename_i hError
        exact hArg.of_error hError

end

end Evaluation

end Expr

/-- With every call and field in order a formula has a value, or an operand or argument has no
reading of the kind that is needed, or a divisor is zero. The last can happen only to a formula
with a division in it. -/
theorem fitting_fails_on_data (context : Context) (e : Expr)
    (fitting : ∀ part ∈ e.parts, part.isFitting context = true) :
    (∃ value, e.eval context = .ok value) ∨ e.eval context = .error .wrongType ∨
      (e.eval context = .error .divisionByZero ∧ ∃ part ∈ e.parts, part.divides = true) := by
  have hFails : FailsOnData (∃ part ∈ e.parts, part.divides = true) (e.eval context) :=
    Expr.eval_failsOnData e fun part hPart =>
      ⟨fitting part hPart, fun hDivides => ⟨part, hPart, hDivides⟩⟩
  cases hEval : e.eval context with
  | ok value => exact Or.inl ⟨value, rfl⟩
  | error error =>
      rcases hFails error hEval with rfl | ⟨rfl, hDivides⟩
      · exact Or.inr (Or.inl rfl)
      · exact Or.inr (Or.inr ⟨rfl, hDivides⟩)

/-- A division by a call in small letters that needs two of its three arguments, over fields in
other spellings than declared. Nothing is found in the empty note, so the divisor is zero. -/
theorem fitting_fails_on_data_ratio :
    let context : Context :=
      ⟨Row.empty.insert "Price" (.text "12"), [⟨"Price", .number, none⟩, ⟨"Note", .text, none⟩],
        .epoch⟩
    let e : Expr := .binary (.arithmetic .divide) (.field "PRICE")
      (.call "find" [.text "a", .field "note"])
    (∀ part ∈ e.parts, part.isFitting context = true) ∧
      e.eval context = .error .divisionByZero ∧ ∃ part ∈ e.parts, part.divides = true := by
  intro context e
  have fitting : ∀ part ∈ e.parts, part.isFitting context = true := by decide +kernel
  have hZero : e.eval context = .error .divisionByZero := rfl
  rcases fitting_fails_on_data context e fitting with ⟨_, hValue⟩ | hType | hDivision
  · rw [hZero] at hValue
    cases hValue
  · rw [hZero] at hType
    cases hType
  · exact ⟨fitting, hDivision⟩

end RowFormula
