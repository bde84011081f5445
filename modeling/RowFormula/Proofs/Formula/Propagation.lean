import RowFormula.Formula.Eval

/-! Where the error of a part shows. An expression around one part is a list of layers, each an
operator or a call with one place left open. The error of the part becomes the error of the whole
when evaluation comes to the open place of every layer, and else the part does not matter. -/
namespace RowFormula.Expr

/-- An operator or a call with one place left open. -/
inductive Layer where
  | unary (op : UnaryOp)
  | binaryLeft (op : BinaryOp) (right : Expr)
  | binaryRight (op : BinaryOp) (left : Expr)
  | logicalLeft (op : LogicalOp) (right : Expr)
  | logicalRight (op : LogicalOp) (left : Expr)
  | argument (name : String) (before after : List Expr)

namespace Layer

/-- The expression with the open place taken. -/
def fill (e : Expr) : Layer → Expr
  | .unary op => .unary op e
  | .binaryLeft op right => .binary op e right
  | .binaryRight op left => .binary op left e
  | .logicalLeft op right => .logical op e right
  | .logicalRight op left => .logical op left e
  | .argument name before after => .call name (before ++ e :: after)

/-- Evaluation comes to the open place: what stands to the left of it has values, a left operand
does not decide, and the function is known. -/
def Opens (context : Context) : Layer → Prop
  | .unary _ | .binaryLeft _ _ | .logicalLeft _ _ => True
  | .binaryRight _ left => ∃ value, left.eval context = .ok value
  | .logicalRight .and left => ∃ value, left.eval context = .ok value ∧ value.isTruthy = true
  | .logicalRight .or left => ∃ value, left.eval context = .ok value ∧ value.isTruthy = false
  | .argument name before _ =>
    (∃ f, Function.find? name = some f) ∧ ∀ arg ∈ before, ∃ value, arg.eval context = .ok value

end Layer

/-- An expression inside some layers, the outermost first. -/
def within (layers : List Layer) (e : Expr) : Expr := layers.foldr (fun layer e => layer.fill e) e

section

variable {context : Context}

/-- A left operand that has a value and does not decide leaves the right one to be evaluated. -/
theorem opens_logicalRight_iff (op : LogicalOp) (left : Expr) :
    (Layer.logicalRight op left).Opens context ↔
      ∃ value, left.eval context = .ok value ∧ op.decides value = false := by
  cases op with
  | and => simp [Layer.Opens, LogicalOp.decides]
  | or => simp [Layer.Opens, LogicalOp.decides]

/-- Arguments with values are passed over on the way to the first error. -/
theorem evalAll_error {before : List Expr}
    (values : ∀ arg ∈ before, ∃ value, arg.eval context = .ok value) {e : Expr}
    {error : FormulaError} (hError : e.eval context = .error error) (after : List Expr) :
    evalAll context (before ++ e :: after) = .error error := by
  induction before with
  | nil => rw [List.nil_append, evalAll, hError]
  | cons arg before ih =>
      obtain ⟨⟨value, hValue⟩, hBefore⟩ := List.forall_mem_cons.mp values
      rw [List.cons_append, evalAll, hValue, ih hBefore]

/-- Behind an argument without a value no other is evaluated. -/
theorem evalAll_stops {before : List Expr}
    (stuck : ¬∀ arg ∈ before, ∃ value, arg.eval context = .ok value) (after others : List Expr) :
    evalAll context (before ++ after) = evalAll context (before ++ others) := by
  induction before with
  | nil => exact absurd (List.forall_mem_nil _) stuck
  | cons arg before ih =>
      rw [List.cons_append, List.cons_append, evalAll, evalAll]
      cases hArg : arg.eval context with
      | error _ => rfl
      | ok value =>
          rw [ih fun hBefore => stuck (List.forall_mem_cons.mpr ⟨⟨value, hArg⟩, hBefore⟩)]

/-- Of one argument only the outcome counts. -/
theorem evalAll_congr {e other : Expr} (same : e.eval context = other.eval context)
    (before after : List Expr) :
    evalAll context (before ++ e :: after) = evalAll context (before ++ other :: after) := by
  induction before with
  | nil => rw [List.nil_append, List.nil_append, evalAll, evalAll, same]
  | cons arg before ih => rw [List.cons_append, List.cons_append, evalAll, evalAll, ih]

namespace Layer

variable {layer : Layer}

/-- One layer passes an error on. -/
theorem Opens.eval_fill (opens : layer.Opens context) {e : Expr} {error : FormulaError}
    (hError : e.eval context = .error error) : (layer.fill e).eval context = .error error := by
  cases layer with
  | unary op => rw [fill, eval, hError]
  | binaryLeft op right => rw [fill, eval, hError]
  | binaryRight op left =>
      obtain ⟨value, hLeft⟩ := opens
      rw [fill, eval, hLeft, hError]
  | logicalLeft op right => rw [fill, eval, hError]
  | logicalRight op left =>
      obtain ⟨value, hLeft, hOpen⟩ := (opens_logicalRight_iff op left).mp opens
      simp [fill, eval, hLeft, hOpen, hError]
  | argument name before after =>
      obtain ⟨⟨f, hFind⟩, values⟩ := opens
      rw [fill, eval, hFind, evalAll_error values hError]

/-- A layer whose open place evaluation does not come to has its outcome without it. -/
theorem eval_fill_of_not_opens (shut : ¬layer.Opens context) (e other : Expr) :
    (layer.fill e).eval context = (layer.fill other).eval context := by
  cases layer with
  | unary op => simp [Opens] at shut
  | binaryLeft op right => simp [Opens] at shut
  | binaryRight op left =>
      rw [fill, fill, eval, eval]
      cases hLeft : left.eval context with
      | error _ => rfl
      | ok value => exact absurd ⟨value, hLeft⟩ shut
  | logicalLeft op right => simp [Opens] at shut
  | logicalRight op left =>
      rw [opens_logicalRight_iff] at shut
      rw [fill, fill, eval, eval]
      cases hLeft : left.eval context with
      | error _ => rfl
      | ok value =>
          have hDecides : op.decides value = true :=
            Bool.of_not_eq_false fun hOpen => shut ⟨value, hLeft, hOpen⟩
          simp only [hDecides, if_true]
  | argument name before after =>
      rw [fill, fill, eval, eval]
      cases hFind : Function.find? name with
      | none => rfl
      | some f => rw [evalAll_stops (fun values => shut ⟨⟨f, hFind⟩, values⟩) _ (other :: after)]

/-- Of what is in the open place only the outcome counts. -/
theorem eval_fill_congr (layer : Layer) {e other : Expr}
    (same : e.eval context = other.eval context) :
    (layer.fill e).eval context = (layer.fill other).eval context := by
  cases layer with
  | argument name before after => rw [fill, fill, eval, eval, evalAll_congr same]
  | _ => simp only [fill, eval, same]

end Layer

end

/-- The first error wins: where evaluation comes to the open place of every layer, the error of
what stands inside is the error of the whole. Where it does not, what stands inside does not matter
at all, so nothing else hides an error. -/
theorem first_error_wins (context : Context) (layers : List Layer) :
    ((∀ layer ∈ layers, layer.Opens context) → ∀ e error, e.eval context = .error error →
        (within layers e).eval context = .error error) ∧
      ((∃ layer ∈ layers, ¬layer.Opens context) → ∀ e other,
        (within layers e).eval context = (within layers other).eval context) := by
  induction layers with
  | nil => exact ⟨fun _ _ _ hError => hError, fun ⟨_, hNone, _⟩ => absurd hNone List.not_mem_nil⟩
  | cons outer layers ih =>
      obtain ⟨passes, hides⟩ := ih
      constructor
      · intro opens e error hError
        obtain ⟨hOuter, hLayers⟩ := List.forall_mem_cons.mp opens
        exact hOuter.eval_fill (passes hLayers e error hError)
      · rintro ⟨layer, hLayer, shut⟩ e other
        rcases List.mem_cons.mp hLayer with rfl | hInner
        · exact Layer.eval_fill_of_not_opens shut _ _
        · exact outer.eval_fill_congr (hides ⟨layer, hInner, shut⟩ e other)

/-- A missing field is divided by zero under a conjunction, in a call in small letters that has too
many arguments, with an unknown function behind it. A disjunction that is decided hides it all. -/
theorem first_error_wins_nested :
    let context : Context := ⟨Row.empty, [], .epoch⟩
    let e : Expr := .field "Missing"
    let layers : List Layer :=
      [.unary .not, .binaryRight (.comparison .less) (.number 1),
        .argument "left" [.text "a", .bool true] [.call "NOPE" [], .text "b"],
        .logicalRight .and (.text "x"), .binaryLeft (.arithmetic .divide) (.number 0)]
    let hidden := Layer.logicalRight .or (.text "x") :: layers
    (∀ layer ∈ layers, layer.Opens context) ∧ e.eval context = .error .unknownField ∧
      (within layers e).eval context = .error .unknownField ∧
      (∃ layer ∈ hidden, ¬layer.Opens context) ∧
      (within hidden e).eval context = .ok (.bool true) ∧
      (within hidden (.bool false)).eval context = .ok (.bool true) := by
  intro context e layers hidden
  have opens : ∀ layer ∈ layers, layer.Opens context := by
    have hFind : Function.find? "left" = some (.text .left) := by decide +kernel
    simp [layers, Layer.Opens, hFind, eval, Value.isTruthy]
  have shut : ∃ layer ∈ hidden, ¬layer.Opens context :=
    ⟨_, List.mem_cons_self, by simp [Layer.Opens, eval, Value.isTruthy]⟩
  have hError : e.eval context = .error .unknownField := rfl
  have hHidden : (within hidden e).eval context = .ok (.bool true) := rfl
  exact ⟨opens, hError, (first_error_wins context layers).1 opens e .unknownField hError, shut,
    hHidden, ((first_error_wins context hidden).2 shut e (.bool false)).symm.trans hHidden⟩

end RowFormula.Expr
