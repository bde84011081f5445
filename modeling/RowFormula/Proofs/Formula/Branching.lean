import RowFormula.Proofs.Formula.Failure

/-! Calls that choose a result. All arguments of a call are evaluated, chosen or not, and the first
error among them wins. So a switch is a chain of conditionals, although the chain evaluates the
subject again for every pattern. -/
namespace RowFormula

theorem Function.find?_choose : Function.find? "IF" = some (.control .choose) := by decide +kernel

theorem Function.find?_switch : Function.find? "SWITCH" = some (.control .switch) := by
  decide +kernel

/-- A conditional gives its second argument or, if there is one, its third. -/
theorem Function.call_choose (now : Time.Instant) (condition result : Value) {others : List Value}
    (h : others.length ≤ 1) :
    Function.call now (.control .choose) (condition :: result :: others) =
      .ok (if condition.isTruthy then result else others.head?.getD .null) := by
  have hAdmits : Arity.admits (.between 2 3) (others.length + 2) = true := by
    simp [Arity.admits, Arity.between, h]
  simp only [Function.call, Function.arity, Function.signature, ControlFunction.signature,
    List.length_cons, hAdmits, if_true, Function.apply, ControlFunction.apply]
  cases hTruth : condition.isTruthy <;> simp [hTruth, List.head?_eq_getElem?]

theorem Function.call_switch (now : Time.Instant) (subject : Value) {others : List Value}
    (h : 2 ≤ others.length) :
    Function.call now (.control .switch) (subject :: others) =
      .ok (ControlFunction.select subject others) := by
  have hAdmits : Arity.admits (.atLeast 3) (others.length + 1) = true := by
    simp [Arity.admits, Arity.atLeast, h]
  simp only [Function.call, Function.arity, Function.signature, ControlFunction.signature,
    List.length_cons, hAdmits, if_true, Function.apply, ControlFunction.apply]

namespace Expr

/-- A known function gets the values of its arguments. -/
theorem eval_call {name : String} {f : Function} (hFind : Function.find? name = some f)
    (context : Context) (args : List Expr) :
    (call name args).eval context = (evalAll context args).bind (f.call context.now) := by
  rw [eval, hFind]
  dsimp only
  cases evalAll context args <;> rfl

/-- Arguments are evaluated from left to right, up to the first error. -/
theorem evalAll_cons (context : Context) (arg : Expr) (args : List Expr) :
    evalAll context (arg :: args) =
      (arg.eval context).bind fun value => (evalAll context args).map (value :: ·) := by
  rw [evalAll]
  cases arg.eval context with
  | error _ => rfl
  | ok value => cases evalAll context args <;> rfl

/-- A conditional evaluates both branches, of which the second may be missing. -/
theorem eval_choose (context : Context) (condition result : Expr) (alternative : Option Expr) :
    (call "IF" (condition :: result :: alternative.toList)).eval context =
      (condition.eval context).bind fun holds => (result.eval context).bind fun value =>
        (evalAll context alternative.toList).map fun others =>
          if holds.isTruthy then value else others.head?.getD .null := by
  rw [eval_call Function.find?_choose, evalAll_cons, evalAll_cons]
  cases condition.eval context with
  | error _ => rfl
  | ok holds =>
      cases result.eval context with
      | error _ => rfl
      | ok value =>
          cases hOthers : evalAll context alternative.toList with
          | error _ => rfl
          | ok others =>
              have hLength : others.length ≤ 1 := by
                rw [length_evalAll hOthers]
                exact Option.length_toList_le
              exact Function.call_choose context.now holds value hLength

/-- Patterns and their results, one after the other. -/
def branchArgs (branches : List (Expr × Expr)) : List Expr :=
  branches.flatMap fun branch => [branch.1, branch.2]

theorem branchArgs_cons (branch : Expr × Expr) (rest : List (Expr × Expr)) :
    branchArgs (branch :: rest) = branch.1 :: branch.2 :: branchArgs rest := rfl

/-- Conditionals that compare a subject with one pattern after the other. The innermost one has no
alternative where there is no default. -/
def ifChain (subject : Expr) : (branch : Expr × Expr) → List (Expr × Expr) → Option Expr → Expr
  | branch, [], default =>
    .call "IF" (.binary (.comparison .equal) subject branch.1 :: branch.2 :: default.toList)
  | branch, next :: rest, default =>
    .call "IF" [.binary (.comparison .equal) subject branch.1, branch.2,
      ifChain subject next rest default]

section Chain

variable (context : Context) {subject : Expr} {value : Value}
  (hSubject : subject.eval context = .ok value)

include hSubject

/-- One conditional of a chain goes before the choice that its alternative makes. -/
theorem eval_link (branch : Expr × Expr) (alternative : Option Expr) {args : List Expr}
    (h : (evalAll context alternative.toList).map (fun others => others.head?.getD .null) =
      (evalAll context args).map (ControlFunction.select value)) :
    (call "IF" (.binary (.comparison .equal) subject branch.1 :: branch.2 ::
        alternative.toList)).eval context =
      (evalAll context (branch.1 :: branch.2 :: args)).map (ControlFunction.select value) := by
  rw [eval_choose, eval, hSubject, evalAll_cons, evalAll_cons]
  cases branch.1.eval context with
  | error _ => rfl
  | ok pattern =>
      cases branch.2.eval context with
      | error _ => rfl
      | ok result =>
          let choose (other : Value) : Value :=
            if Value.compares .equal value pattern then result else other
          calc (evalAll context alternative.toList).map (fun others =>
                choose (others.head?.getD .null))
              = ((evalAll context alternative.toList).map fun others =>
                  others.head?.getD .null).map choose := by
                cases evalAll context alternative.toList <;> rfl
            _ = ((evalAll context args).map (ControlFunction.select value)).map choose := by rw [h]
            _ = (((evalAll context args).map (result :: ·)).map (pattern :: ·)).map
                  (ControlFunction.select value) := by
                cases evalAll context args <;> rfl

/-- A chain chooses among the values of its branches as a switch does. -/
theorem eval_ifChain (branch : Expr × Expr) (rest : List (Expr × Expr)) (default : Option Expr) :
    (ifChain subject branch rest default).eval context =
      (evalAll context (branchArgs (branch :: rest) ++ default.toList)).map
        (ControlFunction.select value) := by
  induction rest generalizing branch with
  | nil =>
      refine eval_link context hSubject branch default ?_
      cases default with
      | none => rfl
      | some last =>
          change _ = (evalAll context [last]).map _
          rw [Option.toList_some, evalAll_cons]
          cases last.eval context <;> rfl
  | cons next rest ih =>
      have hRest : ((evalAll context [ifChain subject next rest default]).map fun others =>
          others.head?.getD .null) = (ifChain subject next rest default).eval context := by
        rw [evalAll_cons]
        cases (ifChain subject next rest default).eval context <;> rfl
      exact eval_link context hSubject branch (some _) (hRest.trans (ih next))

end Chain

/-- A chain evaluates its subject first. -/
theorem eval_ifChain_of_error (context : Context) {subject : Expr} {error : FormulaError}
    (hSubject : subject.eval context = .error error) (branch : Expr × Expr)
    (rest : List (Expr × Expr)) (default : Option Expr) :
    (ifChain subject branch rest default).eval context = .error error := by
  have hFirst (others : List Expr) :
      (call "IF" (.binary (.comparison .equal) subject branch.1 :: others)).eval context =
        .error error := by
    rw [eval_call Function.find?_choose, evalAll_cons, eval, hSubject]
    rfl
  cases rest with
  | nil => exact hFirst _
  | cons next rest => exact hFirst _

/-- A switch is a chain of conditionals: for any number of patterns with their results, with or
without a default, both have the same value or the same error. -/
theorem switch_eq_ifChain (context : Context) (subject : Expr) (branch : Expr × Expr)
    (rest : List (Expr × Expr)) (default : Option Expr) :
    (call "SWITCH" (subject :: (branchArgs (branch :: rest) ++ default.toList))).eval context =
      (ifChain subject branch rest default).eval context := by
  rw [eval_call Function.find?_switch, evalAll_cons]
  cases hSubject : subject.eval context with
  | error error => exact (eval_ifChain_of_error context hSubject branch rest default).symm
  | ok value =>
      rw [eval_ifChain context hSubject]
      cases hOthers : evalAll context (branchArgs (branch :: rest) ++ default.toList) with
      | error _ => rfl
      | ok others =>
          have hLength : 2 ≤ others.length := by
            rw [length_evalAll hOthers, branchArgs_cons]
            simp
          exact Function.call_switch context.now value hLength

end Expr

end RowFormula
