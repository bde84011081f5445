import RowFormula.Formula.Eval
import RowFormula.Proofs.Expr.Acceptance

/-! Calls of logical operators. Such a call is read as the operator between all its arguments.
Evaluation goes through them from the left: the first one that fails or decides gives the result,
and those behind it do not matter. -/
namespace RowFormula

/-- The truth value of an outcome, which is all that logical operators make of it. -/
def Outcome.truth (outcome : Outcome Value) : Outcome Value :=
  outcome.map fun value => .bool value.isTruthy

/-- A truth value is its own truth. -/
@[simp] theorem Outcome.truth_truth (outcome : Outcome Value) :
    Outcome.truth (Outcome.truth outcome) = Outcome.truth outcome := by
  cases outcome <;> rfl

namespace LogicalOp

/-- An argument has a value that leaves the result to the arguments behind it: it is true in a
conjunction and false in a disjunction. -/
def Passes (op : LogicalOp) (context : Context) (arg : Expr) : Prop :=
  ∃ value, arg.eval context = .ok value ∧ value.isTruthy = op.identity

/-- Tokens that call an operator with some arguments. -/
def CalledIn (op : LogicalOp) (tokens : List Token) (args : List Expr) : Prop :=
  ∃ inner, DerivesAll inner args ∧
    tokens.map Token.kind = (Infix.logical op).kind :: .leftParen :: (inner ++ [.rightParen])

section

variable (op : LogicalOp) {context : Context}

/-- An argument passes when its truth decides nothing. -/
theorem passes_iff (arg : Expr) :
    op.Passes context arg ↔ Outcome.truth (arg.eval context) = .ok (.bool op.identity) := by
  unfold Passes
  cases arg.eval context <;> simp [Outcome.truth, Except.map]

theorem decides_eq (value : Value) : op.decides value = (value.isTruthy != op.identity) := by
  cases op <;> simp [decides, identity]

variable {op} {left : Expr}

/-- An argument that passes leaves the result to the other one. -/
theorem Passes.eval_logical (passes : op.Passes context left) (right : Expr) :
    (Expr.logical op left right).eval context = Outcome.truth (right.eval context) := by
  obtain ⟨value, hLeft, hTruth⟩ := passes
  have hOpen : op.decides value = false := by simp [decides_eq, hTruth]
  rw [Expr.eval, hLeft]
  simp only [hOpen, Bool.false_eq_true, if_false]
  cases right.eval context <;> rfl

/-- An argument that does not pass gives the result. -/
theorem eval_logical_of_not_passes (stops : ¬op.Passes context left) (right : Expr) :
    (Expr.logical op left right).eval context = Outcome.truth (left.eval context) := by
  rw [Expr.eval]
  cases hLeft : left.eval context with
  | error _ => rfl
  | ok value =>
      have hDecides : op.decides value = true := by
        simpa [decides_eq] using fun hTruth => stops ⟨value, hLeft, hTruth⟩
      simp only [hDecides, if_true]
      rfl

/-- A logical operator gives a truth value. -/
theorem truth_eval_logical (left right : Expr) :
    Outcome.truth ((Expr.logical op left right).eval context) =
      (Expr.logical op left right).eval context := by
  by_cases passes : op.Passes context left
  · rw [passes.eval_logical, Outcome.truth_truth]
  · rw [eval_logical_of_not_passes passes, Outcome.truth_truth]

/-- Of the first argument only the truth value counts. -/
theorem truth_foldl_congr {other : Expr}
    (same : Outcome.truth (left.eval context) = Outcome.truth (other.eval context))
    (rest : List Expr) :
    Outcome.truth ((rest.foldl (.logical op) left).eval context) =
      Outcome.truth ((rest.foldl (.logical op) other).eval context) := by
  induction rest generalizing left other with
  | nil => exact same
  | cons arg rest ih =>
      refine ih ?_
      by_cases passes : op.Passes context left
      · have passes' : op.Passes context other := by rwa [passes_iff, ← same, ← passes_iff]
        rw [passes.eval_logical, passes'.eval_logical]
      · have stops : ¬op.Passes context other := by rwa [passes_iff, ← same, ← passes_iff]
        rw [eval_logical_of_not_passes passes, eval_logical_of_not_passes stops, same]

/-- Behind an argument that does not pass nothing matters. -/
theorem truth_foldl_of_not_passes (stops : ¬op.Passes context left) (rest : List Expr) :
    Outcome.truth ((rest.foldl (.logical op) left).eval context) =
      Outcome.truth (left.eval context) := by
  induction rest with
  | nil => rfl
  | cons arg rest ih =>
      rw [List.foldl_cons, ← ih]
      apply truth_foldl_congr
      rw [eval_logical_of_not_passes stops, Outcome.truth_truth]

/-- Arguments that pass can be left out in front of another one. -/
theorem truth_foldl_of_passes {first arg : Expr} {rest before after : List Expr}
    (split : first :: rest = before ++ arg :: after)
    (passes : ∀ earlier ∈ before, op.Passes context earlier) :
    Outcome.truth ((rest.foldl (.logical op) first).eval context) =
      Outcome.truth ((after.foldl (.logical op) arg).eval context) := by
  induction before generalizing first rest with
  | nil =>
      obtain ⟨rfl, rfl⟩ := List.cons.inj split
      rfl
  | cons earlier before ih =>
      rw [List.cons_append] at split
      obtain ⟨rfl, rfl⟩ := List.cons.inj split
      obtain ⟨hFirst, hBefore⟩ := List.forall_mem_cons.mp passes
      obtain ⟨next, others, hNext⟩ : ∃ next others, before ++ arg :: after = next :: others :=
        List.exists_cons_of_ne_nil (by simp)
      rw [← ih hNext.symm hBefore, hNext, List.foldl_cons]
      apply truth_foldl_congr
      rw [hFirst.eval_logical, Outcome.truth_truth]

/-- The truth value of the chain is the value of the call. -/
theorem eval_logicalCall (first : Expr) (rest : List Expr) :
    (Expr.logicalCall op first rest).eval context =
      Outcome.truth ((rest.foldl (.logical op) first).eval context) := by
  cases rest with
  | nil =>
      by_cases passes : op.Passes context first
      · exact (passes.eval_logical _).trans ((op.passes_iff first).mp passes).symm
      · exact eval_logical_of_not_passes passes _
  | cons second rest =>
      obtain hNone | ⟨others, last, hLast⟩ := List.eq_nil_or_concat rest
      · subst hNone
        exact (truth_eval_logical first second).symm
      · subst hLast
        simp only [Expr.logicalCall, List.concat_eq_append, List.foldl_cons, List.foldl_append,
          List.foldl_nil]
        exact (truth_eval_logical _ last).symm

/-- If all arguments pass, the result is the one an operator gives by default. -/
theorem eval_logicalCall_of_passes {first : Expr} {rest : List Expr}
    (passes : ∀ arg ∈ first :: rest, op.Passes context arg) :
    (Expr.logicalCall op first rest).eval context = .ok (.bool op.identity) := by
  obtain ⟨before, last, hLast⟩ : ∃ before last, first :: rest = before ++ [last] :=
    ⟨_, _, (List.dropLast_concat_getLast (List.cons_ne_nil first rest)).symm⟩
  rw [hLast] at passes
  rw [eval_logicalCall, truth_foldl_of_passes hLast fun earlier hMem =>
    passes earlier (List.mem_append_left _ hMem)]
  exact (op.passes_iff last).mp (passes last (by simp))

/-- The first argument that does not pass gives the result. -/
theorem eval_logicalCall_of_not_passes {first arg : Expr} {rest before after : List Expr}
    (split : first :: rest = before ++ arg :: after)
    (passes : ∀ earlier ∈ before, op.Passes context earlier) (stops : ¬op.Passes context arg) :
    (Expr.logicalCall op first rest).eval context = Outcome.truth (arg.eval context) := by
  rw [eval_logicalCall, truth_foldl_of_passes split passes, truth_foldl_of_not_passes stops]

end

/-- Tokens that call an operator are read as its call. -/
theorem CalledIn.ofTokens {op : LogicalOp} {tokens : List Token} {first : Expr} {rest : List Expr}
    (called : op.CalledIn tokens (first :: rest)) {closing : Option Token}
    (ends : ∀ finish ∈ closing, finish.isFinish = true) :
    Expr.ofTokens (tokens ++ closing.toList) = .ok (Expr.logicalCall op first rest) := by
  obtain ⟨inner, hArgs, hKinds⟩ := called
  have hCall := hArgs.logicalCall op
  have hInner : ∀ token ∈ tokens, token.isFinish = false := by
    intro token hMem
    have hKind := List.mem_map_of_mem (f := Token.kind) hMem
    rw [hKinds] at hKind
    have hNot : token.kind ≠ .finish := ne_of_mem_of_not_mem hKind hCall.finish_not_mem
    simp [Token.isFinish, hNot]
  rw [Expr.ofTokens_eq_ok_iff hInner ends, hKinds]
  exact hCall.loosen (Level.rank_le_primary .disjunction)

/-- A call can be written with any arguments. -/
theorem exists_calledIn (op : LogicalOp) (first : Expr) (rest : List Expr) :
    ∃ tokens, op.CalledIn tokens (first :: rest) := by
  obtain ⟨inner, hArgs⟩ := Expr.exists_derivesAll (first :: rest) (List.cons_ne_nil _ _)
  let place (kind : Token.Kind) : Token := ⟨kind, "", 0⟩
  refine ⟨((Infix.logical op).kind :: .leftParen :: (inner ++ [.rightParen])).map place,
    inner, hArgs, ?_⟩
  rw [List.map_map]
  exact List.map_id _

end LogicalOp

/-- A call of a logical operator evaluates its arguments from the left, however many there are. If
all of them pass, the result is true for a conjunction and false for a disjunction. Otherwise the
first one that does not pass gives the result, its error or the opposite truth value, and any other
expressions behind it give the same result. -/
theorem logical_calls_short_circuit (op : LogicalOp) (first : Expr) (rest : List Expr) :
    (∃ tokens, op.CalledIn tokens (first :: rest)) ∧
    ∀ tokens, op.CalledIn tokens (first :: rest) →
      ∀ closing : Option Token, (∀ finish ∈ closing, finish.isFinish = true) →
        ∃ e, Expr.ofTokens (tokens ++ closing.toList) = .ok e ∧ ∀ context,
          ((∀ arg ∈ first :: rest, op.Passes context arg) →
            e.eval context = .ok (.bool op.identity)) ∧
          ∀ before arg after, first :: rest = before ++ arg :: after →
            (∀ earlier ∈ before, op.Passes context earlier) → ¬op.Passes context arg →
            (∀ error, arg.eval context = .error error → e.eval context = .error error) ∧
            (∀ value, arg.eval context = .ok value →
              e.eval context = .ok (.bool !op.identity)) ∧
            ∀ others, ∀ tokens', op.CalledIn tokens' (before ++ arg :: others) →
              ∃ e', Expr.ofTokens (tokens' ++ closing.toList) = .ok e' ∧
                e'.eval context = e.eval context := by
  refine ⟨op.exists_calledIn first rest, fun tokens called closing ends =>
    ⟨_, called.ofTokens ends, fun context => ⟨LogicalOp.eval_logicalCall_of_passes, ?_⟩⟩⟩
  intro before arg after split passes stops
  rw [LogicalOp.eval_logicalCall_of_not_passes split passes stops]
  refine ⟨fun error hError => by rw [hError]; rfl, fun value hValue => ?_, ?_⟩
  · have hTruth : value.isTruthy = !op.identity :=
      Bool.eq_not.mpr fun hTruth => stops ⟨value, hValue, hTruth⟩
    rw [hValue, ← hTruth]
    rfl
  · intro others tokens' called'
    obtain ⟨first', rest', split'⟩ : ∃ first' rest', before ++ arg :: others = first' :: rest' :=
      List.exists_cons_of_ne_nil (by simp)
    rw [split'] at called'
    exact ⟨_, called'.ofTokens ends,
      LogicalOp.eval_logicalCall_of_not_passes split'.symm passes stops⟩

end RowFormula
