import RowFormula.Proofs.Expr.Acceptance

/-! The places of tokens. They decide nothing but the places of errors: a run over tokens whose
places are forgotten goes through the same phases, and so do runs over tokens that differ in
nothing else. -/
namespace RowFormula

/-- An answer with the place of its error forgotten. -/
def SyntaxError.forgetPlace {α : Type} (answer : Except SyntaxError α) : Except SyntaxError α :=
  answer.mapError (moveTo 0)

theorem SyntaxError.moveTo_moveTo (error : SyntaxError) (pos pos' : Nat) :
    (error.moveTo pos).moveTo pos' = error.moveTo pos' := by
  cases error <;> rfl

/-- Answers that agree up to places are the same, or one error at two places. -/
theorem SyntaxError.answers_of_forgetPlace {α : Type} {answer other : Except SyntaxError α}
    (h : forgetPlace answer = forgetPlace other) :
    (∀ a, answer = .ok a → other = .ok a) ∧
      ∀ error, answer = .error error → ∃ pos, other = .error (error.moveTo pos) := by
  cases answer with
  | ok a =>
      cases other with
      | ok a' =>
          cases h
          exact ⟨fun _ hOk => hOk, fun _ hError => (nomatch hError)⟩
      | error e' => cases h
  | error e =>
      cases other with
      | ok a' => cases h
      | error e' =>
          refine ⟨fun _ hOk => (nomatch hOk), fun error hError => ⟨e'.pos, ?_⟩⟩
          cases hError
          have hSame : e.moveTo 0 = e'.moveTo 0 := Except.error.inj h
          rw [← e.moveTo_moveTo 0, hSame, e'.moveTo_moveTo, e'.moveTo_pos]

/-- A token with its place forgotten. -/
def Token.unplaced (token : Token) : Token := { token with pos := 0 }

theorem Token.isFinish_of_unplaced {token other : Token} (h : token.unplaced = other.unplaced) :
    token.isFinish = other.isFinish := by
  have hUnplaced : token.unplaced.isFinish = other.unplaced.isFinish := congrArg Token.isFinish h
  exact hUnplaced

def Frame.unplaced : Frame → Frame
  | .logicalCall op _ args => .logicalCall op 0 args
  | frame => frame

@[simp] theorem Frame.unplaced_unplaced (frame : Frame) :
    frame.unplaced.unplaced = frame.unplaced := by
  cases frame <;> rfl

@[simp] theorem Frame.map_unplaced_unplaced (stack : List Frame) :
    (stack.map unplaced).map unplaced = stack.map unplaced := by
  simp

namespace Phase

def unplaced : Phase → Phase
  | operand stack => operand (stack.map Frame.unplaced)
  | bareWord name stack => bareWord name (stack.map Frame.unplaced)
  | functionName name stack => functionName name (stack.map Frame.unplaced)
  | logicalWord op text _ stack => logicalWord op text 0 (stack.map Frame.unplaced)
  | operator left stack => operator left (stack.map Frame.unplaced)

/-- The outcome of a step with all places forgotten. -/
def outcome (next : Except SyntaxError Phase) : Except SyntaxError Phase :=
  SyntaxError.forgetPlace (next.map unplaced)

theorem outcome_unplaced (phase : Phase) : outcome (.ok phase.unplaced) = outcome (.ok phase) := by
  cases phase <;> simp only [outcome, Except.map, unplaced, Frame.map_unplaced_unplaced]

/-- Operators in front are applied without regard to places. -/
theorem applyUnary_unplaced (e : Expr) (stack : List Frame) :
    applyUnary e (stack.map Frame.unplaced) =
      ((applyUnary e stack).1, (applyUnary e stack).2.map Frame.unplaced) := by
  induction stack generalizing e with
  | nil => rfl
  | cons frame rest ih =>
      cases frame with
      | unary op => exact ih (.unary op e)
      | _ => rfl

/-- Infix operators are applied without regard to places. -/
theorem reduce_unplaced (strength : Nat) (e : Expr) (stack : List Frame) :
    reduce strength e (stack.map Frame.unplaced) =
      ((reduce strength e stack).1, (reduce strength e stack).2.map Frame.unplaced) := by
  induction stack generalizing e with
  | nil => rfl
  | cons frame rest ih =>
      cases frame with
      | infixOp op left =>
          simp only [List.map_cons, Frame.unplaced, reduce]
          split
          · exact ih (Expr.join op left e)
          · rfl
      | _ => rfl

theorem complete_unplaced (e : Expr) (stack : List Frame) :
    outcome (.ok (complete e (stack.map Frame.unplaced))) = outcome (.ok (complete e stack)) := by
  simp only [complete, applyUnary_unplaced]
  exact outcome_unplaced (.operator _ _)

/-- Behind an operand the places of tokens decide nothing but places of errors. -/
theorem afterOperand_unplaced (token : Token) (left : Expr) (stack : List Frame) :
    outcome (afterOperand token.unplaced left (stack.map Frame.unplaced)) =
      outcome (afterOperand token left stack) := by
  obtain ⟨kind, text, pos⟩ := token
  simp only [afterOperand, Token.unplaced, reduce_unplaced]
  split
  · exact outcome_unplaced (.operand (.infixOp _ _ :: _))
  · generalize reduce 0 left stack = reduced
    obtain ⟨e, stack⟩ := reduced
    cases stack with
    | nil => rfl
    | cons frame rest =>
        cases kind with
        | rightParen =>
            cases frame with
            | group => exact complete_unplaced e rest
            | call name args => exact complete_unplaced _ rest
            | logicalCall op opening args =>
                simp only [List.map_cons, Frame.unplaced]
                split <;> exact complete_unplaced _ rest
            | unary op => rfl
            | infixOp op left => rfl
        | comma =>
            cases frame with
            | call name args => exact outcome_unplaced (.operand (.call name (e :: args) :: rest))
            | logicalCall op opening args =>
                exact outcome_unplaced (.operand (.logicalCall op opening (e :: args) :: rest))
            | _ => rfl
        | _ => cases frame <;> rfl

/-- Where an operand is due the places of tokens decide nothing but places of errors. -/
theorem atOperand_unplaced (token : Token) (stack : List Frame) :
    outcome (atOperand token.unplaced (stack.map Frame.unplaced)) =
      outcome (atOperand token stack) := by
  obtain ⟨kind, text, pos⟩ := token
  cases kind with
  | number x => exact complete_unplaced _ stack
  | string content => exact complete_unplaced _ stack
  | bool b => exact complete_unplaced _ stack
  | field name braced =>
      cases braced with
      | true => exact complete_unplaced _ stack
      | false => exact outcome_unplaced (.bareWord name stack)
  | function name => exact outcome_unplaced (.functionName name stack)
  | leftParen => exact outcome_unplaced (.operand (.group :: stack))
  | operator op =>
      rcases op with (_ | _ | _ | _) | _
      case arithmetic.subtract => exact outcome_unplaced (.operand (.unary .negate :: stack))
      all_goals rfl
  | logical word =>
      cases word with
      | not => exact outcome_unplaced (.operand (.unary .not :: stack))
      | and => exact outcome_unplaced (.logicalWord .and text 0 stack)
      | or => exact outcome_unplaced (.logicalWord .or text 0 stack)
  | rightParen =>
      cases stack with
      | nil => rfl
      | cons frame rest =>
          rcases frame with _ | _ | _ | ⟨name, _ | _⟩ | ⟨op, opening, _ | _⟩
          case call.nil => exact complete_unplaced _ rest
          all_goals rfl
  | comma => rfl
  | finish => rfl

/-- A step without places gives the same, places left aside. -/
theorem step_unplaced (token : Token) (phase : Phase) :
    outcome (step token.unplaced phase.unplaced) = outcome (step token phase) := by
  have hKind : token.unplaced.kind = token.kind := rfl
  cases phase with
  | operand stack => exact atOperand_unplaced token stack
  | operator left stack => exact afterOperand_unplaced token left stack
  | bareWord name stack =>
      simp only [unplaced, step, hKind]
      split
      · exact outcome_unplaced (.operand (.call (Text.upper name) [] :: stack))
      · rw [applyUnary_unplaced]
        exact afterOperand_unplaced token _ _
  | functionName name stack =>
      simp only [unplaced, step, hKind]
      split
      · exact outcome_unplaced (.operand (.call name [] :: stack))
      · rfl
  | logicalWord op text pos stack =>
      simp only [unplaced, step, hKind]
      split
      · exact outcome_unplaced (.operand (.logicalCall op token.pos [] :: stack))
      · rfl

theorem close_unplaced (finish : Token) (e : Expr) (stack : List Frame) :
    SyntaxError.forgetPlace (close finish.unplaced e (stack.map Frame.unplaced)) =
      SyntaxError.forgetPlace (close finish e stack) := by
  simp only [close, reduce_unplaced]
  generalize reduce 0 e stack = reduced
  obtain ⟨e, _ | ⟨frame, rest⟩⟩ := reduced <;> rfl

theorem result_unplaced (finish : Token) (phase : Phase) :
    SyntaxError.forgetPlace (phase.unplaced.result finish.unplaced) =
      SyntaxError.forgetPlace (phase.result finish) := by
  cases phase with
  | operator e stack => exact close_unplaced finish e stack
  | bareWord name stack =>
      simp only [unplaced, result, applyUnary_unplaced]
      exact close_unplaced finish _ _
  | _ => rfl

/-- Runs over the same tokens at other places end alike. -/
theorem run_unplaced {tokens others : List Token}
    (hTokens : tokens.map Token.unplaced = others.map Token.unplaced) {phase other : Phase}
    (hPhase : phase.unplaced = other.unplaced) (stop stop' : Nat) :
    SyntaxError.forgetPlace (run stop phase tokens) =
      SyntaxError.forgetPlace (run stop' other others) := by
  induction tokens generalizing others phase other with
  | nil =>
      cases List.map_eq_nil_iff.mp hTokens.symm
      rw [run, run, ← result_unplaced, ← result_unplaced ⟨.finish, "", stop'⟩, hPhase]
      rfl
  | cons token rest ih =>
      obtain ⟨token', rest', rfl, hToken, hRest⟩ := List.map_eq_cons_iff.mp hTokens.symm
      have hFinish := Token.isFinish_of_unplaced hToken.symm
      rw [run, run, hFinish]
      split
      · rw [← result_unplaced, ← result_unplaced token', hPhase, hToken]
      · have hStep : outcome (step token phase) = outcome (step token' other) := by
          rw [← step_unplaced, ← step_unplaced token', hPhase, hToken]
        cases hNext : step token phase <;> cases hNext' : step token' other <;>
          rw [hNext, hNext'] at hStep
        case ok.ok next next' => exact ih hRest.symm (Except.ok.inj hStep)
        case error.error error error' => exact congrArg Except.error (Except.error.inj hStep)
        all_goals cases hStep

end Phase

/-- Tokens that differ in their places alone have the same answer, but for the place of an error. -/
theorem Expr.ofTokens_unplaced {tokens others : List Token}
    (h : tokens.map Token.unplaced = others.map Token.unplaced) :
    SyntaxError.forgetPlace (ofTokens tokens) = SyntaxError.forgetPlace (ofTokens others) := by
  cases tokens with
  | nil => rw [List.map_eq_nil_iff.mp h.symm]
  | cons token rest =>
      obtain ⟨token', rest', rfl, hToken, hRest⟩ := List.map_eq_cons_iff.mp h.symm
      have hFinish := Token.isFinish_of_unplaced hToken.symm
      simp only [ofTokens, hFinish]
      split
      · rfl
      · exact Phase.run_unplaced h rfl _ _

end RowFormula
