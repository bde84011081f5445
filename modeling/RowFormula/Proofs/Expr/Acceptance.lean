import RowFormula.Proofs.Expr.Reading

/-! Token lists that are formulas. The tokens that are read are exactly those that the grammar
derives, so they have one tree, and an end token adds nothing to them. -/
namespace RowFormula

open Token (Kind)
open Phase

/-- The byte after the last token. -/
def Token.stopOf (tokens : List Token) : Nat := (tokens.getLast?.map Token.stop).getD 0

/-- The token at which a list ends: its end token, or one where its last token stops. -/
def Token.finishOf (tokens : List Token) (closing : Option Token) : Token :=
  closing.getD ⟨.finish, "", Token.stopOf tokens⟩

/-- An error moved to another place. -/
def SyntaxError.moveTo (pos : Nat) : SyntaxError → SyntaxError
  | unexpectedCharacter c _ => unexpectedCharacter c pos
  | unterminatedReference _ => unterminatedReference pos
  | empty => empty
  | unexpectedToken text _ => unexpectedToken text pos
  | unexpectedEnd _ => unexpectedEnd pos
  | expected bracket found _ => expected bracket found pos
  | trailing text _ => trailing text pos

/-- Two answers to a list that ends at one of two places: they are equal, or one error that is
noticed at the end. -/
def SameButEnd (pos stop : Nat) (answer other : Except SyntaxError Expr) : Prop :=
  answer = other ∨ ∃ error, error.pos = stop ∧ other = .error error ∧
    answer = .error (error.moveTo pos)

theorem SyntaxError.moveTo_pos (error : SyntaxError) : error.moveTo error.pos = error := by
  cases error <;> rfl

/-- Answers that differ in the place of the end alone are equal when the places are. -/
theorem SameButEnd.eq {pos : Nat} {answer other : Except SyntaxError Expr}
    (h : SameButEnd pos pos answer other) : answer = other := by
  rcases h with hSame | ⟨error, hPos, hOther, hAnswer⟩
  · exact hSame
  · rw [hAnswer, hOther, ← hPos, error.moveTo_pos]

/-- Without tokens before the end there is no formula. -/
theorem Expr.ofTokens_ending {closing : Option Token}
    (ends : ∀ finish ∈ closing, finish.isFinish = true) :
    Expr.ofTokens closing.toList = .error .empty := by
  cases closing with
  | none => rfl
  | some finish => simp [Expr.ofTokens, ends finish rfl]

section Acceptance

variable {tokens : List Token} {closing : Option Token}
  (inner : ∀ token ∈ tokens, token.isFinish = false)
  (ends : ∀ finish ∈ closing, finish.isFinish = true)

include inner ends

/-- Reading a list is a run over the tokens before its end. -/
theorem Expr.ofTokens_eq (hTokens : tokens ≠ []) :
    Expr.ofTokens (tokens ++ closing.toList) =
      ((operand []).readAll tokens).bind (result (Token.finishOf tokens closing)) := by
  have hRun := run_eq (Token.stopOf (tokens ++ closing.toList)) (.operand []) closing inner ends
  have hFinish : closing.getD ⟨.finish, "", Token.stopOf (tokens ++ closing.toList)⟩ =
      Token.finishOf tokens closing := by
    cases closing with
    | none => simp [Token.finishOf]
    | some finish => rfl
  rw [hFinish] at hRun
  rw [← hRun]
  cases tokens with
  | nil => exact absurd rfl hTokens
  | cons first rest => simp [Expr.ofTokens, Token.stopOf, inner first List.mem_cons_self]

/-- The tokens that are read are those that the grammar derives. -/
theorem Expr.ofTokens_eq_ok_iff (e : Expr) :
    Expr.ofTokens (tokens ++ closing.toList) = .ok e ↔
      Derives .disjunction (tokens.map Token.kind) e := by
  by_cases hTokens : tokens = []
  · subst hTokens
    rw [List.nil_append, Expr.ofTokens_ending ends]
    constructor
    · intro hOk
      cases hOk
    · intro h
      -- Nothing is read, but an operand has been read in the end.
      obtain ⟨phase, hRead, _, _, hSettled, _⟩ := h.reads [] (Or.inr trivial) rfl
      cases hRead
      cases hSettled
  · rw [Expr.ofTokens_eq inner ends hTokens]
    constructor
    · intro hOk
      cases hRead : (operand []).readAll tokens with
      | error _ =>
          rw [hRead] at hOk
          cases hOk
      | ok phase =>
          rw [hRead] at hOk
          have hAfter := (After.operand .bottom).readAll hRead
          exact hAfter.result hOk
    · intro h
      obtain ⟨phase, hRead, hEnds⟩ := h.reads [] (Or.inr trivial) rfl
      rw [hRead]
      exact result_of_ends hEnds _

end Acceptance

section End

variable {finish other : Token} (hFinish : finish.isFinish = true) (hOther : other.isFinish = true)

include hFinish hOther

theorem Phase.missing_moveTo (bracket : Bracket) :
    missing bracket finish = (missing bracket other).moveTo finish.pos := by
  simp only [missing, Token.display, if_pos hFinish, if_pos hOther, SyntaxError.moveTo]

/-- Where the end is decides nothing but the place of an error at it. -/
theorem Phase.close_congr (e : Expr) (stack : List Frame) :
    SameButEnd finish.pos other.pos (close finish e stack) (close other e stack) := by
  unfold close
  split
  · exact Or.inl rfl
  · exact Or.inr ⟨_, rfl, rfl, congrArg Except.error (missing_moveTo hFinish hOther .closing)⟩

/-- Of the end a phase tells nothing but its place. -/
theorem Phase.result_congr (phase : Phase) :
    SameButEnd finish.pos other.pos (phase.result finish) (phase.result other) := by
  cases phase with
  | operand _ => exact Or.inr ⟨_, rfl, rfl, rfl⟩
  | bareWord _ _ => exact close_congr hFinish hOther _ _
  | functionName _ _ =>
      exact Or.inr ⟨_, rfl, rfl, congrArg Except.error (missing_moveTo hFinish hOther .opening)⟩
  | logicalWord _ _ _ _ => exact Or.inl rfl
  | operator e stack => exact close_congr hFinish hOther e stack

end End

/-- An end token changes nothing but the place of an error that is noticed at the end. -/
theorem Expr.ofTokens_append_finish {tokens : List Token}
    (inner : ∀ token ∈ tokens, token.isFinish = false) {finish : Token}
    (hFinish : finish.isFinish = true) :
    SameButEnd finish.pos (Token.stopOf tokens) (Expr.ofTokens (tokens ++ [finish]))
      (Expr.ofTokens tokens) := by
  have ends : ∀ token ∈ some finish, token.isFinish = true := by simpa using hFinish
  have noEnd : ∀ token ∈ (none : Option Token), token.isFinish = true := by simp
  by_cases hTokens : tokens = []
  · subst hTokens
    exact Or.inl ((Expr.ofTokens_ending ends).trans (Expr.ofTokens_ending noEnd).symm)
  · have hWith := Expr.ofTokens_eq inner ends hTokens
    have hWithout := Expr.ofTokens_eq inner noEnd hTokens
    simp only [Option.toList_some, Option.toList_none, List.append_nil] at hWith hWithout
    rw [hWith, hWithout]
    cases (operand []).readAll tokens with
    | error _ => exact Or.inl rfl
    | ok phase => exact result_congr hFinish rfl phase

/-- Reading accepts exactly the token lists that the grammar derives, each with its one tree, and
rejects all others. An end token is not needed: it only gives the place of an error that is
noticed at the end. -/
theorem tokens_read_as_derived {tokens : List Token}
    (inner : ∀ token ∈ tokens, token.isFinish = false) :
    (∀ closing : Option Token, (∀ finish ∈ closing, finish.isFinish = true) → ∀ e,
      Expr.ofTokens (tokens ++ closing.toList) = .ok e ↔
        Derives .disjunction (tokens.map Token.kind) e) ∧
    (∀ e e', Derives .disjunction (tokens.map Token.kind) e →
      Derives .disjunction (tokens.map Token.kind) e' → e = e') ∧
    ((¬∃ e, Derives .disjunction (tokens.map Token.kind) e) →
      ∀ closing : Option Token, (∀ finish ∈ closing, finish.isFinish = true) →
        ∃ error, Expr.ofTokens (tokens ++ closing.toList) = .error error) ∧
    ∀ finish : Token, finish.isFinish = true →
      SameButEnd finish.pos (Token.stopOf tokens) (Expr.ofTokens (tokens ++ [finish]))
        (Expr.ofTokens tokens) ∧
      (finish.pos = Token.stopOf tokens →
        Expr.ofTokens (tokens ++ [finish]) = Expr.ofTokens tokens) := by
  refine ⟨fun closing ends e => Expr.ofTokens_eq_ok_iff inner ends e, ?unique, ?rejected, ?ending⟩
  case unique =>
    intro e e' h h'
    have noEnd : ∀ finish ∈ (none : Option Token), finish.isFinish = true := by simp
    have hFirst := (Expr.ofTokens_eq_ok_iff inner noEnd e).mpr h
    have hSecond := (Expr.ofTokens_eq_ok_iff inner noEnd e').mpr h'
    exact Except.ok.inj (hFirst.symm.trans hSecond)
  case rejected =>
    intro hNone closing ends
    cases hAnswer : Expr.ofTokens (tokens ++ closing.toList) with
    | error error => exact ⟨error, rfl⟩
    | ok e => exact absurd ⟨e, (Expr.ofTokens_eq_ok_iff inner ends e).mp hAnswer⟩ hNone
  case ending =>
    intro finish hFinish
    have hEnding := Expr.ofTokens_append_finish inner hFinish
    refine ⟨hEnding, fun hPos => ?_⟩
    rw [hPos] at hEnding
    exact hEnding.eq

/-- A prefix operator, two infix ones of which the tighter comes first, and a call of a logical
operator with one argument, directly after the same kind of word between two operands. -/
theorem tokens_read_as_derived_mixed :
    let tokens : List Token :=
      [⟨.operator (.arithmetic .subtract), "-", 0⟩, ⟨.field "a" false, "a", 1⟩,
       ⟨.operator (.arithmetic .multiply), "*", 3⟩, ⟨.field "b" false, "b", 5⟩,
       ⟨.logical .or, "OR", 7⟩, ⟨.logical .or, "OR", 10⟩, ⟨.leftParen, "(", 12⟩,
       ⟨.field "c" true, "\x7bc\x7d", 13⟩, ⟨.rightParen, ")", 16⟩]
    let e : Expr := .logical .or
      (.binary (.arithmetic .multiply) (.unary .negate (.field "a")) (.field "b"))
      (.logical .or (.field "c") (.bool false))
    (∀ token ∈ tokens, token.isFinish = false) ∧
      Derives .disjunction (tokens.map Token.kind) e ∧
      ∀ e', Derives .disjunction (tokens.map Token.kind) e' → e = e' := by
  intro tokens e
  have inner : ∀ token ∈ tokens, token.isFinish = false := by
    simp [tokens, Token.isFinish]
  obtain ⟨hAccepted, hUnique, _⟩ := tokens_read_as_derived inner
  have hDerived := (hAccepted none (by simp) e).mp rfl
  exact ⟨inner, hDerived, fun e' h => hUnique e e' hDerived h⟩

end RowFormula
