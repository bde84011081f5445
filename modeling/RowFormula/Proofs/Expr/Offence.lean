import RowFormula.Proofs.Expr.Acceptance

/-! Where reading fails. As long as no token is refused, what has been read can go on to a formula:
an operand may come, and then the closing brackets. A token that is refused is refused whatever
comes after it. The error is reported at that token, at the one before it, or right behind that
one where it is an opening bracket. -/
namespace RowFormula

open Token (Kind)

/-- With an operand above it a stack can go on to a formula: what is missing is closing brackets. -/
theorem Stacked.exists_more {stack : List Frame} {before tokens : List Kind} {level : Level}
    {e : Expr} (h : Stacked stack before) (hDerives : Derives level tokens e)
    (hFits : level = .primary ∨ level.OpenOn stack) :
    ∃ more e', Derives .disjunction (before ++ tokens ++ more) e' ∧ Kind.finish ∉ more := by
  induction h generalizing level tokens e with
  | bottom => exact ⟨[], e, by simpa using hDerives.loosen level.disjunction_rank_le, by simp⟩
  | unary _ ih =>
      obtain rfl := hFits.resolve_right id
      simpa using ih (.unary hDerives) (Or.inl rfl)
  | @infixOp level' op left l stack before hStack hOpen hOp hl ih =>
      have hTighter : level'.operand.rank ≤ level.rank := by
        rw [Level.rank_operand (Level.ne_primary_of_mem hOp),
          ← (level'.mem_operators_iff op).mp hOp]
        rcases hFits with rfl | hOpen'
        · exact op.strength_bounds.2
        · exact hOpen'
      simpa using ih (.infixOp hl hOp (hDerives.loosen hTighter)) (Or.inr hOpen)
  | group _ ih =>
      obtain ⟨more, e', hAll, hMore⟩ :=
        ih (hDerives.loosen level.disjunction_rank_le).group (Or.inl rfl)
      exact ⟨.rightParen :: more, e', by simpa using hAll, by simp [hMore]⟩
  | call _ hHead hs ih =>
      have hArgs := hs.derivesAll (.one (hDerives.loosen level.disjunction_rank_le))
      obtain ⟨more, e', hAll, hMore⟩ := ih (.call hHead hArgs) (Or.inl rfl)
      exact ⟨.rightParen :: more, e', by simpa using hAll, by simp [hMore]⟩
  | @logicalCall op opening args inner stack before hStack hs ih =>
      have hArgs := hs.derivesAll (.one (hDerives.loosen level.disjunction_rank_le))
      obtain ⟨first, others, hList⟩ : ∃ first others, args.reverse ++ [e] = first :: others :=
        List.exists_cons_of_ne_nil (by simp)
      rw [hList] at hArgs
      obtain ⟨more, e', hAll, hMore⟩ := ih (hArgs.logicalCall op) (Or.inl rfl)
      exact ⟨.rightParen :: more, e', by simpa using hAll, by simp [hMore]⟩

/-- An operand of which some tokens have been read can be completed. -/
theorem Stacked.exists_more_operand {stack : List Frame} {before : List Kind}
    (h : Stacked stack before) (begun : List Kind) {missing : List Kind} {e : Expr}
    (hDerives : Derives .primary (begun ++ missing) e) (hMissing : Kind.finish ∉ missing) :
    ∃ more e', Derives .disjunction (before ++ begun ++ more) e' ∧ Kind.finish ∉ more := by
  obtain ⟨more, e', hAll, hMore⟩ := h.exists_more hDerives (Or.inl rfl)
  exact ⟨missing ++ more, e', by simpa using hAll, by simp [hMissing, hMore]⟩

namespace SyntaxError

/-- An error names a token, or the end of the formula, at the place of the token. -/
def Names (token : Token) : SyntaxError → Prop
  | unexpectedToken text pos => text = token.text ∧ pos = token.pos
  | unexpectedEnd pos => token.isFinish = true ∧ pos = token.pos
  | expected _ found pos => found = token.display ∧ pos = token.pos
  | trailing text pos => text = token.text ∧ pos = token.pos
  | _ => False

theorem Names.pos_eq {token : Token} {error : SyntaxError} (h : error.Names token) :
    error.pos = token.pos := by
  cases error with
  | unexpectedCharacter | unterminatedReference | empty => exact h.elim
  | unexpectedToken | unexpectedEnd | expected | trailing => exact h.2

end SyntaxError

namespace Phase

/-- What has been read can go on to an expression. -/
theorem After.exists_more {phase : Phase} {tokens : List Kind} (h : phase.After tokens) :
    ∃ more e, Derives .disjunction (tokens ++ more) e ∧ Kind.finish ∉ more := by
  cases h with
  | operand hStack =>
      simpa using hStack.exists_more_operand [] (.bool true) (by simp)
  | bareWord hStack => exact hStack.exists_more (.field _ false) (Or.inl rfl)
  | functionName hStack => exact hStack.exists_more_operand [_] (.emptyCall rfl) (by simp)
  | logicalWord hStack =>
      have hLone := Derives.bool true
      exact hStack.exists_more_operand [_]
        (.loneCall (.one (hLone.loosen (Level.disjunction_rank_le _)))) (by simp)
  | operator hHolds =>
      obtain ⟨hStack, hDerives, hOpen⟩ := hHolds
      exact hStack.exists_more hDerives (Or.inr hOpen)

/-- What a phase knows of the text and the places of the tokens before it is that of the last
one. -/
def Recalls (before : List Token) : Phase → Prop
  | logicalWord _ text pos _ => ∃ last ∈ before.getLast?, text = last.text ∧ pos = last.pos
  | operand (.logicalCall _ opening [] :: _) =>
    ∃ last ∈ before.getLast?, last.kind = .leftParen ∧ opening = last.pos
  | _ => True

theorem afterOperand_recalls {token : Token} {e : Expr} {stack : List Frame} {next : Phase}
    (h : afterOperand token e stack = .ok next) (before : List Token) : next.Recalls before := by
  unfold afterOperand at h
  split at h
  · cases h
    trivial
  · dsimp only at h
    split at h
    case h_1 => cases h
    case h_4 => split at h <;> cases h <;> trivial
    case h_7 => cases h
    all_goals
      cases h
      trivial

/-- Where an operand is due, the token that is taken becomes one that the phase recalls. -/
theorem atOperand_recalls {token : Token} {stack : List Frame} {next : Phase}
    (h : atOperand token stack = .ok next) (before : List Token) :
    next.Recalls (before ++ [token]) := by
  unfold atOperand at h
  split at h
  -- A logical word waits for its opening bracket with its own place.
  case h_10 =>
    cases h
    exact ⟨token, by simp, rfl, rfl⟩
  case h_11 =>
    cases h
    exact ⟨token, by simp, rfl, rfl⟩
  case h_12 =>
    split at h
    case h_1 =>
      cases h
      trivial
    all_goals cases h
  case h_13 => cases h
  all_goals
    cases h
    trivial

/-- A step adds its token to those that the phase recalls. -/
theorem step_recalls {token : Token} {phase next : Phase} (h : step token phase = .ok next)
    (before : List Token) : next.Recalls (before ++ [token]) := by
  cases phase with
  | operand stack => exact atOperand_recalls h before
  | operator left stack => exact afterOperand_recalls h _
  | bareWord name stack =>
      simp only [step] at h
      split at h
      · cases h
        trivial
      · exact afterOperand_recalls h _
  | functionName name stack =>
      simp only [step] at h
      split at h <;> cases h
      trivial
  | logicalWord op text pos stack =>
      simp only [step] at h
      split at h <;> cases h
      rename_i hKind
      exact ⟨token, by simp, hKind, rfl⟩

/-- A run recalls all tokens that it has read. -/
theorem readAll_recalls {phase next : Phase} {before tokens : List Token}
    (h : phase.Recalls before) (hRead : phase.readAll tokens = .ok next) :
    next.Recalls (before ++ tokens) := by
  induction tokens generalizing phase before with
  | nil =>
      cases hRead
      simpa using h
  | cons token rest ih =>
      cases hStep : step token phase with
      | error _ =>
          rw [readAll, List.foldlM_cons, hStep] at hRead
          cases hRead
      | ok middle =>
          rw [readAll_cons hStep] at hRead
          simpa using ih (step_recalls hStep before) hRead

/-- A phase refuses a token, or the end of the formula, with an error. -/
def Refuses (phase : Phase) (token : Token) (error : SyntaxError) : Prop :=
  token.isFinish = true ∧ phase.result token = .error error ∨
    token.isFinish = false ∧ step token phase = .error error

/-- A token that is refused ends the run, whatever comes behind it. -/
theorem Refuses.run {phase : Phase} {token : Token} {error : SyntaxError}
    (h : phase.Refuses token error) (stop : Nat) (more : List Token) :
    run stop phase (token :: more) = .error error := by
  rcases h with ⟨hFinish, hResult⟩ | ⟨hFinish, hStep⟩
  · rw [Phase.run, if_pos hFinish, hResult]
  · simp [Phase.run, hFinish, hStep]

/-- How a refused token may be reported: as the error of the token itself, as that of the token
before it, or as missing right behind an opening bracket. -/
def Blames (before : List Token) (token : Token) (error : SyntaxError) : Prop :=
  error.Names token ∨ ∃ last ∈ before.getLast?, error.Names last ∨
    last.kind = .leftParen ∧ token.kind = .rightParen ∧ error = .unexpectedToken ")" (last.pos + 1)

theorem unexpected_names (token : Token) : (unexpected token).Names token := by
  unfold unexpected
  split
  · rename_i hFinish
    exact ⟨hFinish, rfl⟩
  · exact ⟨rfl, rfl⟩

theorem afterOperand_names {token : Token} {e : Expr} {stack : List Frame} {error : SyntaxError}
    (h : afterOperand token e stack = .error error) : error.Names token := by
  unfold afterOperand at h
  split at h
  · cases h
  · dsimp only at h
    split at h
    case h_1 =>
      cases h
      exact ⟨rfl, rfl⟩
    case h_4 => split at h <;> cases h
    case h_7 =>
      cases h
      exact ⟨rfl, rfl⟩
    all_goals cases h

theorem close_names {finish : Token} {e : Expr} {stack : List Frame} {error : SyntaxError}
    (h : close finish e stack = .error error) : error.Names finish := by
  unfold close at h
  split at h <;> cases h
  exact ⟨rfl, rfl⟩

theorem atOperand_blames {before : List Token} {token : Token} {stack : List Frame}
    {error : SyntaxError} (hRecalls : (operand stack).Recalls before)
    (h : atOperand token stack = .error error) : Blames before token error := by
  unfold atOperand at h
  split at h
  case h_12 =>
    rename_i hKind
    split at h
    · cases h
    · -- A call of a logical operator without arguments is reported right behind its bracket.
      cases h
      obtain ⟨last, hLast, hOpening, rfl⟩ := hRecalls
      exact Or.inr ⟨last, hLast, Or.inr ⟨hOpening, hKind, rfl⟩⟩
    · cases h
      exact Or.inl (unexpected_names token)
  case h_13 =>
    cases h
    exact Or.inl (unexpected_names token)
  all_goals cases h

/-- The error of a refused token blames this token or the one before it. -/
theorem Refuses.blames {phase : Phase} {before : List Token} {token : Token} {error : SyntaxError}
    (h : phase.Refuses token error) (hRecalls : phase.Recalls before) :
    Blames before token error := by
  rcases h with ⟨hFinish, hResult⟩ | ⟨-, hStep⟩
  · cases phase with
    | operand _ =>
        cases hResult
        exact Or.inl ⟨hFinish, rfl⟩
    | operator _ _ => exact Or.inl (close_names hResult)
    | bareWord _ _ => exact Or.inl (close_names hResult)
    | functionName _ _ =>
        cases hResult
        exact Or.inl ⟨rfl, rfl⟩
    | logicalWord _ _ _ _ =>
        cases hResult
        obtain ⟨last, hLast, hText, hPos⟩ := hRecalls
        exact Or.inr ⟨last, hLast, Or.inl ⟨hText, hPos⟩⟩
  · cases phase with
    | operand _ => exact atOperand_blames hRecalls hStep
    | operator _ _ => exact Or.inl (afterOperand_names hStep)
    | bareWord _ _ =>
        simp only [step] at hStep
        split at hStep
        · cases hStep
        · exact Or.inl (afterOperand_names hStep)
    | functionName _ _ =>
        simp only [step] at hStep
        split at hStep <;> cases hStep
        exact Or.inl ⟨rfl, rfl⟩
    | logicalWord _ _ _ _ =>
        simp only [step] at hStep
        split at hStep <;> cases hStep
        obtain ⟨last, hLast, hText, hPos⟩ := hRecalls
        exact Or.inr ⟨last, hLast, Or.inl ⟨hText, hPos⟩⟩

/-- The places at which a refused token may be reported. -/
def Places (before : List Token) (token : Token) (pos : Nat) : Prop :=
  pos = token.pos ∨ ∃ last ∈ before.getLast?,
    pos = last.pos ∨ last.kind = .leftParen ∧ pos = last.pos + 1

/-- A refused token is reported at its own place, at that of the token before it or behind an
opening bracket there. -/
theorem Blames.places {before : List Token} {token : Token} {error : SyntaxError}
    (h : Blames before token error) : Places before token error.pos := by
  rcases h with hToken | ⟨last, hLast, hNames | ⟨hOpening, -, rfl⟩⟩
  · exact Or.inl hToken.pos_eq
  · exact Or.inr ⟨last, hLast, Or.inl hNames.pos_eq⟩
  · exact Or.inr ⟨last, hLast, Or.inr ⟨hOpening, rfl⟩⟩

/-- A run that fails comes to a token that is refused. -/
theorem exists_refused {stop : Nat} {phase : Phase} {tokens : List Token} {error : SyntaxError}
    (h : run stop phase tokens = .error error)
    (hEnd : ∃ token ∈ tokens, token.isFinish = true) :
    ∃ before token after next, tokens = before ++ token :: after ∧
      (∀ other ∈ before, other.isFinish = false) ∧ phase.readAll before = .ok next ∧
      next.Refuses token error := by
  induction tokens generalizing phase with
  | nil => simp at hEnd
  | cons token rest ih =>
      rw [run] at h
      split at h
      · rename_i hFinish
        exact ⟨[], token, rest, phase, rfl, by simp, rfl, Or.inl ⟨hFinish, h⟩⟩
      · rename_i hFinish
        have hFinish : token.isFinish = false := by simpa using hFinish
        split at h
        · rename_i next hStep
          obtain ⟨other, hMem, hOther⟩ := hEnd
          have hRest : ∃ token ∈ rest, token.isFinish = true := by
            refine ⟨other, (List.mem_cons.mp hMem).resolve_left ?_, hOther⟩
            rintro rfl
            exact Bool.false_ne_true (hFinish.symm.trans hOther)
          obtain ⟨before, refused, after, last, rfl, hInner, hRead, hRefuses⟩ := ih h hRest
          refine ⟨token :: before, refused, after, last, rfl, ?_, ?_, hRefuses⟩
          · simpa [hFinish] using hInner
          · rw [readAll_cons hStep, hRead]
        · rename_i hStep
          cases h
          exact ⟨[], token, rest, phase, rfl, by simp, rfl, Or.inr ⟨hFinish, hStep⟩⟩

end Phase

open Phase

/-- The token at which a list is first seen not to be a formula. -/
structure Offence (before : List Token) (token : Token) : Prop where
  exists_more : ∃ more e, Expr.ofTokens (before ++ more) = .ok e
  refused : ∀ more e, Expr.ofTokens (before ++ token :: more) ≠ .ok e

/-- The tokens before the offence can go on, and no formula begins with them and the offence. -/
theorem Offence.take {before after : List Token} {token : Token} (h : Offence before token)
    {count : Nat} (hLeast : count ≤ before.length) (hMost : before.length ≤ count + 1) :
    (∃ more e, Expr.ofTokens ((before ++ token :: after).take count ++ more) = .ok e) ∧
      ∀ more e, Expr.ofTokens ((before ++ token :: after).take (count + 2) ++ more) ≠ .ok e := by
  constructor
  · obtain ⟨more, e, hMore⟩ := h.exists_more
    refine ⟨before.drop count ++ more, e, ?_⟩
    rwa [List.take_append_of_le_length hLeast, ← List.append_assoc, List.take_append_drop]
  · intro more e
    have hNext : count + 2 - before.length = count + 1 - before.length + 1 := by omega
    rw [List.take_append, List.take_of_length_le (Nat.le_succ_of_le hMost), hNext,
      List.take_succ_cons, List.append_assoc, List.cons_append]
    exact h.refused _ e

end RowFormula
