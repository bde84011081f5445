import RowFormula.Proofs.Expr.Stack

/-! What is derived is read. A run over the tokens of a derivation, started where an operand has to
come, ends with the tree of the derivation above the stack that it started from. Operators that
no later one has forced yet may still be on the stack; to apply them gives the tree. -/
namespace RowFormula

open Token (Kind)

namespace Phase

/-- The operand that a phase may end with, and the stack below it. -/
def settled? : Phase → Option (Expr × List Frame)
  | operator e stack => some (e, stack)
  | bareWord name stack => some (applyUnary (.field name) stack)
  | _ => none

/-- Operators down to a level applied, a phase has an expression above a stack. -/
def Ends (phase : Phase) (level : Level) (above : Expr × List Frame) : Prop :=
  ∃ e stack, phase.settled? = some (e, stack) ∧ reduce level.rank e stack = above

/-- A stack that is open for a level is open for each tighter one. -/
theorem openOn_of_rank_le {level tighter : Level} {stack : List Frame} (h : level.OpenOn stack)
    (hRank : level.rank ≤ tighter.rank) : tighter.OpenOn stack := by
  cases stack with
  | nil => trivial
  | cons frame rest =>
      cases frame with
      | infixOp _ _ => exact Nat.lt_of_lt_of_le h hRank
      | unary _ => exact h
      | _ => trivial

/-- On a stack that is open for a level no operator in front is applied. -/
theorem applyUnary_of_openOn {level : Level} {stack : List Frame} (h : level.OpenOn stack)
    (e : Expr) : applyUnary e stack = (e, stack) := by
  cases stack with
  | nil => rfl
  | cons frame rest =>
      cases frame with
      | unary _ => exact h.elim
      | _ => rfl

theorem reduce_eq_self {strength : Nat} {stack : List Frame}
    (h : ∀ op left rest, stack = .infixOp op left :: rest → op.strength < strength) (e : Expr) :
    reduce strength e stack = (e, stack) := by
  cases stack with
  | nil => rfl
  | cons frame rest =>
      cases frame with
      | infixOp op left => rw [reduce, if_neg (Nat.not_le_of_lt (h op left rest rfl))]
      | _ => rfl

/-- On a stack that is open for a level no operator of the level is applied. -/
theorem reduce_of_openOn {level : Level} {stack : List Frame} (h : level.OpenOn stack)
    (e : Expr) : reduce level.rank e stack = (e, stack) := by
  apply reduce_eq_self
  rintro op left rest rfl
  exact h

theorem reduce_primary (e : Expr) (stack : List Frame) :
    reduce Level.primary.rank e stack = (e, stack) :=
  reduce_eq_self (fun op _ _ _ => op.strength_bounds.2) e

/-- Applying the tight operators first makes no difference. -/
theorem reduce_reduce {loose tight : Nat} (h : loose ≤ tight) (e : Expr) (stack : List Frame) :
    reduce loose (reduce tight e stack).1 (reduce tight e stack).2 = reduce loose e stack := by
  induction stack generalizing e with
  | nil => rfl
  | cons frame rest ih =>
      cases frame with
      | infixOp op left =>
          by_cases hTight : tight ≤ op.strength
          · rw [reduce, if_pos hTight, ih, reduce, if_pos (Nat.le_trans h hTight)]
          · rw [reduce, if_neg hTight]
      | _ => rfl

/-- What ends at a level ends at a looser one with more operators applied. -/
theorem Ends.loosen {phase : Phase} {level looser : Level} {above : Expr × List Frame}
    (h : phase.Ends level above) (hRank : looser.rank ≤ level.rank) :
    phase.Ends looser (reduce looser.rank above.1 above.2) := by
  obtain ⟨e, stack, hSettled, rfl⟩ := h
  exact ⟨e, stack, hSettled, (reduce_reduce hRank e stack).symm⟩

theorem ends_complete (e : Expr) (stack : List Frame) :
    (complete e stack).Ends .primary (applyUnary e stack) :=
  ⟨_, _, rfl, reduce_primary _ _⟩

theorem ends_bareWord (name : String) (stack : List Frame) :
    (bareWord name stack).Ends .primary (applyUnary (.field name) stack) :=
  ⟨_, _, rfl, reduce_primary _ _⟩

/-- An opening bracket alone tells a bare word from an operand. -/
theorem step_of_settled {phase : Phase} {e : Expr} {stack : List Frame}
    (h : phase.settled? = some (e, stack)) {token : Token} (hKind : token.kind ≠ .leftParen) :
    step token phase = afterOperand token e stack := by
  cases phase with
  | operator _ _ =>
      cases h
      rfl
  | bareWord name stack =>
      simp only [settled?, Option.some.injEq] at h
      simp only [step, if_neg hKind, h]
  | _ => cases h

/-- Where the formula ends, all that was read is its expression. -/
theorem result_of_ends {phase : Phase} {e : Expr} (h : phase.Ends .disjunction (e, []))
    (finish : Token) : phase.result finish = .ok e := by
  obtain ⟨last, stack, hSettled, hReduce⟩ := h
  cases phase with
  | operator _ _ =>
      cases hSettled
      simp only [result, close, reduce_zero, hReduce]
  | bareWord name stack =>
      simp only [settled?, Option.some.injEq] at hSettled
      simp only [result, hSettled, close, reduce_zero, hReduce]
  | _ => cases hSettled

/-- An operator takes what its level has above the stack for its left operand. -/
theorem Ends.infixOp {phase : Phase} {level : Level} {l : Expr} {stack : List Frame}
    (h : phase.Ends level (l, stack)) {op : Infix} (hOp : op ∈ level.operators) {token : Token}
    (hKind : token.kind = op.kind) :
    step token phase = .ok (.operand (.infixOp op l :: stack)) := by
  obtain ⟨last, inner, hSettled, hReduce⟩ := h
  have hParen : token.kind ≠ .leftParen := by
    rw [hKind]
    rcases op with _ | (_ | _) <;> exact Kind.noConfusion
  have hInfix := (infixOf?_eq_some_iff token.kind op).mpr hKind
  rw [step_of_settled hSettled hParen]
  simp only [afterOperand, hInfix, (level.mem_operators_iff op).mp hOp, hReduce]

/-- What no operator is sees all operators applied. -/
theorem Ends.step_eq {phase : Phase} {e : Expr} {stack : List Frame}
    (h : phase.Ends .disjunction (e, stack)) {token : Token} (hKind : token.kind ≠ .leftParen)
    (hInfix : infixOf? token.kind = none) : step token phase = afterOperand token e stack := by
  obtain ⟨last, inner, hSettled, hReduce⟩ := h
  have hAgain := reduce_reduce (Nat.le_refl Level.disjunction.rank) last inner
  rw [hReduce] at hAgain
  rw [step_of_settled hSettled hKind]
  simp only [afterOperand, hInfix, reduce_zero, hReduce, hAgain]

/-- The frame of a call with its arguments before this one. -/
inductive Calling : (List Expr → Frame) → Prop where
  | call (name : String) : Calling (.call name)
  | logicalCall (op : LogicalOp) (opening : Nat) : Calling (.logicalCall op opening)

theorem Calling.openOn {frame : List Expr → Frame} (h : Calling frame) (args : List Expr)
    (stack : List Frame) (level : Level) : level.OpenOn (frame args :: stack) := by
  cases h <;> trivial

/-- A comma puts the last argument to the others. -/
theorem Calling.comma {frame : List Expr → Frame} (h : Calling frame) {phase : Phase} {e : Expr}
    {args : List Expr} {stack : List Frame}
    (hEnds : phase.Ends .disjunction (e, frame args :: stack)) {token : Token}
    (hKind : token.kind = .comma) :
    step token phase = .ok (.operand (frame (e :: args) :: stack)) := by
  rw [hEnds.step_eq (by simp [hKind]) (by rw [hKind]; rfl)]
  cases h <;> simp [afterOperand, hKind, infixOf?, reduce]

/-- A closing bracket ends a group. -/
theorem Ends.closeGroup {phase : Phase} {e : Expr} {stack : List Frame}
    (h : phase.Ends .disjunction (e, .group :: stack)) {token : Token}
    (hKind : token.kind = .rightParen) : step token phase = .ok (complete e stack) := by
  rw [h.step_eq (by simp [hKind]) (by rw [hKind]; rfl)]
  simp [afterOperand, hKind, infixOf?, reduce]

/-- A closing bracket ends a call. -/
theorem Ends.closeCall {phase : Phase} {name : String} {last : Expr} {args : List Expr}
    {stack : List Frame} (h : phase.Ends .disjunction (last, .call name args :: stack))
    {token : Token} (hKind : token.kind = .rightParen) :
    step token phase = .ok (complete (.call name (args.reverse ++ [last])) stack) := by
  rw [h.step_eq (by simp [hKind]) (by rw [hKind]; rfl)]
  simp [afterOperand, hKind, infixOf?, reduce]

/-- A closing bracket ends a call of `AND` or `OR` that has enough arguments. -/
theorem Ends.closeLogicalCall {phase : Phase} {op : LogicalOp} {opening : Nat} {last : Expr}
    {args : List Expr} {stack : List Frame}
    (h : phase.Ends .disjunction (last, .logicalCall op opening args :: stack)) {token : Token}
    (hKind : token.kind = .rightParen) {first : Expr} {others : List Expr}
    (hAll : args.reverse ++ [last] = first :: others) :
    step token phase = .ok (complete (Expr.logicalCall op first others) stack) := by
  rw [h.step_eq (by simp [hKind]) (by rw [hKind]; rfl)]
  simp only [afterOperand, hKind, infixOf?, reduce]
  cases hArgs : args.reverse with
  | nil =>
      rw [hArgs] at hAll
      cases hAll
      rfl
  | cons first' others' =>
      rw [hArgs] at hAll
      cases hAll
      rfl

/-- Reading goes on from where it stands. -/
theorem readAll_append {phase next : Phase} {tokens : List Token}
    (h : phase.readAll tokens = .ok next) (rest : List Token) :
    phase.readAll (tokens ++ rest) = next.readAll rest := by
  rw [readAll, List.foldlM_append, ← readAll, h]
  rfl

theorem readAll_cons {phase next : Phase} {token : Token} (h : step token phase = .ok next)
    (rest : List Token) : phase.readAll (token :: rest) = next.readAll rest := by
  rw [readAll, List.foldlM_cons, h]
  rfl

/-- A call starts with its name and an opening bracket. -/
theorem readAll_called {head paren : Token} {name : String} {stack : List Frame}
    (hHead : head.kind.called? = some name) (hParen : paren.kind = .leftParen)
    (rest : List Token) : (operand stack).readAll (head :: paren :: rest) =
      (operand (.call name [] :: stack)).readAll rest := by
  obtain ⟨kind, text, pos⟩ := head
  have hStep : ∃ next, step ⟨kind, text, pos⟩ (.operand stack) = .ok next ∧
      step paren next = .ok (.operand (.call name [] :: stack)) := by
    simp only [Kind.called?] at hHead
    split at hHead <;> cases hHead <;> exact ⟨_, rfl, by simp [step, hParen]⟩
  obtain ⟨next, hStep, hOpening⟩ := hStep
  rw [readAll_cons hStep, readAll_cons hOpening]

/-- So does a call of a logical operator. -/
theorem readAll_logical {head paren : Token} {op : LogicalOp} {stack : List Frame}
    (hHead : head.kind = (Infix.logical op).kind) (hParen : paren.kind = .leftParen)
    (rest : List Token) : (operand stack).readAll (head :: paren :: rest) =
      (operand (.logicalCall op paren.pos [] :: stack)).readAll rest := by
  have hStep : step head (.operand stack) = .ok (.logicalWord op head.text head.pos stack) := by
    cases op <;> simp [step, atOperand, hHead, Infix.kind]
  rw [readAll_cons hStep]
  exact readAll_cons (by simp [step, hParen]) rest

/-- One token that is an operand. -/
theorem readAll_operand {tokens : List Token} {kind : Kind} {e : Expr} {stack : List Frame}
    (hKinds : tokens.map Token.kind = [kind])
    (hStep : ∀ token : Token, token.kind = kind → ∃ next, atOperand token stack = .ok next ∧
      next.Ends .primary (applyUnary e stack)) :
    ∃ phase, (operand stack).readAll tokens = .ok phase ∧
      phase.Ends .primary (applyUnary e stack) := by
  obtain ⟨token, rfl, hKind⟩ := List.map_eq_singleton_iff.mp hKinds
  obtain ⟨next, hNext, hEnds⟩ := hStep token hKind
  have hFirst : step token (operand stack) = .ok next := hNext
  exact ⟨next, readAll_cons hFirst [], hEnds⟩

/-- A call of a logical operator from its name to its closing bracket. -/
theorem readAll_logicalCall {head opening closing : Token} {inner : List Token} {op : LogicalOp}
    {stack : List Frame} {phase : Phase} {init others : List Expr} {first last : Expr}
    (hHead : head.kind = (Infix.logical op).kind) (hOpening : opening.kind = .leftParen)
    (hRead : (operand (.logicalCall op opening.pos [] :: stack)).readAll inner = .ok phase)
    (hEnds : phase.Ends .disjunction
      (last, .logicalCall op opening.pos (init.reverse ++ []) :: stack))
    (hAll : first :: others = init ++ [last]) (hClosing : closing.kind = .rightParen) :
    (operand stack).readAll (head :: opening :: (inner ++ [closing])) =
      .ok (complete (Expr.logicalCall op first others) stack) := by
  rw [readAll_logical hHead hOpening, readAll_append hRead]
  exact readAll_cons (hEnds.closeLogicalCall hClosing (by simpa using hAll.symm)) []

end Phase

open Phase

/-- Tokens whose kinds are in brackets are in brackets. -/
theorem exists_of_map_kind_brackets {tokens : List Token} {kinds : List Kind}
    (h : tokens.map Token.kind = .leftParen :: (kinds ++ [.rightParen])) :
    ∃ opening inner closing, tokens = opening :: (inner ++ [closing]) ∧
      opening.kind = .leftParen ∧ inner.map Token.kind = kinds ∧ closing.kind = .rightParen := by
  obtain ⟨opening, rest, rfl, hOpening, hRest⟩ := List.map_eq_cons_iff.mp h
  obtain ⟨inner, last, rfl, hInner, hLast⟩ := List.map_eq_append_iff.mp hRest
  obtain ⟨closing, rfl, hClosing⟩ := List.map_eq_singleton_iff.mp hLast
  exact ⟨opening, inner, closing, rfl, hOpening, hInner, hClosing⟩

mutual

/-- Where an operand has to come, the tokens of a derivation leave its tree above the stack. -/
theorem Derives.reads {level : Level} {kinds : List Kind} {e : Expr} :
    Derives level kinds e → ∀ (stack : List Frame) {tokens : List Token},
      level = .primary ∨ level.OpenOn stack → tokens.map Token.kind = kinds →
      ∃ phase, (operand stack).readAll tokens = .ok phase ∧
        phase.Ends level (applyUnary e stack)
  | .operand hLevel h, stack, tokens, hFits, hKinds => by
      have hOpen := hFits.resolve_left hLevel
      have hRank : level.rank ≤ level.operand.rank := by
        rw [Level.rank_operand hLevel]
        exact Nat.le_succ _
      obtain ⟨phase, hRead, hEnds⟩ :=
        h.reads stack (Or.inr (openOn_of_rank_le hOpen hRank)) hKinds
      refine ⟨phase, hRead, ?_⟩
      rw [applyUnary_of_openOn hOpen] at hEnds ⊢
      have hLoose := hEnds.loosen hRank
      rwa [reduce_of_openOn hOpen] at hLoose
  | @Derives.infixOp _ op _ _ l r hl hOp hr, stack, tokens, hFits, hKinds => by
      have hLevel := Level.ne_primary_of_mem hOp
      have hOpen := hFits.resolve_left hLevel
      have hStrength := (level.mem_operators_iff op).mp hOp
      have hRank : op.strength < level.operand.rank := by
        rw [Level.rank_operand hLevel, hStrength]
        exact Nat.lt_succ_self _
      obtain ⟨left, rest, rfl, hLeft, hRest⟩ := List.map_eq_append_iff.mp hKinds
      obtain ⟨token, right, rfl, hToken, hRight⟩ := List.map_eq_cons_iff.mp hRest
      obtain ⟨before, hReadLeft, hEndsLeft⟩ := hl.reads stack hFits hLeft
      rw [applyUnary_of_openOn hOpen] at hEndsLeft
      obtain ⟨phase, hReadRight, hEndsRight⟩ :=
        hr.reads (.infixOp op l :: stack) (Or.inr hRank) hRight
      refine ⟨phase, ?_, ?_⟩
      · rw [readAll_append hReadLeft, readAll_cons (hEndsLeft.infixOp hOp hToken), hReadRight]
      · -- To apply operators down to this level joins both sides, and stops there.
        have hLoose := hEndsRight.loosen (Nat.le_of_lt (hStrength ▸ hRank))
        rw [applyUnary_of_openOn hOpen]
        simpa [applyUnary, reduce, hStrength, reduce_of_openOn hOpen] using hLoose
  | .number x, stack, _, _, hKinds =>
      readAll_operand hKinds fun token hKind =>
        ⟨complete (.number x) stack, by simp [atOperand, hKind], ends_complete _ _⟩
  | .text content, stack, _, _, hKinds =>
      readAll_operand hKinds fun token hKind =>
        ⟨complete (.text content) stack, by simp [atOperand, hKind], ends_complete _ _⟩
  | .bool b, stack, _, _, hKinds =>
      readAll_operand hKinds fun token hKind =>
        ⟨complete (.bool b) stack, by simp [atOperand, hKind], ends_complete _ _⟩
  | .field name true, stack, _, _, hKinds =>
      readAll_operand hKinds fun token hKind =>
        ⟨complete (.field name) stack, by simp [atOperand, hKind], ends_complete _ _⟩
  | .field name false, stack, _, _, hKinds =>
      readAll_operand hKinds fun token hKind =>
        ⟨bareWord name stack, by simp [atOperand, hKind], ends_bareWord _ _⟩
  | .group h, stack, tokens, _, hKinds => by
      obtain ⟨opening, inner, closing, rfl, hOpening, hInner, hClosing⟩ :=
        exists_of_map_kind_brackets hKinds
      obtain ⟨phase, hRead, hEnds⟩ := h.reads (.group :: stack) (Or.inr trivial) hInner
      have hStep : step opening (.operand stack) = .ok (.operand (.group :: stack)) := by
        simp [step, atOperand, hOpening]
      refine ⟨_, ?_, ends_complete _ _⟩
      rw [readAll_cons hStep, readAll_append hRead]
      exact readAll_cons (hEnds.closeGroup hClosing) []
  | @Derives.unary op _ _ h, stack, tokens, _, hKinds => by
      obtain ⟨token, rest, rfl, hToken, hRest⟩ := List.map_eq_cons_iff.mp hKinds
      obtain ⟨phase, hRead, hEnds⟩ := h.reads (.unary op :: stack) (Or.inl rfl) hRest
      have hStep : step token (.operand stack) = .ok (.operand (.unary op :: stack)) := by
        cases op <;> simp [step, atOperand, hToken, UnaryOp.kind]
      exact ⟨phase, (readAll_cons hStep rest).trans hRead, hEnds⟩
  | .emptyCall hHead, stack, tokens, _, hKinds => by
      obtain ⟨head, rest, rfl, rfl, hRest⟩ := List.map_eq_cons_iff.mp hKinds
      have hBrackets : rest.map Token.kind = .leftParen :: ([] ++ [.rightParen]) := hRest
      obtain ⟨opening, inner, closing, rfl, hOpening, hInner, hClosing⟩ :=
        exists_of_map_kind_brackets hBrackets
      cases List.map_eq_nil_iff.mp hInner
      refine ⟨_, ?_, ends_complete _ _⟩
      rw [readAll_called hHead hOpening]
      exact readAll_cons (by simp [step, atOperand, hClosing]) []
  | .call hHead h, stack, tokens, _, hKinds => by
      obtain ⟨head, rest, rfl, rfl, hRest⟩ := List.map_eq_cons_iff.mp hKinds
      obtain ⟨opening, inner, closing, rfl, hOpening, hInner, hClosing⟩ :=
        exists_of_map_kind_brackets hRest
      obtain ⟨phase, init, last, rfl, hRead, hEnds⟩ := h.reads stack (.call _) [] hInner
      refine ⟨_, ?_, ends_complete _ _⟩
      rw [readAll_called hHead hOpening, readAll_append hRead]
      exact readAll_cons (by simpa using hEnds.closeCall hClosing) []
  | .loneCall h, stack, tokens, _, hKinds => by
      obtain ⟨head, rest, rfl, hHead, hRest⟩ := List.map_eq_cons_iff.mp hKinds
      obtain ⟨opening, inner, closing, rfl, hOpening, hInner, hClosing⟩ :=
        exists_of_map_kind_brackets hRest
      obtain ⟨phase, init, last, hAll, hRead, hEnds⟩ :=
        h.reads stack (.logicalCall _ opening.pos) [] hInner
      rw [← Expr.logicalCall_nil]
      exact ⟨_, readAll_logicalCall hHead hOpening hRead hEnds hAll hClosing, ends_complete _ _⟩
  | .logicalCall h, stack, tokens, _, hKinds => by
      obtain ⟨head, rest, rfl, hHead, hRest⟩ := List.map_eq_cons_iff.mp hKinds
      obtain ⟨opening, inner, closing, rfl, hOpening, hInner, hClosing⟩ :=
        exists_of_map_kind_brackets hRest
      obtain ⟨phase, init, last, hAll, hRead, hEnds⟩ :=
        h.reads stack (.logicalCall _ opening.pos) [] hInner
      exact ⟨_, readAll_logicalCall hHead hOpening hRead hEnds hAll hClosing, ends_complete _ _⟩

/-- In a call, the tokens of several expressions leave the last one above the others. -/
theorem DerivesAll.reads {kinds : List Kind} {es : List Expr} :
    DerivesAll kinds es → ∀ (stack : List Frame) {frame : List Expr → Frame} (_ : Calling frame)
      (args : List Expr) {tokens : List Token}, tokens.map Token.kind = kinds →
      ∃ phase init last, es = init ++ [last] ∧
        (operand (frame args :: stack)).readAll tokens = .ok phase ∧
        phase.Ends .disjunction (last, frame (init.reverse ++ args) :: stack)
  | .one h, stack, frame, hFrame, args, tokens, hKinds => by
      have hOpen := hFrame.openOn args stack .disjunction
      obtain ⟨phase, hRead, hEnds⟩ := h.reads _ (Or.inr hOpen) hKinds
      rw [applyUnary_of_openOn hOpen] at hEnds
      exact ⟨phase, [], _, rfl, hRead, hEnds⟩
  | .more h hs, stack, frame, hFrame, args, tokens, hKinds => by
      have hOpen := hFrame.openOn args stack .disjunction
      obtain ⟨first, rest, rfl, hFirst, hRest⟩ := List.map_eq_append_iff.mp hKinds
      obtain ⟨comma, others, rfl, hComma, hOthers⟩ := List.map_eq_cons_iff.mp hRest
      obtain ⟨before, hReadFirst, hEndsFirst⟩ := h.reads _ (Or.inr hOpen) hFirst
      rw [applyUnary_of_openOn hOpen] at hEndsFirst
      obtain ⟨phase, init, last, rfl, hRead, hEnds⟩ := hs.reads stack hFrame (_ :: args) hOthers
      refine ⟨phase, _ :: init, last, rfl, ?_, by simpa using hEnds⟩
      rw [readAll_append hReadFirst, readAll_cons (hFrame.comma hEndsFirst hComma), hRead]

end

end RowFormula
