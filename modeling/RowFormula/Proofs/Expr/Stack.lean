import RowFormula.Proofs.Expr.Grammar

/-! What a stack stands for. The tokens that have been read are the tokens of the stack, from the
outermost frame to the innermost one, and of the operand above it. Every step keeps this, so
the expression that a run ends with is derived from the tokens of the run. -/
namespace RowFormula

open Token (Kind)

/-- Arguments that have been read, the last of them first, and their tokens with a comma
after each. -/
inductive Arguments : List Expr → List Kind → Prop where
  | none : Arguments [] []
  | more {args before tokens e} (hs : Arguments args before) (h : Derives .disjunction tokens e) :
      Arguments (e :: args) (before ++ tokens ++ [.comma])

/-- Arguments that are read already and those to come are arguments together. -/
theorem Arguments.derivesAll {args : List Expr} {before tokens : List Kind} {es : List Expr}
    (hs : Arguments args before) (h : DerivesAll tokens es) :
    DerivesAll (before ++ tokens) (args.reverse ++ es) := by
  induction hs generalizing tokens es with
  | none => exact h
  | more _ hLast ih => simpa using ih (.more hLast h)

/-- A call of `AND` or `OR` derives the chain of its arguments. -/
theorem DerivesAll.logicalCall {tokens : List Kind} {first : Expr} {others : List Expr}
    (h : DerivesAll tokens (first :: others)) (op : LogicalOp) :
    Derives .primary ((Infix.logical op).kind :: .leftParen :: (tokens ++ [.rightParen]))
      (Expr.logicalCall op first others) := by
  cases others with
  | nil =>
      rw [Expr.logicalCall_nil]
      exact .loneCall h
  | cons second rest => exact .logicalCall h

/-- Nothing on the stack is to be applied before an operator of the level. -/
def Level.OpenOn (level : Level) : List Frame → Prop
  | .unary _ :: _ => False
  | .infixOp op _ :: _ => op.strength < level.rank
  | _ => True

/-- The tokens that have been read to a stack. -/
inductive Stacked : List Frame → List Kind → Prop where
  | bottom : Stacked [] []
  | unary {op stack tokens} (h : Stacked stack tokens) :
      Stacked (.unary op :: stack) (tokens ++ [op.kind])
  | infixOp {level op left l stack tokens} (h : Stacked stack tokens) (hOpen : level.OpenOn stack)
      (hOp : op ∈ level.operators) (hl : Derives level left l) :
      Stacked (.infixOp op l :: stack) (tokens ++ left ++ [op.kind])
  | group {stack tokens} (h : Stacked stack tokens) :
      Stacked (.group :: stack) (tokens ++ [.leftParen])
  | call {head name args before stack tokens} (h : Stacked stack tokens)
      (hHead : head.called? = some name) (hs : Arguments args before) :
      Stacked (.call name args :: stack) (tokens ++ head :: .leftParen :: before)
  | logicalCall {op opening args before stack tokens} (h : Stacked stack tokens)
      (hs : Arguments args before) :
      Stacked (.logicalCall op opening args :: stack)
        (tokens ++ (Infix.logical op).kind :: .leftParen :: before)

/-- The tokens of a stack and of an expression above it, where an operator of the level of the
expression may follow. -/
inductive Holds (level : Level) (e : Expr) (stack : List Frame) : List Kind → Prop where
  | above {before tokens} (hStack : Stacked stack before) (h : Derives level tokens e)
      (hOpen : level.OpenOn stack) : Holds level e stack (before ++ tokens)

namespace Phase

/-- The tokens after which a phase is reached. -/
inductive After : Phase → List Kind → Prop where
  | operand {stack tokens} (h : Stacked stack tokens) : After (.operand stack) tokens
  | bareWord {name stack tokens} (h : Stacked stack tokens) :
      After (.bareWord name stack) (tokens ++ [.field name false])
  | functionName {name stack tokens} (h : Stacked stack tokens) :
      After (.functionName name stack) (tokens ++ [.function name])
  | logicalWord {op text pos stack tokens} (h : Stacked stack tokens) :
      After (.logicalWord op text pos stack) (tokens ++ [(Infix.logical op).kind])
  | operator {e stack tokens} (h : Holds .primary e stack tokens) :
      After (.operator e stack) tokens

/-- The token of an operator is what makes it an operator. -/
theorem infixOf?_eq_some_iff (kind : Kind) (op : Infix) :
    infixOf? kind = some op ↔ kind = op.kind := by
  constructor
  · intro h
    unfold infixOf? at h
    split at h <;> cases h <;> rfl
  · rintro rfl
    rcases op with _ | (_ | _) <;> rfl

theorem applyUnary_holds {stack : List Frame} {before tokens : List Kind} {e : Expr}
    (hStack : Stacked stack before) (h : Derives .primary tokens e) :
    Holds .primary (applyUnary e stack).1 (applyUnary e stack).2 (before ++ tokens) := by
  induction hStack generalizing tokens e with
  | unary _ ih => simpa [applyUnary] using ih (.unary h)
  | bottom => exact .above .bottom h trivial
  | infixOp hStack hOpen hOp hl =>
      exact .above (.infixOp hStack hOpen hOp hl) h (Infix.strength_bounds _).2
  | group hStack => exact .above (.group hStack) h trivial
  | call hStack hHead hs => exact .above (.call hStack hHead hs) h trivial
  | logicalCall hStack hs => exact .above (.logicalCall hStack hs) h trivial

/-- A complete operand stands for all tokens that have been read. -/
theorem complete_after {stack : List Frame} {before tokens : List Kind} {e : Expr}
    (hStack : Stacked stack before) (h : Derives .primary tokens e) :
    (complete e stack).After (before ++ tokens) :=
  .operator (applyUnary_holds hStack h)

/-- Applying operators down to some level gives an expression of that level. -/
theorem reduce_holds {level looser : Level} {e : Expr} {stack : List Frame} {tokens : List Kind}
    (h : Holds level e stack tokens) (hRank : looser.rank ≤ level.rank) :
    Holds looser (reduce looser.rank e stack).1 (reduce looser.rank e stack).2 tokens := by
  obtain ⟨hStack, h, hOpen⟩ := h
  rename_i before tokens
  -- The stack keeps weaker operators below stronger ones, so what is joined fits the frame below.
  induction hStack generalizing level e tokens with
  | infixOp hStack hOpen' hOp hl ih =>
      rename_i level' op left l stack before
      have hStrength := (level'.mem_operators_iff op).mp hOp
      have hTighter : level'.operand.rank ≤ level.rank := by
        rw [Level.rank_operand (Level.ne_primary_of_mem hOp), ← hStrength]
        exact hOpen
      rw [reduce]
      by_cases hReduce : looser.rank ≤ op.strength
      · rw [if_pos hReduce]
        have hJoined := Derives.infixOp hl hOp (h.loosen hTighter)
        simpa using ih (hStrength ▸ hReduce) hJoined hOpen'
      · rw [if_neg hReduce]
        exact .above (.infixOp hStack hOpen' hOp hl) (h.loosen hRank) (Nat.lt_of_not_le hReduce)
  | unary _ _ => exact hOpen.elim
  | bottom => exact .above .bottom (h.loosen hRank) trivial
  | group hStack => exact .above (.group hStack) (h.loosen hRank) trivial
  | call hStack hHead hs => exact .above (.call hStack hHead hs) (h.loosen hRank) trivial
  | logicalCall hStack hs => exact .above (.logicalCall hStack hs) (h.loosen hRank) trivial

/-- Every operator is as strong as the weakest. -/
theorem reduce_zero (e : Expr) (stack : List Frame) :
    reduce 0 e stack = reduce Level.disjunction.rank e stack := by
  induction stack generalizing e with
  | nil => rfl
  | cons frame rest ih =>
      cases frame with
      | infixOp op left =>
          rw [reduce, if_pos (Nat.zero_le _), reduce, if_pos op.strength_bounds.1, ih]
      | _ => rfl

/-- A step from a complete operand keeps what the stack stands for. -/
theorem afterOperand_after {token : Token} {e : Expr} {stack : List Frame} {tokens : List Kind}
    {next : Phase} (h : Holds .primary e stack tokens)
    (hStep : afterOperand token e stack = .ok next) : next.After (tokens ++ [token.kind]) := by
  obtain ⟨kind, text, pos⟩ := token
  dsimp only [afterOperand] at hStep ⊢
  split at hStep
  · rename_i op hInfix
    cases hStep
    obtain ⟨level, hOp⟩ := op.exists_level
    rw [(level.mem_operators_iff op).mp hOp, (infixOf?_eq_some_iff _ _).mp hInfix]
    obtain ⟨hStack, hLeft, hOpen⟩ := reduce_holds h level.rank_le_primary
    exact .operand (.infixOp hStack hOpen hOp hLeft)
  · rw [reduce_zero] at hStep
    have hDone := reduce_holds h Level.disjunction.rank_le_primary
    generalize reduce Level.disjunction.rank e stack = reduced at hStep hDone
    obtain ⟨e, stack⟩ := reduced
    obtain ⟨hStack, hLast, -⟩ := hDone
    dsimp only at hStep hStack hLast
    -- Only a comma and a closing bracket may follow, and only inside of brackets.
    split at hStep
    · cases hStep
    · cases hStep
      cases hStack with
      | group hRest => simpa using complete_after hRest (.group hLast)
    · cases hStep
      cases hStack with
      | call hRest hHead hs =>
          simpa using complete_after hRest (.call hHead (hs.derivesAll (.one hLast)))
    · cases hStack with
      | logicalCall hRest hs =>
          have hArgs := hs.derivesAll (.one hLast)
          split at hStep <;> rename_i hReverse <;> cases hStep <;> rw [hReverse] at hArgs
          · simpa using complete_after hRest (hArgs.logicalCall _)
          · simpa using complete_after hRest (hArgs.logicalCall _)
    · cases hStep
      cases hStack with
      | call hRest hHead hs =>
          simpa using After.operand (.call hRest hHead (.more hs hLast))
    · cases hStep
      cases hStack with
      | logicalCall hRest hs =>
          simpa using After.operand (.logicalCall hRest (.more hs hLast))
    · cases hStep

/-- A step where an operand has to come keeps what the stack stands for. -/
theorem atOperand_after {token : Token} {stack : List Frame} {tokens : List Kind} {next : Phase}
    (h : Stacked stack tokens) (hStep : atOperand token stack = .ok next) :
    next.After (tokens ++ [token.kind]) := by
  obtain ⟨kind, text, pos⟩ := token
  dsimp only [atOperand] at hStep ⊢
  split at hStep
  · cases hStep; exact complete_after h (.number _)
  · cases hStep; exact complete_after h (.text _)
  · cases hStep; exact complete_after h (.bool _)
  · cases hStep; exact complete_after h (.field _ _)
  · cases hStep; exact .bareWord h
  · cases hStep; exact .functionName h
  · cases hStep; exact .operand (.group h)
  · cases hStep; exact .operand (.unary h)
  · cases hStep; exact .operand (.unary h)
  · cases hStep; exact .logicalWord h
  · cases hStep; exact .logicalWord h
  · split at hStep <;> cases hStep
    cases h with
    | call hRest hHead hs =>
        cases hs
        simpa using complete_after hRest (.emptyCall hHead)
  · cases hStep

/-- A bare word that is not called is an operand. -/
theorem bareWord_holds {name : String} {stack : List Frame} {tokens : List Kind}
    (h : Stacked stack tokens) :
    Holds .primary (applyUnary (.field name) stack).1 (applyUnary (.field name) stack).2
      (tokens ++ [.field name false]) :=
  applyUnary_holds h (.field name false)

/-- Each step adds its token to those that the phase stands for. -/
theorem After.step {token : Token} {phase next : Phase} {tokens : List Kind}
    (h : phase.After tokens) (hStep : step token phase = .ok next) :
    next.After (tokens ++ [token.kind]) := by
  cases h with
  | operand hStack => exact atOperand_after hStack hStep
  | operator hHolds => exact afterOperand_after hHolds hStep
  | bareWord hStack =>
      simp only [Phase.step] at hStep
      split at hStep
      · rename_i hKind
        cases hStep
        simpa [hKind] using After.operand (.call hStack rfl .none)
      · exact afterOperand_after (bareWord_holds hStack) hStep
  | functionName hStack =>
      simp only [Phase.step] at hStep
      split at hStep
      · rename_i hKind
        cases hStep
        simpa [hKind] using After.operand (.call hStack rfl .none)
      · cases hStep
  | logicalWord hStack =>
      simp only [Phase.step] at hStep
      split at hStep
      · rename_i hKind
        cases hStep
        simpa [hKind] using After.operand (.logicalCall hStack .none)
      · cases hStep

/-- The phase after several tokens. -/
def readAll (phase : Phase) (tokens : List Token) : Except SyntaxError Phase :=
  tokens.foldlM (fun phase token => step token phase) phase

/-- After a run a phase stands for all tokens that the run has read. -/
theorem After.readAll {tokens : List Token} {phase next : Phase} {before : List Kind}
    (h : phase.After before) (hRead : phase.readAll tokens = .ok next) :
    next.After (before ++ tokens.map Token.kind) := by
  induction tokens generalizing phase before with
  | nil =>
      cases hRead
      simpa using h
  | cons token rest ih =>
      simp only [Phase.readAll, List.foldlM_cons] at hRead
      cases hStep : Phase.step token phase with
      | error _ =>
          rw [hStep] at hRead
          cases hRead
      | ok middle =>
          rw [hStep] at hRead
          simpa using ih (h.step hStep) hRead

/-- What a formula ends with is derived from all its tokens. -/
theorem close_derives {finish : Token} {e result : Expr} {stack : List Frame} {tokens : List Kind}
    (h : Holds .primary e stack tokens) (hClose : close finish e stack = .ok result) :
    Derives .disjunction tokens result := by
  have hDone := reduce_holds h Level.disjunction.rank_le_primary
  rw [close, reduce_zero] at hClose
  split at hClose
  · rename_i hReduce
    cases hClose
    rw [hReduce] at hDone
    obtain ⟨hStack, hAll, -⟩ := hDone
    cases hStack
    exact hAll
  · cases hClose

/-- What is read is derived from its tokens. -/
theorem After.result {finish : Token} {phase : Phase} {tokens : List Kind} {e : Expr}
    (h : phase.After tokens) (hResult : phase.result finish = .ok e) :
    Derives .disjunction tokens e := by
  cases h with
  | operand _ => cases hResult
  | functionName _ => cases hResult
  | logicalWord _ => cases hResult
  | bareWord hStack => exact close_derives (bareWord_holds hStack) hResult
  | operator hHolds => exact close_derives hHolds hResult

/-- A run reads the tokens before the end of the formula and goes on from there. -/
theorem run_append (stop : Nat) (phase : Phase) {tokens : List Token}
    (inner : ∀ token ∈ tokens, token.isFinish = false) (rest : List Token) :
    run stop phase (tokens ++ rest) =
      (phase.readAll tokens).bind fun next => run stop next rest := by
  induction tokens generalizing phase with
  | nil => rfl
  | cons token others ih =>
      have hToken := inner token List.mem_cons_self
      simp only [List.cons_append, run, hToken, readAll, List.foldlM_cons]
      cases step token phase with
      | error _ => rfl
      | ok next => exact ih next fun token hMem => inner token (List.mem_cons_of_mem _ hMem)

/-- At the end of the formula a run asks for the result. -/
theorem run_eq (stop : Nat) (phase : Phase) {tokens : List Token} (closing : Option Token)
    (inner : ∀ token ∈ tokens, token.isFinish = false)
    (ends : ∀ finish ∈ closing, finish.isFinish = true) :
    run stop phase (tokens ++ closing.toList) =
      (phase.readAll tokens).bind (result (closing.getD ⟨.finish, "", stop⟩)) := by
  rw [run_append stop phase inner]
  cases closing with
  | none => rfl
  | some finish => simp [run, ends finish rfl]

end Phase

end RowFormula
