import RowFormula.Formula.Expr.Parser

/-! The grammar of formulas, over kinds of tokens. There is a level for each strength of
operators between two operands, and one for what holds together without them. All operators
group to the left, so an operator has its own level on the left and the next one on the right. -/
namespace RowFormula

/-- The token of an operator between two operands. -/
def Infix.kind : Infix → Token.Kind
  | .binary op => .operator op
  | .logical .and => .logical .and
  | .logical .or => .logical .or

/-- The token of an operator in front of its operand. -/
def UnaryOp.kind : UnaryOp → Token.Kind
  | .negate => .operator (.arithmetic .subtract)
  | .not => .logical .not

/-- The name that is called when an opening bracket follows. A bare word is called in upper
case. -/
def Token.Kind.called? : Token.Kind → Option String
  | .function name => some name
  | .field name false => some (Text.upper name)
  | _ => none

inductive Level where
  | disjunction | conjunction | comparison | sum | product
  | primary

namespace Level

/-- The level of the operands. -/
def operand : Level → Level
  | disjunction => conjunction
  | conjunction => comparison
  | comparison => sum
  | sum => product
  | product | primary => primary

def operators : Level → List Infix
  | disjunction => [.logical .or]
  | conjunction => [.logical .and]
  | comparison =>
    [.binary (.comparison .equal), .binary (.comparison .doubleEqual),
     .binary (.comparison .notEqual), .binary (.comparison .less),
     .binary (.comparison .lessEqual), .binary (.comparison .greater),
     .binary (.comparison .greaterEqual)]
  | sum => [.binary (.arithmetic .add), .binary (.arithmetic .subtract)]
  | product => [.binary (.arithmetic .multiply), .binary (.arithmetic .divide)]
  | primary => []

end Level

mutual

/-- Tokens that are an expression of a level, with its tree. -/
inductive Derives : Level → List Token.Kind → Expr → Prop where
  | operand {level tokens e} (hLevel : level ≠ .primary) (h : Derives level.operand tokens e) :
      Derives level tokens e
  | infixOp {level op left right l r} (hl : Derives level left l) (hOp : op ∈ level.operators)
      (hr : Derives level.operand right r) :
      Derives level (left ++ op.kind :: right) (Expr.join op l r)
  | number (x : Float) : Derives .primary [.number x] (.number x)
  | text (content : String) : Derives .primary [.string content] (.text content)
  | bool (b : Bool) : Derives .primary [.bool b] (.bool b)
  | field (name : String) (braced : Bool) : Derives .primary [.field name braced] (.field name)
  | group {tokens e} (h : Derives .disjunction tokens e) :
      Derives .primary (.leftParen :: (tokens ++ [.rightParen])) e
  | unary {op tokens e} (h : Derives .primary tokens e) :
      Derives .primary (op.kind :: tokens) (.unary op e)
  | emptyCall {head name} (hHead : head.called? = some name) :
      Derives .primary [head, .leftParen, .rightParen] (.call name [])
  | call {head name tokens args} (hHead : head.called? = some name)
      (h : DerivesAll tokens args) :
      Derives .primary (head :: .leftParen :: (tokens ++ [.rightParen])) (.call name args)
  /-- A lone argument is joined with a value that decides nothing. -/
  | loneCall {op tokens e} (h : DerivesAll tokens [e]) :
      Derives .primary ((Infix.logical op).kind :: .leftParen :: (tokens ++ [.rightParen]))
        (.logical op e (.bool (op = .and)))
  | logicalCall {op tokens first second rest} (h : DerivesAll tokens (first :: second :: rest)) :
      Derives .primary ((Infix.logical op).kind :: .leftParen :: (tokens ++ [.rightParen]))
        (rest.foldl (.logical op) (.logical op first second))

/-- Tokens that are one or more expressions with commas between them. -/
inductive DerivesAll : List Token.Kind → List Expr → Prop where
  | one {tokens e} (h : Derives .disjunction tokens e) : DerivesAll tokens [e]
  | more {tokens e rest es} (h : Derives .disjunction tokens e) (hs : DerivesAll rest es) :
      DerivesAll (tokens ++ .comma :: rest) (e :: es)

end

/-- The value that decides nothing is true in a conjunction and false in a disjunction. -/
theorem Expr.logicalCall_nil (op : LogicalOp) (e : Expr) :
    Expr.logicalCall op e [] = .logical op e (.bool (op = .and)) := by
  cases op <;> rfl

namespace Level

/-- The strength of the operators of a level; the last level is above all strengths. -/
def rank : Level → Nat
  | disjunction => 1
  | conjunction => 2
  | comparison => 3
  | sum => 4
  | product => 5
  | primary => 6

/-- The operators of a level are those of its strength. -/
theorem mem_operators_iff (level : Level) (op : Infix) :
    op ∈ level.operators ↔ op.strength = level.rank := by
  rcases op with ((_ | _ | _ | _) | (_ | _ | _ | _ | _ | _ | _)) | (_ | _) <;>
    cases level <;> decide

theorem rank_injective {level other : Level} (h : level.rank = other.rank) : level = other := by
  cases level <;> cases other <;> first | rfl | exact absurd h (by decide)

/-- No level binds more tightly than a primary expression. -/
theorem rank_le_primary (level : Level) : level.rank ≤ primary.rank := by
  cases level <;> decide

/-- No level binds more loosely than a disjunction. -/
theorem disjunction_rank_le (level : Level) : disjunction.rank ≤ level.rank := by
  cases level <;> decide

/-- The operands of a level are one level tighter. -/
theorem rank_operand {level : Level} (h : level ≠ primary) :
    level.operand.rank = level.rank + 1 := by
  cases level with
  | primary => exact absurd rfl h
  | _ => rfl

theorem ne_primary_of_mem {level : Level} {op : Infix} (h : op ∈ level.operators) :
    level ≠ primary := by
  rintro rfl
  exact List.not_mem_nil h

end Level

/-- Every infix operator belongs to some level. -/
theorem Infix.exists_level (op : Infix) : ∃ level : Level, op ∈ level.operators := by
  simp only [Level.mem_operators_iff]
  rcases op with ((_ | _ | _ | _) | _) | (_ | _)
  · exact ⟨.sum, rfl⟩
  · exact ⟨.sum, rfl⟩
  · exact ⟨.product, rfl⟩
  · exact ⟨.product, rfl⟩
  · exact ⟨.comparison, rfl⟩
  · exact ⟨.conjunction, rfl⟩
  · exact ⟨.disjunction, rfl⟩

/-- All strengths lie between the loosest level and what holds together without operators. -/
theorem Infix.strength_bounds (op : Infix) :
    Level.disjunction.rank ≤ op.strength ∧ op.strength < Level.primary.rank := by
  obtain ⟨level, hOp⟩ := op.exists_level
  rw [(level.mem_operators_iff op).mp hOp]
  refine ⟨level.disjunction_rank_le, ?_⟩
  rw [Nat.lt_iff_le_and_ne]
  exact ⟨level.rank_le_primary, fun h => Level.ne_primary_of_mem hOp (Level.rank_injective h)⟩

/-- What holds together tightly may stand where looser expressions may. -/
theorem Derives.loosen {level looser : Level} {tokens : List Token.Kind} {e : Expr}
    (h : Derives level tokens e) (hRank : looser.rank ≤ level.rank) : Derives looser tokens e := by
  rcases Nat.eq_or_lt_of_le hRank with hSame | hLess
  · rwa [Level.rank_injective hSame]
  · have hLevel : looser ≠ .primary := by
      rintro rfl
      exact absurd level.rank_le_primary (by omega)
    have hNext := Level.rank_operand hLevel
    exact .operand hLevel (h.loosen (by omega))
termination_by level.rank - looser.rank

theorem Infix.finish_ne_kind (op : Infix) : .finish ≠ op.kind := by
  rcases op with _ | (_ | _) <;> exact nofun

theorem UnaryOp.finish_ne_kind (op : UnaryOp) : .finish ≠ op.kind := by
  cases op <;> exact nofun

/-- The end of the formula is nothing that is called. -/
theorem Token.Kind.finish_ne_of_called? {head : Token.Kind} {name : String}
    (h : head.called? = some name) : .finish ≠ head := by
  rintro rfl
  cases h

mutual

/-- The end is no token of an expression. -/
theorem Derives.finish_not_mem {level : Level} {tokens : List Token.Kind} {e : Expr} :
    Derives level tokens e → Token.Kind.finish ∉ tokens
  | .operand _ h => h.finish_not_mem
  | .infixOp hl _ hr => by simp [hl.finish_not_mem, hr.finish_not_mem, Infix.finish_ne_kind]
  | .number _ | .text _ | .bool _ | .field _ _ => by simp
  | .group h => by simp [h.finish_not_mem]
  | .unary h => by simp [h.finish_not_mem, UnaryOp.finish_ne_kind]
  | .emptyCall hHead => by simp [Token.Kind.finish_ne_of_called? hHead]
  | .call hHead h => by simp [h.finish_not_mem, Token.Kind.finish_ne_of_called? hHead]
  | .loneCall h | .logicalCall h => by simp [h.finish_not_mem, Infix.finish_ne_kind]

/-- The end of the formula is in no list of arguments. -/
theorem DerivesAll.finish_not_mem {tokens : List Token.Kind} {args : List Expr} :
    DerivesAll tokens args → Token.Kind.finish ∉ tokens
  | .one h => h.finish_not_mem
  | .more h hs => by simp [h.finish_not_mem, hs.finish_not_mem]

end

/-- An operator between two expressions that hold together, in brackets. -/
theorem Derives.infixGroup {left right : List Token.Kind} {l r : Expr}
    (hl : Derives .primary left l) (op : Infix) (hr : Derives .primary right r) :
    Derives .primary (.leftParen :: (left ++ op.kind :: right ++ [.rightParen]))
      (Expr.join op l r) := by
  obtain ⟨level, hOp⟩ := op.exists_level
  have hInfix := Derives.infixOp (hl.loosen level.rank_le_primary) hOp
    (hr.loosen level.operand.rank_le_primary)
  exact .group (hInfix.loosen level.disjunction_rank_le)

mutual

/-- Every expression can be written with tokens that hold together. -/
theorem Expr.exists_derives : ∀ e : Expr, ∃ tokens, Derives .primary tokens e
  | .number x => ⟨_, .number x⟩
  | .text content => ⟨_, .text content⟩
  | .bool b => ⟨_, .bool b⟩
  | .field name => ⟨_, .field name true⟩
  | .unary op operand =>
    have ⟨_, h⟩ := operand.exists_derives
    ⟨op.kind :: _, .unary h⟩
  | .binary op left right =>
    have ⟨_, hl⟩ := left.exists_derives
    have ⟨_, hr⟩ := right.exists_derives
    ⟨_, hl.infixGroup (.binary op) hr⟩
  | .logical op left right =>
    have ⟨_, hl⟩ := left.exists_derives
    have ⟨_, hr⟩ := right.exists_derives
    ⟨_, hl.infixGroup (.logical op) hr⟩
  | .call name [] => ⟨[.function name, .leftParen, .rightParen], .emptyCall rfl⟩
  | .call name (arg :: args) =>
    have ⟨tokens, h⟩ := Expr.exists_derivesAll (arg :: args) (List.cons_ne_nil arg args)
    ⟨.function name :: .leftParen :: (tokens ++ [.rightParen]), .call rfl h⟩

/-- All arguments can be written too, one behind the other. -/
theorem Expr.exists_derivesAll : ∀ args : List Expr, args ≠ [] → ∃ tokens, DerivesAll tokens args
  | [], hSome => absurd rfl hSome
  | [arg], _ =>
    have ⟨_, h⟩ := arg.exists_derives
    ⟨_, .one (h.loosen (Level.rank_le_primary .disjunction))⟩
  | arg :: next :: rest, _ =>
    have ⟨_, h⟩ := arg.exists_derives
    have ⟨_, hs⟩ := Expr.exists_derivesAll (next :: rest) (List.cons_ne_nil next rest)
    ⟨_, .more (h.loosen (Level.rank_le_primary .disjunction)) hs⟩

end

end RowFormula
