import RowFormula.Proofs.Expr.Acceptance
import RowFormula.Proofs.Token.Segment

/-! Formulas made of formulas. A formula that does not end in a string without its closing quote
keeps its tokens between brackets and among the arguments of a call, so what is written around it
is read around its tree. -/
namespace RowFormula

open Token (Kind Layout Segment Spells separates isOpenString)
open Text (isAllBlank)

/-- What an operator between two operands is written as. -/
def Infix.symbol : Infix → String
  | .binary op => op.symbol
  | .logical op => op.symbol

/-- What an operator in front of its operand is written as. -/
def UnaryOp.symbol : UnaryOp → String
  | .negate => "-"
  | .not => "NOT"

/-- The symbol of an infix operator is one token. -/
theorem Infix.segment (op : Infix) : Segment separates op.symbol [op.kind] := by
  rcases op with op | (_ | _)
  · exact .operator op
  · exact .logicalWord .and
  · exact .logicalWord .or

/-- The symbol of an operator in front is one token. -/
theorem UnaryOp.segment (op : UnaryOp) : Segment separates op.symbol [op.kind] := by
  cases op with
  | negate => exact .operator (.arithmetic .subtract)
  | not => exact .logicalWord .not

/-- A formula with its tree, where the last token is not a string without its closing quote. -/
structure Closed (formula : String) (e : Expr) : Prop where
  parse : Expr.parse formula = .ok e
  quoted : ∀ tokens, Token.lex formula = .ok tokens →
    ∀ last ∈ tokens.dropLast.getLast?, isOpenString last.kind last.text.toList = false

/-- A formula is closed when its last token is no open string. -/
theorem Closed.of_lex {formula : String} {e : Expr} {before : List Token} {last finish : Token}
    (hLex : Token.lex formula = .ok (before ++ [last, finish]))
    (hParse : Expr.parse formula = .ok e)
    (hLast : isOpenString last.kind last.text.toList = false) : Closed formula e := by
  refine ⟨hParse, fun tokens hTokens other hOther => ?_⟩
  obtain rfl := Except.ok.inj (hTokens.symm.trans hLex)
  obtain rfl : last = other := by simpa using hOther
  exact hLast

/-- A braced name is a formula of its own. -/
theorem Closed.reference {name : String} (hName : '}' ∉ name.toList) :
    Closed ("\x7b" ++ name ++ "\x7d") (.field (Text.trim name)) := by
  let text := "\x7b" ++ name ++ "\x7d"
  let kind : Token.Kind := .field (Text.trim name) true
  have hLexeme : Token.Lexeme kind text.toList [] := by
    simpa [kind, text, Text.trim] using Token.Lexeme.reference hName []
  let piece : Token.Piece := ⟨"", kind, text, rfl⟩
  have hFits : Token.Layout.Fits "" [piece] := ⟨hLexeme, trivial⟩
  obtain ⟨stop, hPlace⟩ : ∃ stop, Token.Layout.place "" 0 [piece] =
      [] ++ [⟨kind, text, 0⟩, ⟨.finish, "", stop⟩] := ⟨_, rfl⟩
  have hLex : Token.lex text = .ok ([] ++ [⟨kind, text, 0⟩, ⟨.finish, "", stop⟩]) := by
    have hLayout := Token.Layout.lexFrom_spell rfl hFits 0
    rw [hPlace] at hLayout
    simpa [Token.lex, Token.Layout.spell, piece] using hLayout
  exact .of_lex hLex (Expr.parse_of_lex hLex) rfl

/-- Text with given kinds of tokens is read as what they derive. -/
theorem Token.Spells.parse_eq_ok_iff {formula : String} {kinds : List Kind}
    (h : Spells formula kinds) (e : Expr) :
    Expr.parse formula = .ok e ↔ Derives .disjunction kinds e := by
  obtain ⟨inner, finish, hLex, rfl, hFinish, hInner⟩ := h.lex
  have ends : ∀ token ∈ some finish, token.isFinish = true := by simpa using hFinish
  rw [Expr.parse_of_lex hLex]
  exact Expr.ofTokens_eq_ok_iff hInner ends e

/-- A closed text is a segment whose tokens derive its expression. -/
theorem Closed.segment {formula : String} {e : Expr} (h : Closed formula e) :
    ∃ kinds, Derives .disjunction kinds e ∧ Segment separates formula kinds := by
  cases hLex : Token.lex formula with
  | error _ =>
      have hParse := h.parse
      rw [Expr.parse, hLex] at hParse
      cases hParse
  | ok tokens =>
      obtain ⟨layout, hFits, rfl, rfl⟩ := Layout.exists_of_lex hLex
      have hLast : ∀ piece ∈ layout.pieces.getLast?,
          isOpenString piece.kind piece.text.toList = false := by
        intro piece hPiece
        obtain ⟨inner, hPlace, hInner⟩ := Layout.place_eq layout.trailing 0 layout.pieces
        have hTokens : layout.tokens.dropLast = inner := by
          rw [Layout.tokens, hPlace, List.dropLast_concat]
        have hPair : (inner.map fun token => (token.kind, token.text)).getLast? =
            some (piece.kind, piece.text) := by
          rw [hInner, List.getLast?_map, hPiece, Option.map_some]
        rw [List.getLast?_map, Option.map_eq_some_iff] at hPair
        obtain ⟨last, hMem, hSame⟩ := hPair
        obtain ⟨hKind, hText⟩ := Prod.mk.inj hSame
        rw [← hKind, ← hText]
        exact h.quoted _ hLex last (hTokens ▸ hMem)
      have hSegment := hFits.segment layout.trailing_blank hLast
      exact ⟨_, (hSegment.spells.parse_eq_ok_iff e).mp h.parse, hSegment⟩

/-- Text of an expression that keeps its tokens whatever follows. -/
def Phrase (level : Level) (text : String) (e : Expr) : Prop :=
  ∃ kinds, Derives level kinds e ∧ Segment (fun _ => true) text kinds

/-- A phrase is read as its expression. -/
theorem Phrase.parse {level : Level} {text : String} {e : Expr} (h : Phrase level text e) :
    Expr.parse text = .ok e := by
  obtain ⟨kinds, hDerives, hSegment⟩ := h
  exact (hSegment.spells.parse_eq_ok_iff e).mpr (hDerives.loosen level.disjunction_rank_le)

section Parts

variable {formula : String} {e : Expr} (h : Closed formula e)

include h

/-- In brackets every closed text is a phrase of every level. -/
theorem Closed.group (level : Level) : Phrase level ("(" ++ formula ++ ")") e := by
  obtain ⟨kinds, hDerives, hSegment⟩ := h.segment
  exact ⟨_, hDerives.group.loosen level.rank_le_primary, hSegment.brackets⟩

/-- An operator in front of brackets applies to all inside them. -/
theorem Closed.unary (op : UnaryOp) :
    Phrase .primary (op.symbol ++ ("(" ++ formula ++ ")")) (.unary op e) := by
  obtain ⟨kinds, hDerives, hSegment⟩ := h.segment
  exact ⟨_, .unary hDerives.group, op.segment.called hSegment⟩

theorem Closed.infixOp {level : Level} {op : Infix} (hOp : op ∈ level.operators) {left : String}
    {l : Expr} (hLeft : Phrase level left l) {before after : String}
    (hBefore : isAllBlank before = true) (hAfter : isAllBlank after = true) :
    Phrase level (left ++ (before ++ op.symbol ++ after) ++ ("(" ++ formula ++ ")"))
      (Expr.join op l e) := by
  obtain ⟨kinds, hDerives, hSegment⟩ := hLeft
  obtain ⟨others, hOthers, hRight⟩ := h.group level.operand
  have hOperator := (op.segment.blanks hBefore).append (hRight.blanks hAfter) fun follow => by
    have hHead := Token.separates_of_head?_blanks hAfter (formula ++ ")" ++ follow)
    simpa [String.append_assoc] using hHead
  refine ⟨_, .infixOp hDerives hOp hOthers, ?_⟩
  simpa [String.append_assoc] using hSegment.append hOperator fun _ _ _ => rfl

end Parts

/-- Operators of one level group to the left. -/
theorem Phrase.chain {level : Level} {op : Infix} (hOp : op ∈ level.operators)
    {before after : String} (hBefore : isAllBlank before = true)
    (hAfter : isAllBlank after = true) {left : String} {l : Expr} (hLeft : Phrase level left l)
    {parts : List (String × Expr)} (h : ∀ part ∈ parts, Closed part.1 part.2) :
    Phrase level
      ((before ++ op.symbol ++ after).intercalate
        (left :: parts.map fun part => "(" ++ part.1 ++ ")"))
      ((parts.map Prod.snd).foldl (Expr.join op) l) := by
  induction parts generalizing left l with
  | nil => simpa using hLeft
  | cons part rest ih =>
      have hPart := h part List.mem_cons_self
      have hChain := ih (hPart.infixOp hOp hLeft hBefore hAfter) fun other hMem =>
        h other (List.mem_cons_of_mem part hMem)
      cases rest with
      | nil => simpa [String.append_assoc] using hChain
      | cons _ _ => simpa [String.append_assoc] using hChain

/-- Closed texts with commas between them are read as the arguments that they are alone. -/
theorem Closed.arguments {parts : List (String × Expr)} (h : ∀ part ∈ parts, Closed part.1 part.2)
    (hSome : parts ≠ []) :
    ∃ kinds, DerivesAll kinds (parts.map Prod.snd) ∧
      Segment separates (",".intercalate (parts.map Prod.fst)) kinds := by
  induction parts with
  | nil => exact absurd rfl hSome
  | cons part rest ih =>
      obtain ⟨kinds, hDerives, hSegment⟩ := (h part List.mem_cons_self).segment
      cases rest with
      | nil => exact ⟨kinds, .one hDerives, by simpa using hSegment⟩
      | cons other others =>
          obtain ⟨kinds', hDerives', hSegment'⟩ :=
            ih (fun part hMem => h part (List.mem_cons_of_mem _ hMem)) (List.cons_ne_nil _ _)
          refine ⟨_, .more hDerives hDerives', ?_⟩
          have hRest := Segment.comma.append hSegment' fun _ _ _ => rfl
          have hAll := hSegment.append hRest fun follow d hd => by
            obtain rfl : ',' = d := by simpa using hd
            decide +kernel
          simpa [String.append_assoc] using hAll

/-- A call of a known function, its name in any letter case, is read with its arguments. -/
theorem Closed.call {parts : List (String × Expr)} (h : ∀ part ∈ parts, Closed part.1 part.2)
    {f : Function} {name : String} (hName : name.toUpper = f.name) :
    Phrase .primary (name ++ ("(" ++ ",".intercalate (parts.map Prod.fst) ++ ")"))
      (.call f.name (parts.map Prod.snd)) := by
  have hWord := Segment.functionName hName
  by_cases hSome : parts = []
  · subst hSome
    have hNone : Segment separates "" [] := fun _ _ _ hSpells => by simpa using hSpells
    exact ⟨_, .emptyCall rfl, hWord.called hNone⟩
  · obtain ⟨kinds, hDerives, hSegment⟩ := Closed.arguments h hSome
    exact ⟨_, .call rfl hDerives, hWord.called hSegment⟩

/-- A call of `AND` or `OR` is read as the chain of its arguments. -/
theorem Closed.logicalCall {first second : String × Expr} {rest : List (String × Expr)}
    (h : ∀ part ∈ first :: second :: rest, Closed part.1 part.2) (op : LogicalOp) :
    Phrase .primary
      (op.symbol ++ ("(" ++ ",".intercalate ((first :: second :: rest).map Prod.fst) ++ ")"))
      ((rest.map Prod.snd).foldl (.logical op) (.logical op first.2 second.2)) := by
  obtain ⟨kinds, hDerives, hSegment⟩ := Closed.arguments h (List.cons_ne_nil _ _)
  exact ⟨_, .logicalCall hDerives, (Infix.logical op).segment.called hSegment⟩

/-- Around formulas that do not end in a string without its closing quote, every form of the syntax
is read as the tree that it writes: groups, operators in front and between with any blanks around
them, calls of functions whose names are in any case, and calls of logical operators, which are
the same as the operator between all arguments. -/
theorem formulas_compose {parts : List (String × Expr)}
    (h : ∀ part ∈ parts, Closed part.1 part.2) :
    (∀ part ∈ parts, Expr.parse ("(" ++ part.1 ++ ")") = .ok part.2 ∧
      ∀ op : UnaryOp,
        Expr.parse (op.symbol ++ ("(" ++ part.1 ++ ")")) = .ok (.unary op part.2)) ∧
    (∀ before after : String, isAllBlank before = true → isAllBlank after = true →
      ∀ left ∈ parts, ∀ right ∈ parts, ∀ op : Infix,
        Expr.parse
            ("(" ++ left.1 ++ ")" ++ (before ++ op.symbol ++ after) ++ ("(" ++ right.1 ++ ")")) =
          .ok (Expr.join op left.2 right.2)) ∧
    (∀ (f : Function) (name : String), name.toUpper = f.name →
      Expr.parse (name ++ ("(" ++ ",".intercalate (parts.map Prod.fst) ++ ")")) =
        .ok (.call f.name (parts.map Prod.snd))) ∧
    ∀ first second rest, parts = first :: second :: rest → ∀ op : LogicalOp,
      let e := (rest.map Prod.snd).foldl (.logical op) (.logical op first.2 second.2)
      Expr.parse (op.symbol ++ ("(" ++ ",".intercalate (parts.map Prod.fst) ++ ")")) = .ok e ∧
      ∀ before after : String, isAllBlank before = true → isAllBlank after = true →
        Expr.parse ((before ++ op.symbol ++ after).intercalate
          (parts.map fun part => "(" ++ part.1 ++ ")")) = .ok e := by
  refine ⟨fun part hPart => ⟨?group, fun op => ?unary⟩, ?infixOp, ?call, ?logical⟩
  case group => exact ((h part hPart).group .primary).parse
  case unary => exact ((h part hPart).unary op).parse
  case infixOp =>
    intro before after hBefore hAfter left hLeft right hRight op
    obtain ⟨level, hOp⟩ := op.exists_level
    exact ((h right hRight).infixOp hOp ((h left hLeft).group level) hBefore hAfter).parse
  case call =>
    intro f name hName
    exact (Closed.call h hName).parse
  case logical =>
    rintro first second rest rfl op e
    refine ⟨(Closed.logicalCall h op).parse, fun before after hBefore hAfter => ?_⟩
    obtain ⟨level, hOp⟩ := (Infix.logical op).exists_level
    have hFirst := (h first List.mem_cons_self).group level
    have hChain := hFirst.chain hOp hBefore hAfter fun part hMem =>
      h part (List.mem_cons_of_mem first hMem)
    exact hChain.parse

/-- A comparison and a negation, with a logical operator between them without blanks, as arguments
and in a chain. -/
theorem formulas_compose_mixed :
    let e : Expr := .binary (.comparison .equal) (.field "a") (.text "'")
    let e' : Expr := .unary .negate (.field "b")
    Closed "\x7ba\x7d='\\''" e ∧ Closed "-\x7bb\x7d\t" e' ∧
      Expr.parse "(-\x7bb\x7d\t)AND(\x7ba\x7d='\\'')" = .ok (.logical .and e' e) ∧
      Expr.parse "conCat(\x7ba\x7d='\\'',-\x7bb\x7d\t)" = .ok (.call "CONCAT" [e, e']) ∧
      Expr.parse "OR(\x7ba\x7d='\\'',-\x7bb\x7d\t)" = .ok (.logical .or e e') ∧
      Expr.parse "(\x7ba\x7d='\\'') OR (-\x7bb\x7d\t)" = .ok (.logical .or e e') := by
  intro e e'
  have hFirst : Closed "\x7ba\x7d='\\''" e := by
    have hLex : Token.lex "\x7ba\x7d='\\''" = .ok
        ([⟨.field "a" true, "\x7ba\x7d", 0⟩, ⟨.operator (.comparison .equal), "=", 3⟩] ++
          [⟨.string "'", "'\\''", 4⟩, ⟨.finish, "", 8⟩]) :=
      Token.lex_eq_ok_of_toOption (by decide +kernel)
    exact .of_lex hLex (Expr.parse_of_lex hLex) (by decide)
  have hSecond : Closed "-\x7bb\x7d\t" e' := by
    have hLex : Token.lex "-\x7bb\x7d\t" = .ok
        ([⟨.operator (.arithmetic .subtract), "-", 0⟩] ++
          [⟨.field "b" true, "\x7bb\x7d", 1⟩, ⟨.finish, "", 5⟩]) :=
      Token.lex_eq_ok_of_toOption (by decide +kernel)
    exact .of_lex hLex (Expr.parse_of_lex hLex) rfl
  let parts : List (String × Expr) := [("\x7ba\x7d='\\''", e), ("-\x7bb\x7d\t", e')]
  have h : ∀ part ∈ parts, Closed part.1 part.2 := by
    simp [parts, hFirst, hSecond]
  obtain ⟨-, hInfix, hCall, hLogical⟩ := formulas_compose h
  have hAnd := hInfix "" "" rfl rfl ("-\x7bb\x7d\t", e') (by simp [parts])
    ("\x7ba\x7d='\\''", e) (by simp [parts]) (.logical .and)
  have hName : "conCat".toUpper = (Function.text .concat).name := by
    rw [← String.toList_inj, String.toUpper, String.toList_map]
    decide
  have hConcat := hCall (.text .concat) "conCat" hName
  obtain ⟨hOr, hChain⟩ := hLogical _ _ [] rfl .or
  have hSpaced := hChain " " " " rfl rfl
  exact ⟨hFirst, hSecond, by simpa [parts, Infix.symbol, LogicalOp.symbol, Expr.join] using hAnd,
    by simpa [parts, Function.name, Function.signature, TextFunction.signature] using hConcat,
    by simpa [parts, LogicalOp.symbol] using hOr,
    by simpa [parts, Infix.symbol, LogicalOp.symbol] using hSpaced⟩

end RowFormula
