import Mathlib.Data.List.Find
import Mathlib.Data.List.TakeWhile
import RowFormula.Proofs.Text.Run
import RowFormula.Time.Writing

/-! Brackets in patterns. A bracket separates a pattern: what stands in front of it and what stands
behind it are written as if each stood alone. What stands inside is copied, but without the opening
brackets that it begins with. -/
namespace RowFormula.Time

namespace Pattern

/-- A word does not reach beyond a character that it does not have. -/
theorem isPrefixOf_append_of_notMem {c : Char} {word : List Char} (h : c ∉ word)
    (text rest : List Char) : word.isPrefixOf (text ++ c :: rest) = word.isPrefixOf text := by
  induction word generalizing text with
  | nil => rfl
  | cons first word ih =>
      rw [List.mem_cons, not_or] at h
      cases text with
      | nil => simp [List.isPrefixOf, Ne.symm h.1]
      | cons other text => rw [List.cons_append, List.isPrefixOf, List.isPrefixOf, ih h.2]

/-- No word of a pattern has a bracket. -/
theorem bracket_notMem_words : ∀ word ∈ words, '[' ∉ word.1.toList := by decide

/-- A piece does not reach beyond a bracket. -/
theorem pieceAt_append_bracket {c : Char} (h : c ≠ '[') (rest more : List Char) :
    pieceAt c (rest ++ '[' :: more) = pieceAt c rest := by
  have hWords : (words.find? fun word => word.1.toList.isPrefixOf (c :: (rest ++ '[' :: more))) =
      words.find? fun word => word.1.toList.isPrefixOf (c :: rest) :=
    List.find?_congr fun word hMem =>
      isPrefixOf_append_of_notMem (bracket_notMem_words word hMem) (c :: rest) more
  rw [pieceAt, pieceAt, if_neg (fun hOpen => h hOpen.1), if_neg (fun hOpen => h hOpen.1), hWords]

/-- A piece ends within the pattern. -/
theorem pieceAt_le_length {c : Char} (h : c ≠ '[') (rest : List Char) :
    (pieceAt c rest).2 ≤ rest.length := by
  rw [pieceAt, if_neg (fun hOpen => h hOpen.1)]
  split
  · rename_i word part hFound
    have hPrefix : word.toList.isPrefixOf (c :: rest) = true :=
      List.find?_some (p := fun word : String × Part => word.1.toList.isPrefixOf (c :: rest)) hFound
    have hFits := (List.isPrefixOf_iff_prefix.mp hPrefix).length_le
    rw [String.length_toList, List.length_cons] at hFits
    exact Nat.sub_le_of_le_add hFits
  · exact Nat.zero_le _

/-- A pattern is its first piece and the pieces of what is left. -/
theorem pieces_cons (c : Char) (rest : List Char) :
    pieces (c :: rest) = (pieceAt c rest).1 :: pieces (rest.drop (pieceAt c rest).2) := by
  rw [pieces]

/-- A bracket cuts a pattern in two. -/
theorem pieces_append_bracket {p : List Char} (h : '[' ∉ p) (rest : List Char) :
    pieces (p ++ '[' :: rest) = pieces p ++ pieces ('[' :: rest) := by
  induction p using pieces.induct with
  | case1 => simp [pieces]
  | case2 c p ih =>
      rw [List.mem_cons, not_or] at h
      have hTail : '[' ∉ p.drop (pieceAt c p).2 := fun hMem => h.2 (List.mem_of_mem_drop hMem)
      rw [List.cons_append, pieces_cons c, pieceAt_append_bracket (Ne.symm h.1),
        List.drop_append_of_le_length (pieceAt_le_length (Ne.symm h.1) p), ih hTail,
        pieces_cons c p, List.cons_append]

/-- What stands in brackets is one piece. -/
theorem pieces_bracketed {w : List Char} (h : ']' ∉ w) (q : List Char) :
    pieces ('[' :: (w ++ ']' :: q)) = .block w :: pieces q := by
  have hInside : ∀ c ∈ w, (decide (c ≠ ']')) = true := fun c hMem =>
    decide_eq_true (fun hSame => h (hSame ▸ hMem))
  have hPiece : pieceAt '[' (w ++ ']' :: q) = (.block w, w.length + 1) := by
    rw [pieceAt, if_pos (by simp), Text.takeWhile_run hInside (by simp)]
  rw [pieces_cons, hPiece]
  simp

end Pattern

/-- The parts around brackets are written as if each stood alone. -/
theorem Instant.formatChars_bracketed (t : Instant) {p w : List Char} (hp : '[' ∉ p) (hw : ']' ∉ w)
    (q : List Char) : t.formatChars (p ++ '[' :: (w ++ ']' :: q)) =
      t.formatChars p ++ w.dropWhile (· = '[') ++ t.formatChars q := by
  simp only [formatChars, Pattern.pieces_append_bracket hp, Pattern.pieces_bracketed hw,
    List.flatMap_append, List.flatMap_cons, Pattern.Piece.write, List.append_assoc]

/-- Brackets separate a pattern. What stands inside is written without the opening brackets that it
begins with, so it is copied exactly where it begins with none. -/
theorem format_bracketed (t : Instant) {p w : String} (hp : '[' ∉ p.toList) (hw : ']' ∉ w.toList)
    (q : String) :
    t.format (p ++ "[" ++ w ++ "]" ++ q) =
        t.format p ++ String.ofList (w.toList.dropWhile (· = '[')) ++ t.format q ∧
      (t.format (p ++ "[" ++ w ++ "]" ++ q) = t.format p ++ w ++ t.format q ↔
        w.toList.head? ≠ some '[') := by
  have hWritten : t.format (p ++ "[" ++ w ++ "]" ++ q) =
      t.format p ++ String.ofList (w.toList.dropWhile (· = '[')) ++ t.format q := by
    have hPattern : (p ++ "[" ++ w ++ "]" ++ q).toList =
        p.toList ++ '[' :: (w.toList ++ ']' :: q.toList) := by simp
    rw [Instant.format, hPattern, t.formatChars_bracketed hp hw]
    simp only [Instant.format, String.ofList_append]
  refine ⟨hWritten, ?_⟩
  rw [hWritten, ← String.toList_inj]
  simp only [String.toList_append, String.toList_ofList, List.append_assoc,
    List.append_cancel_left_eq, List.append_cancel_right_eq, List.dropWhile_eq_self_iff]
  cases w.toList <;> simp

/-- Of two brackets that open together neither is written. -/
theorem format_bracketed_hour :
    Instant.epoch.format ("HH" ++ "[" ++ "[h" ++ "]" ++ "mm") =
        Instant.epoch.format "HH" ++ "h" ++ Instant.epoch.format "mm" ∧
      Instant.epoch.format ("HH" ++ "[" ++ "[h" ++ "]" ++ "mm") ≠
        Instant.epoch.format "HH" ++ "[h" ++ Instant.epoch.format "mm" := by
  obtain ⟨hWritten, hCopied⟩ :=
    format_bracketed .epoch (p := "HH") (w := "[h") (by decide) (by decide) "mm"
  exact ⟨hWritten, fun h => hCopied.mp h (by decide)⟩

/-- The last of January 2024, in a pattern that has nothing to fill in. -/
theorem bracket_not_copied :
    let t : Instant := ⟨19753, 0, 0, by decide, by decide, by decide, by decide, by decide⟩
    '[' ∉ "".toList ∧ ']' ∉ "[x".toList ∧
      t.format ("" ++ "[" ++ "[x" ++ "]" ++ "") = "x" ∧
      t.format ("" ++ "[" ++ "[x" ++ "]" ++ "") ≠ t.format "" ++ "[x" ++ t.format "" := by
  decide +kernel

end RowFormula.Time
