import RowFormula.Formula.Function.Apply
import RowFormula.Proofs.Number.Truncation
import RowFormula.Proofs.Text.Occurrence

/-! Replacing a word in a text. The occurrences are those at which the word divides the text, and to
replace all of them at once is to replace one after the other from the last to the first: a
replacement does not change what is found in front of it. -/
namespace RowFormula

namespace Text

variable {old new text : List Char} {front back : List (List Char)}

/-- The word between two stretches joins them. -/
theorem intercalate_append_pair (word a b : List Char) (front : List (List Char)) :
    word.intercalate (front ++ [a, b]) = word.intercalate (front ++ [a ++ word ++ b]) := by
  induction front with
  | nil => simp [List.intercalate_cons_cons]
  | cons c front ih =>
      rw [List.cons_append, List.cons_append, List.intercalate_cons_of_ne_nil (by simp),
        List.intercalate_cons_of_ne_nil (by simp), ih]

theorem intercalate_append_last (word a b : List Char) (front : List (List Char)) :
    word.intercalate (front ++ [a]) ++ b = word.intercalate (front ++ [a ++ b]) := by
  induction front with
  | nil => simp
  | cons c front ih =>
      rw [List.cons_append, List.cons_append, List.intercalate_cons_of_ne_nil (by simp),
        List.intercalate_cons_of_ne_nil (by simp), List.append_assoc, ih]

/-- There are no more occurrences than characters. -/
theorem Divides.length_le {first : List Char} {rest : List (List Char)}
    (h : Divides old text (first :: rest)) (hOld : old ≠ []) : rest.length ≤ text.length := by
  induction rest generalizing text first with
  | nil => exact Nat.zero_le _
  | cons second rest ih =>
      have hPos : 0 < old.length := List.length_pos_iff.mpr hOld
      cases h with
      | next _ hRest =>
          have hLength := ih hRest
          simp only [List.length_append, List.length_cons]
          omega

/-- Replacing an occurrence leaves the stretches in front of it, whatever stands behind. -/
theorem replaceNth_append {stretch : List Char} (hOld : old ≠ [])
    (h : Divides old text (front ++ stretch :: back)) (hBack : back ≠ []) (tail : List Char) :
    replaceNth old new (front.length + 1) (old.intercalate (front ++ [stretch, tail])) =
      old.intercalate (front ++ [stretch ++ new ++ tail]) := by
  have hTail := divides_between hOld tail
  have hSplit : Divides old text (front ++ [stretch] ++ back) := by simpa using h
  have hStretches := (hSplit.retail hBack hTail).eq_between hOld
  rw [List.append_assoc front [stretch] [tail], List.singleton_append] at hStretches
  have hSome : 0 < (between old tail).length := List.length_pos_iff.mpr hTail.ne_nil
  have hCount : (front ++ [stretch]).length = front.length + 1 := by simp
  have hFound : ¬(front.length + 1 = 0 ∨
      (front ++ [stretch] ++ between old tail).length ≤ front.length + 1) := by
    rw [List.length_append, hCount]
    omega
  simp only [replaceNth, ← hStretches]
  rw [if_neg hFound, List.take_left' hCount, List.drop_left' hCount, hTail.intercalate,
    intercalate_append_last, intercalate_append_last]

end Text

namespace TextFunction

open Argument (countLimit)
open Number (whole?)
open Text (Divides replaceAll replaceNth)
open Time (Instant)

/-- A text with every occurrence of a word replaced. -/
def substituted (now : Instant) (text old new : String) : Outcome Value :=
  Function.call now (.text .substitute) [.text text, .text old, .text new]

/-- A value with one occurrence replaced, the one of a given number. -/
def substitutedAt (now : Instant) (old new : String) (number : Float) (value : Value) :
    Outcome Value :=
  Function.call now (.text .substitute) [value, .text old, .text new, .number number]

/-- A value with one occurrence after the other replaced, down from the one of a given number. -/
def substitutedDown (now : Instant) (old new : String) (numbers : ℕ → Float) :
    ℕ → Value → Outcome Value
  | 0, value => .ok value
  | n + 1, value => do
    let next ← substitutedAt now old new (numbers (n + 1)) value
    substitutedDown now old new numbers n next

section Calls

variable {old : String} (hOld : old ≠ "") (now : Instant) (new : String)

include hOld

theorem toList_ne_nil : old.toList ≠ [] := mt String.toList_eq_nil_iff.mp hOld

theorem substituted_eq (text : String) : substituted now text old new =
    .ok (textOf (replaceAll old.toList new.toList text.toList)) := by
  change TextFunction.apply .substitute [.text text, .text old, .text new] = _
  simp [apply, Argument.chars, Argument.text, Value.toText, hOld]

/-- Replacing one occurrence, where the number can be taken for a place. -/
theorem substitutedAt_eq {number : Float} {k : WithBot (WithTop ℤ)}
    (hWhole : whole? number = some k) (cs : List Char) :
    substitutedAt now old new number (textOf cs) =
      (Argument.toPlace number).map fun n =>
        textOf (replaceNth old.toList new.toList n cs) := by
  have hNumber := Argument.toNumber_number hWhole
  change TextFunction.apply .substitute [textOf cs, .text old, .text new, .number number] = _
  simp only [apply, Argument.chars, Argument.text, Argument.number, textOf, Value.toText,
    String.toList_ofList, List.getElem?_cons_zero, List.getElem?_cons_succ, hNumber,
    String.toList_eq_nil_iff, hOld, List.length_cons, List.length_nil]
  rfl

end Calls

section Stretches

variable {text old : String} (hOld : old ≠ "") (now : Instant) (new : String)
  {first : List Char} {rest : List (List Char)}
  (h : Divides old.toList text.toList (first :: rest))

include hOld h

/-- The numbers of the occurrences, and the numbers beyond them. -/
theorem substitutedAt_of_divides (hSize : text.utf8ByteSize < 2 ^ 63) {number : Float}
    {k : WithBot (WithTop ℤ)} (hWhole : whole? number = some k) :
    (k < 1 → substitutedAt now old new number (.text text) = .error .wrongType) ∧
    (∀ n : ℕ, 1 ≤ n → n ≤ rest.length → k = n →
      substitutedAt now old new number (.text text) =
        .ok (textOf (old.toList.intercalate ((first :: rest).take n) ++ new.toList ++
          old.toList.intercalate ((first :: rest).drop n)))) ∧
    (rest.length < k → substitutedAt now old new number (.text text) = .ok (.text text)) := by
  have hFew := Argument.length_lt_countLimit hSize
  have hMost := h.length_le (toList_ne_nil hOld)
  have hCall := substitutedAt_eq hOld now new hWhole text.toList
  rw [textOf, String.ofList_toList] at hCall
  rw [hCall]
  refine ⟨fun hLess => ?_, fun n hOne hn hk => ?_, fun hBeyond => ?_⟩
  · rw [Argument.toPlace_of_lt_one hWhole hLess]
    rfl
  · subst hk
    rw [Argument.toPlace_of_natCast hWhole hOne, min_eq_right (by omega), Except.map, replaceNth,
      ← h.eq_between (toList_ne_nil hOld), if_neg (by rw [List.length_cons]; omega)]
  · obtain ⟨n, hPlace, -, hCompare⟩ :=
      Argument.exists_toPlace hWhole (Argument.one_le_of_natCast_lt hBeyond)
    have hMany : ¬n ≤ rest.length := mt (hCompare rest.length (by omega)).mp hBeyond.not_ge
    rw [hPlace, Except.map, replaceNth, ← h.eq_between (toList_ne_nil hOld),
      if_pos (by rw [List.length_cons]; omega), textOf, String.ofList_toList]

end Stretches

/-- Down from an occurrence all are replaced up to it. What stands behind may have changed before
that. -/
theorem substitutedDown_eq {old : String} (hOld : old ≠ "") (now : Instant) (new : String)
    {numbers : ℕ → Float} {text : List Char} {front back : List (List Char)}
    (h : Divides old.toList text (front ++ back)) (hBack : back ≠ [])
    (hFew : front.length < countLimit)
    (hNumbers : ∀ n, 1 ≤ n → n ≤ front.length → whole? (numbers n) = some n) (tail : List Char) :
    substitutedDown now old new numbers front.length
        (textOf (old.toList.intercalate (front ++ [tail]))) =
      .ok (textOf (new.toList.intercalate (front ++ [tail]))) := by
  induction front using List.reverseRecOn generalizing back tail with
  | nil => simp [substitutedDown]
  | append_singleton front stretch ih =>
      rw [List.length_append, List.length_singleton] at hFew hNumbers
      rw [List.append_assoc, List.singleton_append] at h
      have hNumber := hNumbers (front.length + 1) (by omega) le_rfl
      have hStep : substitutedAt now old new (numbers (front.length + 1))
          (textOf (old.toList.intercalate (front ++ [stretch, tail]))) =
          .ok (textOf (old.toList.intercalate (front ++ [stretch ++ new.toList ++ tail]))) := by
        rw [substitutedAt_eq hOld now new hNumber, Argument.toPlace_of_natCast hNumber (by omega),
          min_eq_right hFew.le, Except.map, Text.replaceNth_append (toList_ne_nil hOld) h hBack]
      have hRest := ih h (List.cons_ne_nil _ _) (by omega)
        (fun n hOne hn => hNumbers n hOne (by omega)) (stretch ++ new.toList ++ tail)
      rw [List.append_assoc, List.singleton_append, List.length_append, List.length_singleton,
        substitutedDown, hStep, Text.intercalate_append_pair]
      exact hRest

/-- A word divides a text in one way, and replacing goes by its occurrences there. Without a number
all are replaced. The whole part of a number says which one is: there is none below one, and beyond
the last one nothing changes. Replaced one by one, from the last to the first, they are all
replaced. The text is any that fits in memory. -/
theorem substitution_by_occurrences (now : Instant) {text old : String} (hOld : old ≠ "")
    (hSize : text.utf8ByteSize < 2 ^ 63) (new : String) :
    (∃! stretches, Divides old.toList text.toList stretches) ∧
    ∀ first rest, Divides old.toList text.toList (first :: rest) →
      substituted now text old new = .ok (textOf (new.toList.intercalate (first :: rest))) ∧
      (∀ number k, whole? number = some k →
        (k < 1 → substitutedAt now old new number (.text text) = .error .wrongType) ∧
        (∀ n : ℕ, 1 ≤ n → n ≤ rest.length → k = n →
          substitutedAt now old new number (.text text) =
            .ok (textOf (old.toList.intercalate ((first :: rest).take n) ++ new.toList ++
              old.toList.intercalate ((first :: rest).drop n)))) ∧
        (rest.length < k → substitutedAt now old new number (.text text) = .ok (.text text))) ∧
      ∀ numbers : ℕ → Float, (∀ n, 1 ≤ n → n ≤ rest.length → whole? (numbers n) = some n) →
        substitutedDown now old new numbers rest.length (.text text) =
          substituted now text old new := by
  have hWord := toList_ne_nil hOld
  refine ⟨⟨_, Text.divides_between hWord _, fun _ h => h.eq_between hWord⟩, fun first rest h => ?_⟩
  have hAll : substituted now text old new =
      .ok (textOf (new.toList.intercalate (first :: rest))) := by
    rw [substituted_eq hOld, replaceAll, ← h.eq_between hWord]
  refine ⟨hAll, fun number k => substitutedAt_of_divides hOld now new h hSize,
    fun numbers hNumbers => ?_⟩
  have hFew := Argument.length_lt_countLimit hSize
  have hMost := h.length_le hWord
  have hEnd := List.dropLast_append_getLast (List.cons_ne_nil first rest)
  have hLength : (first :: rest).dropLast.length = rest.length := by simp
  have hText := h.intercalate
  rw [← hEnd] at h hText
  rw [← hLength] at hNumbers
  have hDown := substitutedDown_eq hOld now new h (List.cons_ne_nil _ _) (by omega) hNumbers
    ((first :: rest).getLast (List.cons_ne_nil _ _))
  rw [hText, hLength, hEnd, textOf, String.ofList_toList] at hDown
  rw [hDown, hAll]

/-- Occurrences that overlap are not both there, and the replacement has the word in it. -/
theorem substitution_by_occurrences_overlapping :
    let text := "ababab-aba"
    let endless := Float.ofBits 0x7FF0000000000000
    (("aba" ≠ "" ∧ text.utf8ByteSize < 2 ^ 63) ∧
      Divides "aba".toList text.toList ([] :: [['b', 'a', 'b', '-'], []]) ∧
      whole? endless = some ⊤ ∧ ∀ n : ℕ, 1 ≤ n → n ≤ 2 → whole? (Number.ofInt n) = some n) ∧
    substituted .epoch text "aba" "äaba" = .ok (.text "äababab-äaba") ∧
    substitutedAt .epoch "aba" "äaba" (Number.ofInt 2) (.text text) = .ok (.text "ababab-äaba") ∧
    substitutedAt .epoch "aba" "äaba" endless (.text text) = .ok (.text text) ∧
    substitutedDown .epoch "aba" "äaba" (fun n => Number.ofInt n) 2 (.text text) =
      substituted .epoch text "aba" "äaba" := by
  intro text endless
  have hOld : "aba" ≠ "" := by decide
  have hSize : text.utf8ByteSize < 2 ^ 63 := by decide
  have hDivides : Divides "aba".toList text.toList ([] :: [['b', 'a', 'b', '-'], []]) := by
    have hBetween : Text.between "aba".toList text.toList = [[], ['b', 'a', 'b', '-'], []] := by
      decide +kernel
    exact hBetween ▸ Text.divides_between (toList_ne_nil hOld) text.toList
  have hEndless : whole? endless = some ⊤ := Number.whole?_infinity
  have hNumbers : ∀ n : ℕ, 1 ≤ n → n ≤ 2 → whole? (Number.ofInt n) = some n := by
    intro n _ hn
    have hSmall : (n : ℤ).natAbs ≤ Number.exactLimit := hn.trans (by decide)
    exact (Number.holds_ofInt hSmall).whole?_eq
  obtain ⟨hAll, hAt, hDown⟩ :=
    (substitution_by_occurrences .epoch hOld hSize "äaba").2 _ _ hDivides
  have hSecond := (hAt _ _ (hNumbers 2 (by decide) le_rfl)).2.1 2 (by decide) le_rfl rfl
  exact ⟨⟨⟨hOld, hSize⟩, hDivides, hEndless, hNumbers⟩,
    hAll.trans (congrArg Except.ok (by decide +kernel)),
    hSecond.trans (congrArg Except.ok (by decide +kernel)),
    (hAt _ _ hEndless).2.2 (WithBot.coe_lt_coe.mpr (WithTop.coe_lt_top _)), hDown _ hNumbers⟩

end TextFunction

end RowFormula
