import Mathlib.Data.List.Infix
import RowFormula.Text.Search

/-! Occurrences of a word in a text. The search finds the first one, and a text is divided at the
occurrences that are found one after the other. What stands behind an occurrence has no part in
whether it is found. -/
namespace RowFormula.Text

/-- The word stands in the text behind its first `n` characters. -/
def OccursAt (word text : List Char) (n : ℕ) : Prop := n ≤ text.length ∧ word <+: text.drop n

/-- The stretches of a text between the occurrences of a word. Each occurrence is the first one that
starts at or after the end of the one before, and the last stretch has none. -/
inductive Divides (word : List Char) : List Char → List (List Char) → Prop
  | last {text} (none : ∀ n, ¬OccursAt word text n) : Divides word text [text]
  | next {before after stretches}
      (first : ∀ n < before.length, ¬OccursAt word (before ++ word ++ after) n)
      (rest : Divides word after stretches) :
      Divides word (before ++ word ++ after) (before :: stretches)

variable {word text : List Char}

theorem occursAt_zero_iff : OccursAt word text 0 ↔ word <+: text :=
  and_iff_right (Nat.zero_le _)

theorem occursAt_cons_succ_iff {c : Char} {n : ℕ} :
    OccursAt word (c :: text) (n + 1) ↔ OccursAt word text n :=
  and_congr_left fun _ => Nat.add_le_add_iff_right

/-- What is skipped counts for the place of an occurrence. -/
theorem occursAt_drop_iff {skipped n : ℕ} (h : skipped ≤ text.length) :
    OccursAt word (text.drop skipped) n ↔ OccursAt word text (skipped + n) := by
  rw [OccursAt, OccursAt, List.length_drop, List.drop_drop, Nat.le_sub_iff_add_le' h]

theorem occursAt_length (before word after : List Char) :
    OccursAt word (before ++ word ++ after) before.length := by
  rw [OccursAt, List.append_assoc, List.drop_left]
  exact ⟨by simp, List.prefix_append word after⟩

theorem afterWord?_append (word rest : List Char) : afterWord? word (word ++ rest) = some rest := by
  induction word with
  | nil => rw [List.nil_append, afterWord?]
  | cons c word ih => rw [List.cons_append, afterWord?, if_pos rfl, ih]

/-- There is no rest exactly where the word does not come first. -/
theorem afterWord?_eq_none_iff : afterWord? word text = none ↔ ¬word <+: text := by
  constructor
  · rintro h ⟨rest, rfl⟩
    rw [afterWord?_append] at h
    cases h
  · intro h
    rw [Option.eq_none_iff_forall_ne_some]
    intro rest hRest
    exact h ⟨rest, (eq_append_of_afterWord? hRest).symm⟩

theorem not_occursAt_of_splitAt?_eq_none (h : splitAt? word text = none) (n : ℕ) :
    ¬OccursAt word text n := by
  fun_induction splitAt? word text generalizing n with
  | case1 hEmpty => cases h
  | case2 hSome =>
      rintro ⟨-, hPrefix⟩
      rw [List.drop_nil, List.prefix_nil] at hPrefix
      exact hSome hPrefix
  | case3 => cases h
  | case4 c cs hNone ih =>
      rw [Option.map_eq_none_iff] at h
      cases n with
      | zero => rwa [occursAt_zero_iff, ← afterWord?_eq_none_iff]
      | succ n => rw [occursAt_cons_succ_iff]; exact ih h n

/-- The occurrence at which a text is split is the first one. -/
theorem not_occursAt_of_splitAt?_eq_some {before after : List Char}
    (h : splitAt? word text = some (before, after)) :
    ∀ n < before.length, ¬OccursAt word text n := by
  fun_induction splitAt? word text generalizing before with
  | case1 hEmpty => cases h; exact nofun
  | case2 hSome => cases h
  | case3 => cases h; exact nofun
  | case4 c cs hNone ih =>
      obtain ⟨⟨others, rest⟩, hSplit, hBefore⟩ := Option.map_eq_some_iff.mp h
      obtain ⟨rfl, rfl⟩ := Prod.mk.inj hBefore
      intro n hn
      cases n with
      | zero => rwa [occursAt_zero_iff, ← afterWord?_eq_none_iff]
      | succ n =>
          rw [occursAt_cons_succ_iff]
          exact ih hSplit n (Nat.lt_of_succ_lt_succ hn)

/-- There is one first occurrence only. -/
theorem eq_of_first {m n : ℕ} (hm : OccursAt word text m) (hn : OccursAt word text n)
    (hFirstM : ∀ j < m, ¬OccursAt word text j) (hFirstN : ∀ j < n, ¬OccursAt word text j) :
    m = n :=
  le_antisymm (not_lt.mp fun hLt => hFirstM n hLt hn) (not_lt.mp fun hLt => hFirstN m hLt hm)

/-- The text is split at the first occurrence. -/
theorem splitAt?_of_first {before after : List Char}
    (first : ∀ n < before.length, ¬OccursAt word (before ++ word ++ after) n) :
    splitAt? word (before ++ word ++ after) = some (before, after) := by
  have hOccurs := occursAt_length before word after
  cases hSplit : splitAt? word (before ++ word ++ after) with
  | none => exact absurd hOccurs (not_occursAt_of_splitAt?_eq_none hSplit _)
  | some parts =>
      obtain ⟨others, rest⟩ := parts
      have hText := eq_append_of_splitAt? hSplit
      have hFirst := not_occursAt_of_splitAt?_eq_some hSplit
      have hOther := occursAt_length others word rest
      rw [← hText] at hOther
      have hLength := eq_of_first hOccurs hOther first hFirst
      rw [List.append_assoc, List.append_assoc] at hText
      obtain ⟨rfl, hRest⟩ := List.append_inj hText hLength
      rw [List.append_cancel_left hRest]

/-- The place that is found is the first one at which the word occurs. -/
theorem indexOf?_eq_some_iff {n : ℕ} : indexOf? word text = some n ↔
    OccursAt word text n ∧ ∀ j < n, ¬OccursAt word text j := by
  constructor
  · intro h
    obtain ⟨⟨before, after⟩, hSplit, rfl⟩ := Option.map_eq_some_iff.mp h
    refine ⟨?_, not_occursAt_of_splitAt?_eq_some hSplit⟩
    rw [eq_append_of_splitAt? hSplit]
    exact occursAt_length before word after
  · rintro ⟨⟨hInside, rest, hRest⟩, hFirst⟩
    obtain ⟨before, rfl, rfl⟩ : ∃ before, text = before ++ word ++ rest ∧ before.length = n := by
      refine ⟨text.take n, ?_, List.length_take_of_le hInside⟩
      rw [List.append_assoc, hRest, List.take_append_drop]
    rw [indexOf?, splitAt?_of_first hFirst, Option.map_some]

/-- No place is found exactly where the word does not occur. -/
theorem indexOf?_eq_none_iff : indexOf? word text = none ↔ ∀ n, ¬OccursAt word text n := by
  constructor
  · intro h
    exact not_occursAt_of_splitAt?_eq_none (Option.map_eq_none_iff.mp h)
  · intro h
    rw [Option.eq_none_iff_forall_ne_some]
    exact fun n hn => h n (indexOf?_eq_some_iff.mp hn).1

section Divides

variable (hWord : word ≠ [])

include hWord

theorem between_of_none (h : ∀ n, ¬OccursAt word text n) : between word text = [text] := by
  have hSplit : splitAt? word text = none := Option.map_eq_none_iff.mp (indexOf?_eq_none_iff.mpr h)
  rw [between, dif_neg hWord]
  split
  · rfl
  · rename_i hSome
    rw [hSplit] at hSome
    cases hSome

theorem between_of_first {before after : List Char}
    (first : ∀ n < before.length, ¬OccursAt word (before ++ word ++ after) n) :
    between word (before ++ word ++ after) = before :: between word after := by
  have hSplit := splitAt?_of_first first
  rw [between, dif_neg hWord]
  split
  · rename_i hNone
    rw [hSplit] at hNone
    cases hNone
  · rename_i hSome
    rw [hSplit] at hSome
    cases hSome
    rfl

/-- A text is divided in one way. -/
theorem Divides.eq_between {stretches : List (List Char)} (h : Divides word text stretches) :
    stretches = between word text := by
  induction h with
  | last hNone => rw [between_of_none hWord hNone]
  | next first _ ih => rw [between_of_first hWord first, ← ih]

/-- Every text is divided by a word. -/
theorem divides_between (text : List Char) : Divides word text (between word text) := by
  fun_induction between word text with
  | case1 text hEmpty => exact absurd hEmpty hWord
  | case2 text _ hNone => exact .last (not_occursAt_of_splitAt?_eq_none hNone)
  | case3 text _ before after hSome ih =>
      have first := not_occursAt_of_splitAt?_eq_some hSome
      obtain rfl := eq_append_of_splitAt? hSome
      exact .next first ih

end Divides

theorem Divides.ne_nil {stretches : List (List Char)} (h : Divides word text stretches) :
    stretches ≠ [] := by
  cases h <;> exact List.cons_ne_nil _ _

/-- The word between the stretches makes the text again. -/
theorem Divides.intercalate {stretches : List (List Char)} (h : Divides word text stretches) :
    word.intercalate stretches = text := by
  induction h with
  | last => exact List.intercalate_singleton
  | next _ hRest ih => rw [List.intercalate_cons_of_ne_nil hRest.ne_nil, ih]

/-- What stands behind an occurrence has no part in where it is found. -/
theorem first_of_first {before after : List Char}
    (first : ∀ n < before.length, ¬OccursAt word (before ++ word ++ after) n) (after' : List Char) :
    ∀ n < before.length, ¬OccursAt word (before ++ word ++ after') n := by
  have hDrop (n : ℕ) (hn : n < before.length) (rest : List Char) :
      (before ++ word ++ rest).drop n = before.drop n ++ word ++ rest := by
    rw [List.append_assoc, List.drop_append_of_le_length hn.le, ← List.append_assoc]
  rintro n hn ⟨-, hPrefix⟩
  rw [hDrop n hn] at hPrefix
  have hInside : word <+: before.drop n ++ word :=
    List.prefix_of_prefix_length_le hPrefix (List.prefix_append _ _) (by simp)
  refine first n hn ⟨by simp; omega, ?_⟩
  rw [hDrop n hn]
  exact hInside.trans (List.prefix_append _ _)

/-- The first stretches stay when the text behind them changes. -/
theorem Divides.retail {front back stretches : List (List Char)} {tail : List Char}
    (h : Divides word text (front ++ back)) (hBack : back ≠ [])
    (hTail : Divides word tail stretches) :
    Divides word (word.intercalate (front ++ [tail])) (front ++ stretches) := by
  induction front generalizing text with
  | nil => simpa using hTail
  | cons before front ih =>
      rw [List.cons_append] at h
      generalize hStretches : before :: (front ++ back) = all at h
      cases h with
      | last =>
          obtain ⟨-, hNil⟩ := List.cons.inj hStretches
          exact absurd (List.append_eq_nil_iff.mp hNil).2 hBack
      | @next _ after rest first hRest =>
          obtain ⟨rfl, rfl⟩ := List.cons.inj hStretches
          rw [List.cons_append, List.intercalate_cons_of_ne_nil (by simp)]
          exact .next (first_of_first first _) (ih hRest)

end RowFormula.Text
