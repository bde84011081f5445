/-! Occurrences of one text in another. Occurrences do not overlap: each is the first
one that starts at or after the end of the one before. -/
namespace RowFormula.Text

/-- The rest after a word that the characters begin with. -/
def afterWord? : (word cs : List Char) → Option (List Char)
  | [], cs => some cs
  | _ :: _, [] => none
  | w :: word, c :: cs => if w = c then afterWord? word cs else none

/-- The characters before and after the first occurrence of a word. -/
def splitAt? (word : List Char) : List Char → Option (List Char × List Char)
  | [] => if word = [] then some ([], []) else none
  | c :: cs =>
    match afterWord? word (c :: cs) with
    | some rest => some ([], rest)
    | none => (splitAt? word cs).map fun (before, after) => (c :: before, after)

/-- What is found is the word with the rest behind it. -/
theorem eq_append_of_afterWord? {word cs rest : List Char}
    (h : afterWord? word cs = some rest) : cs = word ++ rest := by
  fun_induction afterWord? word cs with
  | case1 cs => simpa using h
  | case2 => simp at h
  | case3 word w cs ih => simp [ih h]
  | case4 => simp at h

/-- The parts and the word between them make up the text. -/
theorem eq_append_of_splitAt? {word cs before after : List Char}
    (h : splitAt? word cs = some (before, after)) : cs = before ++ word ++ after := by
  induction cs generalizing before with
  | nil =>
    by_cases hw : word = []
    · simp_all [splitAt?]
    · simp [splitAt?, hw] at h
  | cons c cs ih =>
    rw [splitAt?] at h
    split at h
    · next rest hr =>
      obtain ⟨rfl, rfl⟩ := Prod.mk.inj (Option.some.inj h)
      simpa using eq_append_of_afterWord? hr
    · obtain ⟨⟨b, a⟩, hb, he⟩ := Option.map_eq_some_iff.1 h
      obtain ⟨rfl, rfl⟩ := Prod.mk.inj he
      simpa using ih hb

/-- The stretches between the occurrences of a word, in order. Their number is one more
than the number of occurrences. The empty word splits nothing. -/
def between (word cs : List Char) : List (List Char) :=
  if _hw : word = [] then [cs]
  else
    match _h : splitAt? word cs with
    | none => [cs]
    | some (before, after) => before :: between word after
termination_by cs.length
decreasing_by
  have := eq_append_of_splitAt? _h
  have hpos : 0 < word.length := List.length_pos_iff.2 _hw
  simp [this]
  omega

/-- Every occurrence of `old` replaced by `new`. -/
def replaceAll (old new cs : List Char) : List Char :=
  new.intercalate (between old cs)

/-- Only the occurrence of the given number, counted from one, replaced by `new`;
when there are fewer, nothing changes. -/
def replaceNth (old new : List Char) (n : Nat) (cs : List Char) : List Char :=
  let stretches := between old cs
  if n = 0 ∨ stretches.length ≤ n then cs
  else
    old.intercalate (stretches.take n) ++ new ++ old.intercalate (stretches.drop n)

/-- The number of characters before the first occurrence of a word. -/
def indexOf? (word cs : List Char) : Option Nat :=
  (splitAt? word cs).map fun (before, _) => before.length

end RowFormula.Text
