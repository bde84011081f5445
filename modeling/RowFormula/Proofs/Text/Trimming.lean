import RowFormula.Entries
import RowFormula.Text.Blank
import RowFormula.Text.Case

/-! Trimming and letter case. Lower case never shortens a text, whatever stands around its
characters, so text that is trimmed to the same lower case has nothing to trim. -/
namespace RowFormula.Text

/-- Blanks are dropped in front. -/
theorem exists_dropBlanks (cs : List Char) : ∃ left, cs = left ++ dropBlanks cs :=
  ⟨cs.takeWhile isBlank, List.takeWhile_append_dropWhile.symm⟩

/-- Trimming cuts the text at both ends. -/
theorem exists_trimChars (cs : List Char) : ∃ left right, cs = left ++ trimChars cs ++ right := by
  obtain ⟨left, hLeft⟩ := exists_dropBlanks cs
  obtain ⟨right, hRight⟩ := exists_dropBlanks (dropBlanks cs).reverse
  refine ⟨left, right.reverse, ?_⟩
  have hBody : dropBlanks cs = trimChars cs ++ right.reverse := by
    rw [← List.reverse_reverse (dropBlanks cs), hRight, List.reverse_append, trimChars]
  rw [List.append_assoc, ← hBody]
  exact hLeft

/-- What is left does not begin with a blank. -/
theorem head?_dropBlanks (cs : List Char) : ∀ c ∈ (dropBlanks cs).head?, isBlank c = false := by
  intro c hc
  have hFirst := List.head?_dropWhile_not isBlank cs
  rw [dropBlanks, Option.mem_def] at hc
  rwa [hc] at hFirst

/-- What is dropped in front leaves the end as it is. -/
theorem getLast?_dropBlanks {cs : List Char} (h : ∀ c ∈ cs.getLast?, isBlank c = false) :
    ∀ c ∈ (dropBlanks cs).getLast?, isBlank c = false := by
  intro c hc
  obtain ⟨left, hCut⟩ := exists_dropBlanks cs
  refine h c ?_
  rw [hCut, List.getLast?_append, Option.mem_def.mp hc]
  rfl

/-- Trimmed text has nothing to trim. -/
theorem trim_trim (s : String) : trim (trim s) = trim s := by
  rw [trim, trim, String.toList_ofList]
  refine congrArg String.ofList (trimChars_eq_self ?_ ?_)
  · rw [trimChars, List.head?_reverse]
    refine getLast?_dropBlanks ?_
    rw [List.getLast?_reverse]
    exact head?_dropBlanks _
  · rw [trimChars, List.getLast?_reverse]
    exact head?_dropBlanks _

/-- No character disappears in lower case. -/
theorem lowerChar_ne_nil (c : Char) : lowerChar c ≠ [] := by
  have hExpansions : ∀ expansion ∈ lowerExpansions, expansion.2 ≠ [] := by decide
  unfold lowerChar
  split
  · exact List.cons_ne_nil _ _
  unfold mapWide
  split
  · rename_i images hImages
    exact mt List.map_eq_nil_iff.mp (hExpansions _ (Entries.mem_of_lookup hImages))
  · split <;> exact List.cons_ne_nil _ _

/-- What stands around a character decides how it is lowered, but not into how many characters. -/
theorem length_lowerAfter (before cs : List Char) :
    (lowerAfter before cs).length = (cs.flatMap lowerChar).length := by
  induction cs generalizing before with
  | nil => rfl
  | cons c rest ih =>
      rw [lowerAfter, List.length_append, ih, List.flatMap_cons, List.length_append]
      congr 1
      split
      -- a final sigma and any other are one character each
      · rename_i hSigma
        have hOne : (lowerChar 'Σ').length = 1 := by decide +kernel
        rw [hSigma, hOne]
        split <;> rfl
      · rfl

theorem eq_nil_of_flatMap_lowerChar {cs : List Char} (h : (cs.flatMap lowerChar).length = 0) :
    cs = [] := by
  rw [List.length_eq_zero_iff, List.flatMap_eq_nil_iff] at h
  exact List.eq_nil_iff_forall_not_mem.mpr fun c hc => lowerChar_ne_nil c (h c hc)

/-- Text that matches its trimmed form in any case is trimmed already. -/
theorem trim_eq_of_lower_eq {s : String} (h : lower (trim s) = lower s) : trim s = s := by
  obtain ⟨left, right, hCut⟩ := exists_trimChars s.toList
  have hLength : (lowerAfter [] (trimChars s.toList)).length =
      (lowerAfter [] s.toList).length := by
    simpa [lower, trim] using congrArg (fun s : String => s.toList.length) h
  rw [length_lowerAfter, length_lowerAfter] at hLength
  conv at hLength => rhs; rw [hCut]
  simp only [List.flatMap_append, List.length_append] at hLength
  obtain rfl : left = [] := eq_nil_of_flatMap_lowerChar (by omega)
  obtain rfl : right = [] := eq_nil_of_flatMap_lowerChar (by omega)
  rw [← String.toList_inj, trim, String.toList_ofList]
  simpa using hCut.symm

end RowFormula.Text
