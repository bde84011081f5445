import Mathlib.Data.List.TakeWhile

/-! Runs of characters of one sort: the longest one at the start of a text, and what stops it. A run
ends with the text or in front of a character of another sort. -/
namespace RowFormula.Text

variable {p : Char → Bool} {run follow : List Char}

/-- Every text is a run and what stops it. -/
theorem exists_run (p : Char → Bool) (cs : List Char) :
    ∃ run follow, cs.takeWhile p = run ∧ cs = run ++ follow ∧ (∀ c ∈ run, p c = true) ∧
      ∀ d ∈ follow.head?, p d = false := by
  refine ⟨_, cs.dropWhile p, rfl, List.takeWhile_append_dropWhile.symm,
    List.all_eq_true.mp List.all_takeWhile, fun d hd => ?_⟩
  have hHead := List.head?_dropWhile_not p cs
  rw [Option.mem_def.mp hd] at hHead
  simpa using hHead

/-- What stops a run does not change it. -/
theorem takeWhile_append_of_stop (cs : List Char) (hStop : ∀ d ∈ follow.head?, p d = false) :
    (cs ++ follow).takeWhile p = cs.takeWhile p := by
  induction cs with
  | nil =>
      cases follow with
      | nil => rfl
      | cons d rest => simp [hStop d rfl]
  | cons c cs ih => simp only [List.cons_append, List.takeWhile_cons, ih]

/-- A run in front is taken up to what stops it. -/
theorem takeWhile_run (hRun : ∀ c ∈ run, p c = true) (hStop : ∀ d ∈ follow.head?, p d = false) :
    (run ++ follow).takeWhile p = run :=
  (takeWhile_append_of_stop run hStop).trans (List.takeWhile_eq_self_iff.mpr hRun)

/-- What stops a run in front is left. -/
theorem dropWhile_run (hRun : ∀ c ∈ run, p c = true) (hStop : ∀ d ∈ follow.head?, p d = false) :
    (run ++ follow).dropWhile p = follow := by
  have hSplit := List.takeWhile_append_dropWhile (p := p) (l := run ++ follow)
  rwa [takeWhile_run hRun hStop, List.append_cancel_left_eq] at hSplit

end RowFormula.Text
