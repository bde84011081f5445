/-! Entries by name, kept in the order of the names, each name once. Two such lists that
give the same answer to every look-up are the same list. -/
namespace RowFormula.Entries

variable {α : Type}

/-- The names increase. -/
def Sorted (entries : List (String × α)) : Prop := entries.Pairwise fun a b => a.1 < b.1

instance (entries : List (String × α)) : Decidable (Sorted entries) :=
  inferInstanceAs (Decidable (entries.Pairwise fun a b => a.1 < b.1))

/-- The entries with one name set, in place or where it belongs. -/
def insert (name : String) (value : α) : List (String × α) → List (String × α)
  | [] => [(name, value)]
  | (n, v) :: rest =>
    if name < n then (name, value) :: (n, v) :: rest
    else if n < name then (n, v) :: insert name value rest
    else (name, value) :: rest

/-- The entries of any list. Of several under one name the last counts. -/
def ofList (entries : List (String × α)) : List (String × α) :=
  entries.foldl (fun sorted entry => insert entry.1 entry.2 sorted) []

/-- Setting a name brings in no other entry. -/
theorem mem_insert {name : String} {value : α} {entry : String × α}
    {entries : List (String × α)} (h : entry ∈ insert name value entries) :
    entry = (name, value) ∨ entry ∈ entries := by
  induction entries with
  | nil => simpa [insert] using h
  | cons first rest ih =>
    obtain ⟨n, v⟩ := first
    simp only [insert] at h
    split at h
    · simpa using h
    · split at h
      · rcases List.mem_cons.1 h with h | h
        · exact .inr (by simp [h])
        · exact (ih h).imp id (List.mem_cons_of_mem _)
      · rcases List.mem_cons.1 h with h | h
        · exact .inl h
        · exact .inr (List.mem_cons_of_mem _ h)

/-- Setting a name keeps the names in order. -/
theorem sorted_insert (name : String) (value : α) {entries : List (String × α)}
    (h : Sorted entries) : Sorted (insert name value entries) := by
  induction entries with
  | nil => simp [insert, Sorted]
  | cons first rest ih =>
    obtain ⟨n, v⟩ := first
    obtain ⟨hfirst, hrest⟩ := List.pairwise_cons.1 h
    simp only [insert]
    split
    · next hlt =>
      refine List.pairwise_cons.2 ⟨?_, h⟩
      intro entry hm
      rcases List.mem_cons.1 hm with rfl | hm
      · exact hlt
      · exact String.lt_trans hlt (hfirst entry hm)
    · next hle =>
      split
      · next hgt =>
        refine List.pairwise_cons.2 ⟨?_, ih hrest⟩
        intro entry hm
        rcases mem_insert hm with rfl | hm
        · exact hgt
        · exact hfirst entry hm
      · next hge =>
        have same : name = n := String.le_antisymm (String.not_lt.1 hge) (String.not_lt.1 hle)
        subst same
        exact List.pairwise_cons.2 ⟨hfirst, hrest⟩

theorem lookup_cons_eq (name other : String) (value : α) (entries : List (String × α)) :
    ((name, value) :: entries).lookup other =
      if other = name then some value else entries.lookup other := by
  by_cases h : other = name
  · simp [h]
  · simp [List.lookup_cons, h, beq_eq_false_iff_ne.mpr h]

/-- Setting one name changes what is found there and nowhere else. -/
theorem lookup_insert (name : String) (value : α) (entries : List (String × α))
    (other : String) :
    (insert name value entries).lookup other =
      if other = name then some value else entries.lookup other := by
  induction entries with
  | nil => simp [insert, lookup_cons_eq]
  | cons first rest ih =>
    obtain ⟨n, v⟩ := first
    simp only [insert]
    split
    · simp only [lookup_cons_eq]
    · next hle =>
      split
      · next hgt =>
        simp only [lookup_cons_eq, ih]
        by_cases hn : other = n
        · have hne : n ≠ name := fun same => String.lt_irrefl name (same ▸ hgt)
          simp [hn, hne]
        · simp [hn]
      · next hge =>
        have same : name = n := String.le_antisymm (String.not_lt.1 hge) (String.not_lt.1 hle)
        subst same
        simp only [lookup_cons_eq]
        split <;> rfl

/-- What is found is there. -/
theorem mem_of_lookup {κ : Type} [BEq κ] [LawfulBEq κ] {key : κ} {value : α}
    {entries : List (κ × α)} (h : entries.lookup key = some value) : (key, value) ∈ entries := by
  obtain ⟨before, after, hSplit, -⟩ := List.lookup_eq_some_iff.mp h
  exact hSplit ▸ List.mem_append_right before List.mem_cons_self

/-- A name that comes before all others is not among them. -/
theorem lookup_eq_none {name : String} {entries : List (String × α)}
    (h : ∀ entry ∈ entries, name < entry.1) : entries.lookup name = none := by
  cases hl : entries.lookup name with
  | none => rfl
  | some value => exact absurd (h _ (mem_of_lookup hl)) (String.lt_irrefl name)

/-- Sorted entries are determined by what is found in them. -/
theorem eq_of_lookup {entries others : List (String × α)} (h : Sorted entries)
    (h' : Sorted others) (same : ∀ name, entries.lookup name = others.lookup name) :
    entries = others := by
  induction entries generalizing others with
  | nil =>
    cases others with
    | nil => rfl
    | cons first rest =>
      obtain ⟨n, v⟩ := first
      simpa [lookup_cons_eq] using same n
  | cons first rest ih =>
    obtain ⟨n, v⟩ := first
    obtain ⟨hfirst, hrest⟩ := List.pairwise_cons.1 h
    cases others with
    | nil => simpa [lookup_cons_eq] using same n
    | cons first' rest' =>
      obtain ⟨m, w⟩ := first'
      obtain ⟨hfirst', hrest'⟩ := List.pairwise_cons.1 h'
      have hn := same n
      have hm := same m
      simp only [lookup_cons_eq, if_true] at hn hm
      have hnm : n = m := by
        by_cases hnm : n = m
        · exact hnm
        · rw [if_neg hnm] at hn
          rw [if_neg (Ne.symm hnm)] at hm
          have before := hfirst _ (mem_of_lookup hm)
          have after := hfirst' _ (mem_of_lookup hn.symm)
          exact absurd (String.lt_trans before after) (String.lt_irrefl n)
      subst hnm
      simp only [if_true, Option.some.injEq] at hn
      subst hn
      rw [ih hrest hrest' fun name => ?_]
      by_cases hname : name = n
      · rw [hname, lookup_eq_none hfirst, lookup_eq_none hfirst']
      · simpa [lookup_cons_eq, hname] using same name

end RowFormula.Entries
