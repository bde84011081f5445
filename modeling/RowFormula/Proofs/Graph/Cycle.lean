import Mathlib.Logic.Relation
import RowFormula.Entries
import RowFormula.Graph

/-! Reference cycles. The search by frontiers finds what can be read through any number of
fields, and no more, so the test for a cycle is exact. The precedents of a graph made from
formulas are the references of the formulas. -/
namespace RowFormula.Graph

open Relation

/-- One field reads another at once. -/
def Reads (graph : Graph) (reader read : String) : Prop := read ∈ graph.precedents reader

/-- One field reads another at once, and the one that is read belongs to a list. -/
def ReadsAmong (graph : Graph) (keys : List String) (reader read : String) : Prop :=
  read ∈ keys ∧ graph.Reads reader read

/-- The free keys that some key of the frontier reads. -/
theorem mem_readBy_iff (graph : Graph) (free frontier : List String) (key : String) :
    key ∈ graph.readBy free frontier ↔
      ∃ reader ∈ frontier, graph.ReadsAmong free reader key := by
  simp only [readBy, List.mem_filter, List.mem_flatMap, decide_eq_true_eq, ReadsAmong, Reads]
  constructor
  · rintro ⟨hFree, reader, hr, hRead⟩
    exact ⟨reader, hr, hFree, hRead⟩
  · rintro ⟨reader, hr, hFree, hRead⟩
    exact ⟨hFree, reader, hr, hRead⟩

theorem mem_without_iff (keys taken : List String) (key : String) :
    key ∈ without keys taken ↔ key ∈ keys ∧ key ∉ taken := by
  simp [without]

/-- Only what is read through some fields is found. -/
theorem transGen_of_mem_reach (graph : Graph) (free frontier : List String) {key : String}
    (h : key ∈ graph.reach free frontier) :
    ∃ start ∈ frontier, TransGen graph.Reads start key := by
  induction free, frontier using reach.induct graph with
  | case1 free frontier hNone =>
      rw [reach, dif_pos hNone] at h
      cases h
  | case2 free frontier hSome ih =>
      rw [reach, dif_neg hSome] at h
      rcases List.mem_append.mp h with hNow | hLater
      · obtain ⟨reader, hr, hRead⟩ := (mem_readBy_iff graph free frontier key).mp hNow
        exact ⟨reader, hr, TransGen.single hRead.2⟩
      · obtain ⟨middle, hm, hPath⟩ := ih hLater
        obtain ⟨reader, hr, hRead⟩ := (mem_readBy_iff graph free frontier middle).mp hm
        exact ⟨reader, hr, TransGen.head hRead.2 hPath⟩

/-- A path from the frontier ends in the next frontier, or leaves it for the last time there
and goes on outside. -/
theorem leaves_readBy (graph : Graph) (free frontier : List String) {start key : String}
    (hStart : start ∈ frontier) (path : TransGen (graph.ReadsAmong free) start key) :
    key ∈ graph.readBy free frontier ∨
      ∃ middle ∈ graph.readBy free frontier,
        TransGen (graph.ReadsAmong (without free (graph.readBy free frontier))) middle key := by
  induction path with
  | single hRead => exact Or.inl ((mem_readBy_iff graph free frontier _).mpr ⟨start, hStart, hRead⟩)
  | @tail before key prior last ih =>
      by_cases hNext : key ∈ graph.readBy free frontier
      · exact Or.inl hNext
      · have hLast : graph.ReadsAmong (without free (graph.readBy free frontier)) before key :=
          ⟨(mem_without_iff _ _ key).mpr ⟨last.1, hNext⟩, last.2⟩
        rcases ih with hBefore | ⟨middle, hm, hPath⟩
        · exact Or.inr ⟨before, hBefore, TransGen.single hLast⟩
        · exact Or.inr ⟨middle, hm, hPath.tail hLast⟩

/-- All that is read through free fields is found. Taking fields that have been met out of
the free ones hides nothing, since a path can be cut where it last meets them. -/
theorem mem_reach_of_transGen (graph : Graph) (free frontier : List String) {start key : String}
    (hStart : start ∈ frontier) (path : TransGen (graph.ReadsAmong free) start key) :
    key ∈ graph.reach free frontier := by
  induction free, frontier using reach.induct graph generalizing start with
  | case1 free frontier hNone =>
      rcases leaves_readBy graph free frontier hStart path with hNow | ⟨middle, hm, _⟩
      · rw [hNone] at hNow
        cases hNow
      · rw [hNone] at hm
        cases hm
  | case2 free frontier hSome ih =>
      rw [reach, dif_neg hSome]
      rcases leaves_readBy graph free frontier hStart path with hNow | ⟨middle, hm, hPath⟩
      · exact List.mem_append_left _ hNow
      · exact List.mem_append_right _ (ih hm hPath)

theorem mem_readKeys_of_reads {graph : Graph} {reader read : String}
    (h : graph.Reads reader read) : read ∈ graph.readKeys := by
  simp only [Reads, precedents, Adjacency.get] at h
  cases hFind : graph.precedentsOf.lookup reader with
  | none => simp [hFind] at h
  | some values =>
      rw [hFind, Option.getD_some] at h
      exact List.mem_flatMap.mpr ⟨(reader, values), Entries.mem_of_lookup hFind, h⟩

/-- From a single field the search finds exactly what some references in a row lead to. -/
theorem mem_reach_readKeys_iff (graph : Graph) (start key : String) :
    key ∈ graph.reach graph.readKeys [start] ↔ TransGen graph.Reads start key := by
  constructor
  · intro h
    obtain ⟨first, hs, hPath⟩ := transGen_of_mem_reach graph graph.readKeys [start] h
    rwa [List.mem_singleton.mp hs] at hPath
  · intro h
    apply mem_reach_of_transGen graph graph.readKeys [start] (List.mem_singleton_self start)
    exact TransGen.mono (fun _ _ hRead => ⟨mem_readKeys_of_reads hRead, hRead⟩) _ _ h

/-- A field is circular exactly when references lead from it back to it. -/
theorem isCircular_iff (graph : Graph) (key : String) :
    graph.isCircular key = true ↔ TransGen graph.Reads key key := by
  rw [isCircular, decide_eq_true_iff]
  exact mem_reach_readKeys_iff graph key key

/-- One more reference is one more precedent of its reader. -/
theorem mem_precedents_add (graph : Graph) (precedent dependent reader read : String) :
    read ∈ (graph.add precedent dependent).precedents reader ↔
      (reader = dependent ∧ read = precedent) ∨ read ∈ graph.precedents reader :=
  Adjacency.mem_get_add graph.precedentsOf dependent precedent reader read

/-- The graph with some more references, each the key that is read with the key that reads it. -/
def addAll (graph : Graph) (references : List (String × String)) : Graph :=
  references.foldl (fun graph reference => graph.add reference.1 reference.2) graph

/-- More references are more precedents of their readers and of no other key. -/
theorem mem_precedents_addAll (graph : Graph) (references : List (String × String))
    (reader read : String) :
    read ∈ (graph.addAll references).precedents reader ↔
      (read, reader) ∈ references ∨ read ∈ graph.precedents reader := by
  rw [addAll]
  induction references generalizing graph with
  | nil => simp
  | cons first rest ih =>
      have hFirst : (read, reader) = first ↔ reader = first.2 ∧ read = first.1 := by
        rw [Prod.ext_iff, and_comm]
      rw [List.foldl_cons, ih, mem_precedents_add, List.mem_cons, hFirst, or_left_comm, or_assoc]

/-- The graph of single references, each the key that is read with the key that reads it. -/
def ofReferences (references : List (String × String)) : Graph :=
  references.foldl (fun graph reference => graph.add reference.1 reference.2) empty

/-- A graph that is put together reference by reference has these references and no others. -/
theorem reads_ofReferences_iff (references : List (String × String)) (reader read : String) :
    (ofReferences references).Reads reader read ↔ (read, reader) ∈ references :=
  (mem_precedents_addAll empty references reader read).trans (or_iff_left List.not_mem_nil)

/-- What named expressions refer to, each time with the key that the name stands for. -/
def referencesOf (formulas : List (String × Expr)) : List (String × String) :=
  formulas.flatMap fun formula => formula.2.fieldReferences.map fun reference =>
    (Field.key reference, Field.key formula.1)

/-- The graph of formulas has no references but theirs. -/
theorem ofFormulas_eq (formulas : List (String × Expr)) :
    ofFormulas formulas = ofReferences (referencesOf formulas) := by
  rw [ofReferences, referencesOf, List.foldl_flatMap]
  simp only [List.foldl_map]
  rfl

/-- The fields that a key reads are those that a formula under that key names. -/
theorem reads_ofFormulas_iff (formulas : List (String × Expr)) (reader read : String) :
    (ofFormulas formulas).Reads reader read ↔
      ∃ formula ∈ formulas, Field.key formula.1 = reader ∧
        ∃ reference ∈ formula.2.fieldReferences, Field.key reference = read := by
  rw [ofFormulas_eq, reads_ofReferences_iff]
  simp only [referencesOf, List.mem_flatMap, List.mem_map, Prod.mk.injEq]
  constructor
  · rintro ⟨formula, hFormula, reference, hRef, hRead, hKey⟩
    exact ⟨formula, hFormula, hKey, reference, hRef, hRead⟩
  · rintro ⟨formula, hFormula, hKey, reference, hRef, hRead⟩
    exact ⟨formula, hFormula, reference, hRef, hRead, hKey⟩

end RowFormula.Graph
