import RowFormula.Proofs.Graph.Cycle

/-! The order of a search. The test for a cycle goes from frontier to frontier. A search that
goes into one key at a time gives the same answer, in whatever order the keys that a key reads
are listed. -/
namespace RowFormula.Graph

open Relation

/-- Whether a search meets its target. It goes into the first pending key before it turns to the
others, and only into `unmet` keys, so into none of them twice. At the target it stops. -/
def finds (graph : Graph) (target : String) (unmet pending : List String) : Bool :=
  match pending with
  | [] => false
  | key :: others =>
    if key = target then true
    else if key ∈ unmet then
      graph.finds target (without unmet [key]) (graph.precedents key ++ others)
    else graph.finds target unmet others
termination_by (unmet.length, pending.length)
decreasing_by
  · exact Prod.Lex.left _ _
      (List.length_filter_lt_length_iff_exists.2 ⟨key, ‹key ∈ unmet›, by simp⟩)
  · exact Prod.Lex.right _ (Nat.lt_succ_self _)

/-- Whether the search that begins with what a key reads comes back to the key. -/
def returns (graph : Graph) (key : String) : Bool :=
  graph.finds key graph.readKeys (graph.precedents key)

/-- One field reads another at once, and the one that reads belongs to a list. -/
def ReadsFrom (graph : Graph) (keys : List String) (reader read : String) : Prop :=
  reader ∈ keys ∧ graph.Reads reader read

/-- A path that passes a key can be cut where it last does so. What follows begins with something
that the key reads, and does without the key. -/
theorem avoids_or_follows (graph : Graph) (unmet : List String) (key : String)
    {start target : String} (path : ReflTransGen (graph.ReadsFrom unmet) start target) :
    ReflTransGen (graph.ReadsFrom (without unmet [key])) start target ∨
      ∃ read, graph.Reads key read ∧
        ReflTransGen (graph.ReadsFrom (without unmet [key])) read target := by
  induction path using ReflTransGen.head_induction_on with
  | refl => exact Or.inl ReflTransGen.refl
  | @head start next first _ ih =>
      rcases ih with hAvoids | hFollows
      · by_cases hKey : start = key
        · exact Or.inr ⟨next, hKey ▸ first.2, hAvoids⟩
        · have hStart : start ∈ without unmet [key] :=
            (mem_without_iff _ _ start).mpr ⟨first.1, by simpa using hKey⟩
          exact Or.inl (ReflTransGen.head ⟨hStart, first.2⟩ hAvoids)
      · exact Or.inr hFollows

/-- The search meets its target exactly when a path through unmet keys leads there. A key that
has been met is passed over without loss: its own turn has put all that it reads in front. -/
theorem finds_iff (graph : Graph) (target : String) (unmet pending : List String) :
    graph.finds target unmet pending = true ↔
      ∃ start ∈ pending, ReflTransGen (graph.ReadsFrom unmet) start target := by
  induction unmet, pending using finds.induct graph target with
  | case1 unmet => simp [finds]
  | case2 unmet others =>
      rw [finds, if_pos rfl]
      exact iff_of_true rfl ⟨target, List.mem_cons_self, ReflTransGen.refl⟩
  | case3 unmet key others hOther hUnmet ih =>
      rw [finds, if_neg hOther, if_pos hUnmet, ih]
      constructor
      · rintro ⟨start, hStart, path⟩
        have path' : ReflTransGen (graph.ReadsFrom unmet) start target :=
          ReflTransGen.mono (fun _ _ h => ⟨((mem_without_iff _ _ _).mp h.1).1, h.2⟩) _ _ path
        rcases List.mem_append.mp hStart with hRead | hPending
        · exact ⟨key, List.mem_cons_self, ReflTransGen.head ⟨hUnmet, hRead⟩ path'⟩
        · exact ⟨start, List.mem_cons_of_mem _ hPending, path'⟩
      · rintro ⟨start, hStart, path⟩
        rcases avoids_or_follows graph unmet key path with hAvoids | ⟨read, hRead, hFollows⟩
        · rcases List.mem_cons.mp hStart with rfl | hPending
          · -- a path that leaves the key at once passes it
            rcases ReflTransGen.cases_head hAvoids with hSame | ⟨next, hFirst, _⟩
            · exact absurd hSame hOther
            · exact absurd (List.mem_singleton_self start)
                ((mem_without_iff _ _ start).mp hFirst.1).2
          · exact ⟨start, List.mem_append_right _ hPending, hAvoids⟩
        · exact ⟨read, List.mem_append_left _ hRead, hFollows⟩
  | case4 unmet key others hOther hMet ih =>
      rw [finds, if_neg hOther, if_neg hMet, ih]
      constructor
      · rintro ⟨start, hPending, path⟩
        exact ⟨start, List.mem_cons_of_mem _ hPending, path⟩
      · rintro ⟨start, hStart, path⟩
        rcases List.mem_cons.mp hStart with rfl | hPending
        · rcases ReflTransGen.cases_head path with hSame | ⟨next, hFirst, _⟩
          · exact absurd hSame hOther
          · exact absurd hFirst.1 hMet
        · exact ⟨start, hPending, path⟩

/-- All keys that are read count as unmet at first, so no path is shut out. -/
theorem returns_iff (graph : Graph) (key : String) :
    graph.returns key = true ↔ TransGen graph.Reads key key := by
  rw [returns, finds_iff, TransGen.head'_iff]
  refine exists_congr fun start => and_congr_right fun hStart => ⟨fun path => ?_, fun path => ?_⟩
  · exact ReflTransGen.mono (fun _ _ h => h.2) _ _ path
  · have hKnown : start ∈ graph.readKeys := mem_readKeys_of_reads hStart
    clear hStart
    induction path with
    | refl => exact ReflTransGen.refl
    | @tail reader read prior last ih =>
        have hReader : reader ∈ graph.readKeys := by
          rcases ReflTransGen.cases_tail prior with hSame | ⟨_, _, hRead⟩
          · exact hSame ▸ hKnown
          · exact mem_readKeys_of_reads hRead
        exact ReflTransGen.tail ih ⟨hReader, last⟩

/-- A key is circular exactly when references lead from it back to it. Every graph with the same
references says so, whatever the order of its lists, and so does a search that goes into one key
at a time. -/
theorem circular_iff_on_cycle (references : List (String × String)) (key : String) :
    ((ofReferences references).isCircular key = true ↔
        TransGen (fun reader read => (read, reader) ∈ references) key key) ∧
      ∀ graph : Graph, (∀ reader read, graph.Reads reader read ↔ (read, reader) ∈ references) →
        graph.isCircular key = (ofReferences references).isCircular key ∧
          graph.returns key = (ofReferences references).isCircular key := by
  have hExact : ∀ graph : Graph,
      (∀ reader read, graph.Reads reader read ↔ (read, reader) ∈ references) →
        (TransGen graph.Reads key key ↔
          TransGen (fun reader read => (read, reader) ∈ references) key key) := by
    intro graph hSame
    have hReads : graph.Reads = fun reader read => (read, reader) ∈ references := by
      funext reader read
      exact propext (hSame reader read)
    rw [hReads]
  have hCircular := (isCircular_iff (ofReferences references) key).trans
    (hExact _ (reads_ofReferences_iff references))
  refine ⟨hCircular, fun graph hSame => ⟨?_, ?_⟩⟩
  · exact Bool.eq_iff_iff.mpr
      ((isCircular_iff graph key).trans ((hExact graph hSame).trans hCircular.symm))
  · exact Bool.eq_iff_iff.mpr
      ((returns_iff graph key).trans ((hExact graph hSame).trans hCircular.symm))

/-- A field that only reads a cycle of two is not circular, with the lists the other way round. -/
theorem circular_iff_on_cycle_reordered :
    let references := [("a", "b"), ("c", "b"), ("b", "c"), ("d", "c"), ("b", "e")]
    let graph : Graph :=
      ⟨[("c", ["d", "b"]), ("e", ["b"]), ("b", ["c", "a"])], (ofReferences references).dependentsOf⟩
    (∀ reader read, graph.Reads reader read ↔ (read, reader) ∈ references) ∧
      graph.isCircular "b" = true ∧ graph.returns "b" = true ∧ graph.returns "e" = false := by
  intro references graph
  have hSame : ∀ reader read, graph.Reads reader read ↔ (read, reader) ∈ references := by
    intro reader read
    simp only [Reads, precedents, graph, references, Adjacency.get_cons, List.mem_cons,
      List.not_mem_nil, Prod.mk.injEq, or_false]
    repeat' split
    all_goals simp_all [Adjacency.get, or_comm]
  obtain ⟨hFrontiers, hDeep⟩ := (circular_iff_on_cycle references "b").2 graph hSame
  have hTail := ((circular_iff_on_cycle references "e").2 graph hSame).2
  exact ⟨hSame, hFrontiers.trans (by decide +kernel), hDeep.trans (by decide +kernel),
    hTail.trans (by decide +kernel)⟩

end RowFormula.Graph
