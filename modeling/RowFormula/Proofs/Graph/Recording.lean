import Mathlib.Data.List.Infix
import Mathlib.Data.List.Nodup
import RowFormula.Proofs.Formula.References
import RowFormula.Proofs.Graph.Cycle

/-! What a graph records. The references of an expression are its field leaves without those that
name a field again, which one walk through the expression finds too. The graph of formulas has these
references and no others, and what it says of readers and of what is read stays the same relation
under any further references. -/
namespace RowFormula

namespace Expr

/-- One leaf on a walk, with the keys that have been met and the names that have been kept. -/
def meet (state : List String × List String) (name : String) : List String × List String :=
  if Field.key name ∈ state.1 then state else (Field.key name :: state.1, state.2 ++ [name])

mutual

/-- The walk through an expression. All its parts share the keys that have been met. -/
def walk (state : List String × List String) : Expr → List String × List String
  | .number _ | .text _ | .bool _ => state
  | .field name => meet state name
  | .unary _ operand => operand.walk state
  | .binary _ left right => right.walk (left.walk state)
  | .logical _ left right => right.walk (left.walk state)
  | .call _ args => walkAll state args

def walkAll (state : List String × List String) : List Expr → List String × List String
  | [] => state
  | arg :: args => walkAll (arg.walk state) args

end

mutual

/-- A walk meets the leaves from left to right. -/
theorem walk_eq : ∀ (e : Expr) (state : List String × List String),
    e.walk state = e.fieldLeaves.foldl meet state
  | .number _, _ | .text _, _ | .bool _, _ | .field _, _ => rfl
  | .unary _ operand, state => by rw [walk, operand.walk_eq, fieldLeaves]
  | .binary _ left right, state => by
      rw [walk, left.walk_eq, right.walk_eq, fieldLeaves, List.foldl_append]
  | .logical _ left right, state => by
      rw [walk, left.walk_eq, right.walk_eq, fieldLeaves, List.foldl_append]
  | .call _ args, state => by rw [walk, walkAll_eq args, fieldLeaves]

theorem walkAll_eq : ∀ (args : List Expr) (state : List String × List String),
    walkAll state args = (fieldLeavesAll args).foldl meet state
  | [], _ => rfl
  | arg :: args, state => by
      rw [walkAll, arg.walk_eq, walkAll_eq args, fieldLeavesAll, List.foldl_append]

end

/-- Meeting names one after the other keeps the first spelling of each. -/
theorem foldl_meet (names seen kept : List String) :
    (names.foldl meet (seen, kept)).2 = kept ++ firstSpellings seen names := by
  induction names generalizing seen kept with
  | nil => simp [firstSpellings]
  | cons name names ih =>
      by_cases hSeen : Field.key name ∈ seen
      · rw [List.foldl_cons, meet, if_pos hSeen, ih, firstSpellings, if_pos hSeen]
      · rw [List.foldl_cons, meet, if_neg hSeen, ih, firstSpellings, if_neg hSeen]
        simp

/-- The leaves whose keys are neither among some others nor keys of leaves before them. -/
def freshLeaves (seen names : List String) : List String :=
  ((names.zip names.inits).filter fun leaf =>
    Field.key leaf.1 ∉ seen ++ leaf.2.map Field.key).map Prod.fst

/-- The first name is kept unless its key has been met, and is met for all others. -/
theorem freshLeaves_cons (seen : List String) (name : String) (names : List String) :
    freshLeaves seen (name :: names) =
      (if Field.key name ∈ seen then [] else [name]) ++
        freshLeaves (Field.key name :: seen) names := by
  have hRest : (((names.zip names.inits).map (Prod.map id (name :: ·))).filter fun leaf =>
      Field.key leaf.1 ∉ seen ++ leaf.2.map Field.key).map Prod.fst =
        freshLeaves (Field.key name :: seen) names := by
    rw [List.filter_map, List.map_map, freshLeaves]
    refine congrArg (List.map Prod.fst) (List.filter_congr fun leaf _ => decide_eq_decide.mpr ?_)
    simp [or_left_comm]
  rw [freshLeaves, List.inits_cons, List.zip_cons_cons, List.zip_map_right]
  by_cases hSeen : Field.key name ∈ seen
  · rw [List.filter_cons_of_neg (by simpa using hSeen), hRest, if_pos hSeen, List.nil_append]
  · rw [List.filter_cons_of_pos (by simpa using hSeen), List.map_cons, hRest, if_neg hSeen]
    rfl

theorem freshLeaves_congr {seen others : List String} (h : ∀ key, key ∈ seen ↔ key ∈ others)
    (names : List String) : freshLeaves seen names = freshLeaves others names := by
  simp only [freshLeaves, List.mem_append, h]

/-- A name is kept when no name before it and none met earlier has its key. Names that have been
dropped have the keys of others, so it does not matter that they are forgotten. -/
theorem firstSpellings_eq (seen names : List String) :
    firstSpellings seen names = freshLeaves seen names := by
  induction names generalizing seen with
  | nil => rfl
  | cons name names ih =>
      rw [freshLeaves_cons, firstSpellings]
      by_cases hSeen : Field.key name ∈ seen
      · have hSame : ∀ key, key ∈ Field.key name :: seen ↔ key ∈ seen :=
          fun key => List.mem_cons.trans (or_iff_right_of_imp fun h => h ▸ hSeen)
        rw [if_pos hSeen, if_pos hSeen, ih, freshLeaves_congr hSame, List.nil_append]
      · rw [if_neg hSeen, if_neg hSeen, ih, List.singleton_append]

/-- The references name the fields that the leaves name. -/
theorem exists_fieldReference_iff (e : Expr) (key : String) :
    (∃ reference ∈ e.fieldReferences, Field.key reference = key) ↔
      ∃ leaf ∈ e.fieldLeaves, Field.key leaf = key := by
  constructor
  · rintro ⟨reference, hRef, hKey⟩
    rw [fieldReferences, firstSpellings_eq, freshLeaves] at hRef
    obtain ⟨leaf, hLeaf, rfl⟩ := List.mem_map.mp hRef
    exact ⟨leaf.1, (List.of_mem_zip (List.mem_filter.mp hLeaf).1).1, hKey⟩
  · rintro ⟨leaf, hLeaf, rfl⟩
    exact exists_mem_fieldReferences hLeaf

end Expr

namespace Adjacency

variable {relation : Adjacency}

/-- A pair is listed once, however often it is added. -/
theorem nodup_add (h : ∀ entry ∈ relation, entry.2.Nodup) (key value : String) :
    ∀ entry ∈ add key value relation, entry.2.Nodup := by
  induction relation with
  | nil => simp [add]
  | cons first rest ih =>
      obtain ⟨hFirst, hRest⟩ := List.forall_mem_cons.mp h
      rw [add]
      split
      · refine List.forall_mem_cons.mpr ⟨?_, hRest⟩
        split
        · exact hFirst
        · rename_i hNew
          simpa using List.Nodup.concat hNew hFirst
      · exact List.forall_mem_cons.mpr ⟨hFirst, ih hRest⟩

theorem nodup_get (h : ∀ entry ∈ relation, entry.2.Nodup) (key : String) :
    (get relation key).Nodup := by
  rw [get]
  cases hFind : relation.lookup key with
  | none => exact List.nodup_nil
  | some values =>
      exact h (key, values) (Entries.mem_of_lookup hFind)

end Adjacency

namespace Graph

/-- One more reference is one more dependent of what is read. -/
theorem mem_dependents_add (graph : Graph) (precedent dependent key reader : String) :
    reader ∈ (graph.add precedent dependent).dependents key ↔
      (key = precedent ∧ reader = dependent) ∨ reader ∈ graph.dependents key :=
  Adjacency.mem_get_add graph.dependentsOf precedent dependent key reader

/-- The two directions are one relation, and no pair is listed twice. -/
structure Coherent (graph : Graph) : Prop where
  inverse : ∀ key reader, reader ∈ graph.dependents key ↔ key ∈ graph.precedents reader
  precedents_once : ∀ entry ∈ graph.precedentsOf, entry.2.Nodup
  dependents_once : ∀ entry ∈ graph.dependentsOf, entry.2.Nodup

namespace Coherent

variable {graph : Graph}

theorem empty : Graph.empty.Coherent where
  inverse := fun _ _ => iff_of_false List.not_mem_nil List.not_mem_nil
  precedents_once := List.forall_mem_nil _
  dependents_once := List.forall_mem_nil _

/-- One more reference is recorded in both directions. -/
theorem add (h : graph.Coherent) (precedent dependent : String) :
    (graph.add precedent dependent).Coherent where
  inverse := by
    intro key reader
    rw [mem_dependents_add, mem_precedents_add, h.inverse key reader, and_comm]
  precedents_once := Adjacency.nodup_add h.precedents_once dependent precedent
  dependents_once := Adjacency.nodup_add h.dependents_once precedent dependent

/-- All further references are recorded in both directions. -/
theorem addAll (h : graph.Coherent) (references : List (String × String)) :
    (graph.addAll references).Coherent := by
  rw [Graph.addAll]
  induction references generalizing graph with
  | nil => exact h
  | cons first rest ih => exact ih (h.add first.1 first.2)

/-- The graph of formulas has the same references in both directions. -/
theorem ofFormulas (formulas : List (String × Expr)) : (Graph.ofFormulas formulas).Coherent := by
  rw [ofFormulas_eq]
  exact Coherent.empty.addAll (referencesOf formulas)

end Coherent

/-- The references of an expression are its leaves without each one whose name, in lower case, is
that of a leaf before it, and a walk that shares the keys that it has met keeps the same names. In
the graph of formulas the precedents of a key are the names, in lower case, of the leaves of all
formulas whose own names have this lower case, and its dependents are the keys that have it among
their precedents, also when further references have been added. -/
theorem references_are_recorded :
    (∀ e : Expr,
      e.fieldReferences =
          ((e.fieldLeaves.zip e.fieldLeaves.inits).filter fun leaf =>
            Text.lower leaf.1 ∉ leaf.2.map Text.lower).map Prod.fst ∧
        (e.walk ([], [])).2 = e.fieldReferences) ∧
      ∀ (formulas : List (String × Expr)) (further : List (String × String)),
        let graph := ofFormulas formulas
        let later := graph.addAll further
        (∀ key read, read ∈ graph.precedents key ↔
          ∃ formula ∈ formulas, Text.lower formula.1 = key ∧
            ∃ leaf ∈ formula.2.fieldLeaves, Text.lower leaf = read) ∧
          (∀ key reader, reader ∈ graph.dependents key ↔ key ∈ graph.precedents reader) ∧
          (∀ key read, read ∈ later.precedents key ↔
            (read, key) ∈ further ∨ read ∈ graph.precedents key) ∧
          (∀ key reader, reader ∈ later.dependents key ↔ key ∈ later.precedents reader) ∧
          ∀ key, (later.precedents key).Nodup ∧ (later.dependents key).Nodup := by
  refine ⟨fun e => ⟨?_, ?_⟩, fun formulas further => ?_⟩
  · exact Expr.firstSpellings_eq [] e.fieldLeaves
  · rw [e.walk_eq, Expr.foldl_meet, List.nil_append, Expr.fieldReferences]
  · intro graph later
    have hGraph : graph.Coherent := Coherent.ofFormulas formulas
    have hLater : later.Coherent := hGraph.addAll further
    have hReads := reads_ofFormulas_iff formulas
    simp only [Expr.exists_fieldReference_iff] at hReads
    exact ⟨hReads, hGraph.inverse, mem_precedents_addAll graph further, hLater.inverse, fun key =>
      ⟨Adjacency.nodup_get hLater.precedents_once key,
        Adjacency.nodup_get hLater.dependents_once key⟩⟩

/-- A field that is named in two spellings is one reference, and two formulas under one name in two
spellings have one list of precedents. -/
theorem references_are_recorded_spellings :
    let sum : Expr := .binary (.arithmetic .add) (.field "Qty") (.field "QTY")
    let graph := ofFormulas [("Total", sum), ("TOTAL", .field "Rate")]
    let later := graph.addAll [("total", "rate")]
    sum.fieldReferences = ["Qty"] ∧ (sum.walk ([], [])).2 = ["Qty"] ∧
      (∀ read, read ∈ graph.precedents "total" ↔ read = "qty" ∨ read = "rate") ∧
      (∀ reader, reader ∈ graph.dependents "qty" ↔ reader = "total") ∧
      ∀ reader, reader ∈ later.dependents "total" ↔ reader = "rate" := by
  intro sum graph later
  obtain ⟨hNames, hGraph⟩ := references_are_recorded
  obtain ⟨hReads, hInverse, hLater, hInverseLater, -⟩ :=
    hGraph [("Total", sum), ("TOTAL", .field "Rate")] [("total", "rate")]
  have hLower : ["Total", "TOTAL", "Qty", "QTY", "Rate"].map Text.lower =
      ["total", "total", "qty", "qty", "rate"] := by decide +kernel
  have hReferences : sum.fieldReferences = ["Qty"] := (hNames sum).1.trans (by decide +kernel)
  -- the name that both formulas have is the only key with precedents
  have hPrecedents (key read : String) : read ∈ graph.precedents key ↔
      key = "total" ∧ (read = "qty" ∨ read = "rate") := by
    simp only [List.map_cons, List.cons.injEq] at hLower
    rw [hReads]
    simp only [sum, Expr.fieldLeaves, hLower, List.mem_cons, List.not_mem_nil, or_false, or_self,
      List.cons_append, List.nil_append, exists_eq_or_imp, exists_eq_left, ← and_or_left, eq_comm]
  refine ⟨hReferences, (hNames sum).2.trans hReferences, fun read => ?_, fun reader => ?_,
    fun reader => ?_⟩
  · simp [hPrecedents]
  · rw [hInverse, hPrecedents]
    simp
  · rw [hInverseLater, hLater, hPrecedents]
    simp

end Graph

end RowFormula
