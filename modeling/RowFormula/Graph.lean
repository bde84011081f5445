import RowFormula.Formula.Expr

/-! Which field reads which. Fields are told apart by their keys. The relation is kept both
ways, so that neither the fields read by one nor the readers of one are searched for. -/
namespace RowFormula

/-- For each key the keys that are related to it, each once. -/
abbrev Adjacency := List (String × List String)

namespace Adjacency

def get (relation : Adjacency) (key : String) : List String := (relation.lookup key).getD []

/-- The relation with one more pair. A pair that is there already changes nothing. -/
def add (key value : String) : Adjacency → Adjacency
  | [] => [(key, [value])]
  | (k, values) :: rest =>
    if k = key then (k, if value ∈ values then values else values ++ [value]) :: rest
    else (k, values) :: add key value rest

theorem get_cons (k key : String) (values : List String) (rest : Adjacency) :
    get ((k, values) :: rest) key = if key = k then values else get rest key := by
  by_cases h : key = k
  · simp [get, h]
  · simp [get, List.lookup_cons, h, beq_eq_false_iff_ne.mpr h]

/-- One more pair is related, and all others as before. -/
theorem mem_get_add (relation : Adjacency) (key value k v : String) :
    v ∈ get (add key value relation) k ↔ (k = key ∧ v = value) ∨ v ∈ get relation k := by
  induction relation with
  | nil =>
    have hnil : get [] k = [] := rfl
    by_cases h : k = key <;> simp_all [add, get_cons]
  | cons first rest ih =>
    obtain ⟨n, values⟩ := first
    simp only [add]
    split
    · next same =>
      subst same
      simp only [get_cons]
      by_cases h : k = n
      · by_cases hv : value ∈ values
        · simp only [h, hv, if_true, true_and]
          exact ⟨.inr, fun hm => hm.elim (fun he => he ▸ hv) id⟩
        · simp [h, hv, or_comm]
      · simp [h]
    · next other =>
      simp only [get_cons]
      by_cases h : k = n
      · have hk : k ≠ key := h ▸ other
        simp [h, show n ≠ key from other]
      · simp [h, ih]

end Adjacency

structure Graph where
  /-- The fields that each field reads. -/
  precedentsOf : Adjacency
  /-- The fields that read each field. -/
  dependentsOf : Adjacency

namespace Graph

def empty : Graph := ⟨[], []⟩

/-- The keys of the fields that a field reads. -/
def precedents (graph : Graph) (key : String) : List String := graph.precedentsOf.get key

/-- The keys of the fields that read a field. -/
def dependents (graph : Graph) (key : String) : List String := graph.dependentsOf.get key

/-- The graph in which `dependent` also reads `precedent`. -/
def add (graph : Graph) (precedent dependent : String) : Graph :=
  ⟨graph.precedentsOf.add dependent precedent, graph.dependentsOf.add precedent dependent⟩

/-- The graph in which a field also reads all that an expression names. -/
def addFormula (graph : Graph) (name : String) (e : Expr) : Graph :=
  e.fieldReferences.foldl (fun graph reference => graph.add (Field.key reference) (Field.key name))
    graph

/-- The graph of named expressions. -/
def ofFormulas (formulas : List (String × Expr)) : Graph :=
  formulas.foldl (fun graph formula => graph.addFormula formula.1 formula.2) empty

/-- The keys in the order of their last occurrences. -/
def lastOccurrences : List String → List String
  | [] => []
  | key :: rest => if key ∈ rest then lastOccurrences rest else key :: lastOccurrences rest

/-- The order reached so far, continued up to one key: first all that it reads, in the order
of `ranked`, then the key itself. Keys that are in the order already, or whose own turn
has begun and not ended, are left out; only the others are `free`. -/
def visit (graph : Graph) (ranked free done : List String) (key : String) : List String :=
  if _h : key ∈ free ∧ key ∉ done then
    let read := ranked.filter (· ∈ graph.precedents key)
    read.foldl (fun done precedent => visit graph ranked (free.erase key) done precedent) done ++
      [key]
  else done
termination_by free.length
decreasing_by
  rw [List.length_erase_of_mem _h.1]
  have := List.length_pos_of_mem _h.1
  omega

/-- The keys in an order in which each comes after those that it reads. Keys on a cycle
have a place too. The keys are taken as they are given, and directly before each one come those
that it reads, at once or through others, and that have no place yet. -/
def order (graph : Graph) (keys : List String) : List String :=
  let ranked := lastOccurrences keys
  keys.foldl (visit graph ranked ranked) []

/-- The keys among `free` that some key of a frontier reads. -/
def readBy (graph : Graph) (free frontier : List String) : List String :=
  let read := frontier.flatMap graph.precedents
  free.filter (· ∈ read)

/-- The keys of one list that are not in another. -/
def without (keys taken : List String) : List String := keys.filter (· ∉ taken)

/-- Keys that are read leave fewer free ones, so going on to what is read comes to an end. -/
theorem length_without_readBy (graph : Graph) (free frontier : List String)
    (h : graph.readBy free frontier ≠ []) :
    (without free (graph.readBy free frontier)).length < free.length := by
  obtain ⟨key, hkey⟩ := List.exists_mem_of_ne_nil _ h
  have hfree : key ∈ free := (List.mem_filter.1 hkey).1
  exact List.length_filter_lt_length_iff_exists.2 ⟨key, hfree, by simpa using hkey⟩

/-- The keys among `free` that can be reached from a frontier by going to what is read. -/
def reach (graph : Graph) (free frontier : List String) : List String :=
  if _h : graph.readBy free frontier = [] then []
  else
    graph.readBy free frontier ++
      reach graph (without free (graph.readBy free frontier)) (graph.readBy free frontier)
termination_by free.length
decreasing_by exact length_without_readBy graph free frontier _h

/-- All keys that some field reads. -/
def readKeys (graph : Graph) : List String := graph.precedentsOf.flatMap (·.2)

/-- Whether a field reads itself, at once or through others. -/
def isCircular (graph : Graph) (key : String) : Bool :=
  key ∈ graph.reach graph.readKeys [key]

end Graph

end RowFormula
