import Mathlib.Data.List.Dedup
import RowFormula.Proofs.Graph.Order

/-! The order of calculation and how a graph is put together. What a key reads comes in any order
and is sorted by rank, the last place of a key among the keys to be ordered. Different keys have
different ranks, so nothing is left to chance: a search that lists what a key reads anew at each
turn has one result, and this depends only on which key reads which. -/
namespace RowFormula.Graph

/-! Ranks. -/

/-- The last place of a key, the places counted from a number. -/
def lastPlace? (start : Nat) (keys : List String) (key : String) : Option Nat :=
  (keys.zipIdx start).reverse.lookup key

/-- The last place of a key in a list, from its first member and the rest. -/
theorem lastPlace?_cons (start : Nat) (first : String) (rest : List String) (key : String) :
    lastPlace? start (first :: rest) key =
      (lastPlace? (start + 1) rest key).or (if key = first then some start else none) := by
  rw [lastPlace?, List.zipIdx_cons, List.reverse_cons, List.lookup_append, lastPlace?]
  congr 1
  by_cases hKey : key = first
  · simp [hKey]
  · simp [List.lookup_cons, hKey, beq_eq_false_iff_ne.mpr hKey]

theorem mem_zipIdx_of_lastPlace? {start place : Nat} {keys : List String} {key : String}
    (h : lastPlace? start keys key = some place) : (key, place) ∈ keys.zipIdx start :=
  List.mem_reverse.mp (Entries.mem_of_lookup h)

/-- Exactly the keys of a list have a last place. -/
theorem lastPlace?_eq_none_iff (start : Nat) (keys : List String) (key : String) :
    lastPlace? start keys key = none ↔ key ∉ keys := by
  induction keys generalizing start with
  | nil => simp [lastPlace?]
  | cons first rest ih => simp [lastPlace?_cons, Option.or_eq_none_iff, ih, and_comm]

theorem exists_lastPlace? (start : Nat) {keys : List String} {key : String} (h : key ∈ keys) :
    ∃ place, lastPlace? start keys key = some place :=
  Option.ne_none_iff_exists'.mp fun hNone => (lastPlace?_eq_none_iff start keys key).mp hNone h

theorem lastPlace?_cons_of_mem (start : Nat) (first : String) {rest : List String} {key : String}
    (h : key ∈ rest) :
    lastPlace? start (first :: rest) key = lastPlace? (start + 1) rest key := by
  obtain ⟨place, hPlace⟩ := exists_lastPlace? (start + 1) h
  rw [lastPlace?_cons, hPlace, Option.some_or]

/-- Different keys have different ranks. -/
theorem eq_of_lastPlace? {place : Nat} {keys : List String} {key other : String}
    (h : lastPlace? 0 keys key = some place) (h' : lastPlace? 0 keys other = some place) :
    key = other := by
  have hKey := List.mem_zipIdx_iff_getElem?.mp (mem_zipIdx_of_lastPlace? h)
  have hOther := List.mem_zipIdx_iff_getElem?.mp (mem_zipIdx_of_lastPlace? h')
  exact Option.some.inj (hKey.symm.trans hOther)

/-- One key has its last place before that of another. -/
def RankedBefore (start : Nat) (keys : List String) (key later : String) : Prop :=
  ∀ place, lastPlace? start keys key = some place →
    ∀ place', lastPlace? start keys later = some place' → place < place'

/-- Without the occurrences before the last ones the keys stand in the order of their ranks. -/
theorem pairwise_lastOccurrences (start : Nat) (keys : List String) :
    (lastOccurrences keys).Pairwise (RankedBefore start keys) := by
  induction keys generalizing start with
  | nil => exact List.Pairwise.nil
  | cons first rest ih =>
      have hMem : ∀ key ∈ lastOccurrences rest, key ∈ rest :=
        fun key hKey => (mem_lastOccurrences_iff rest key).mp hKey
      have hRest : (lastOccurrences rest).Pairwise (RankedBefore start (first :: rest)) := by
        refine (ih (start + 1)).imp_of_mem fun {key later} hKey hLater hBefore => ?_
        rwa [RankedBefore, lastPlace?_cons_of_mem start first (hMem key hKey),
          lastPlace?_cons_of_mem start first (hMem later hLater)]
      rw [lastOccurrences]
      split
      · exact hRest
      · rename_i hOnce
        refine List.pairwise_cons.mpr ⟨fun later hLater place hPlace place' hPlace' => ?_, hRest⟩
        rw [lastPlace?_cons, (lastPlace?_eq_none_iff (start + 1) rest first).mpr hOnce, if_pos rfl,
          Option.none_or, Option.some.injEq] at hPlace
        rw [lastPlace?_cons_of_mem start first (hMem later hLater)] at hPlace'
        have hBound := List.le_snd_of_mem_zipIdx (mem_zipIdx_of_lastPlace? hPlace')
        simp only at hBound
        omega

/-! Listings. -/

/-- A key with its rank, unless it is not to be ordered. -/
def withRank? (keys : List String) (key : String) : Option (Nat × String) :=
  (lastPlace? 0 keys key).map fun place => (place, key)

/-- A key is ranked by its last place. -/
theorem eq_withRank? {keys : List String} {key : String} {ranked : Nat × String}
    (h : withRank? keys key = some ranked) :
    ranked.2 = key ∧ lastPlace? 0 keys ranked.2 = some ranked.1 := by
  obtain ⟨place, hPlace, rfl⟩ := Option.map_eq_some_iff.mp h
  exact ⟨rfl, hPlace⟩

/-- What a key reads, as a search may turn to it: taken in any order, each key once, those without a
rank left out and the others sorted by rank. How keys of one rank would be placed is left open. -/
def Listed (graph : Graph) (keys : List String) (key : String) (turns : List String) : Prop :=
  ∃ (taken : List String) (ranked : List (Nat × String)),
    taken.Nodup ∧ (∀ read, read ∈ taken ↔ graph.Reads key read) ∧
      ranked.Perm (taken.filterMap (withRank? keys)) ∧
      ranked.Pairwise (fun first second => first.1 ≤ second.1) ∧ turns = ranked.map Prod.snd

section Turns

variable (graph : Graph) (keys : List String) (key : String)

/-- What a key reads, in the order of the last occurrences. -/
def rankedTurns : List String := (lastOccurrences keys).filter (· ∈ graph.precedents key)

/-- The turns of a key are the given keys that it reads. -/
theorem mem_rankedTurns_iff (read : String) :
    read ∈ rankedTurns graph keys key ↔ read ∈ keys ∧ graph.Reads key read := by
  rw [rankedTurns, mem_turns_iff, ReadsAmong, mem_lastOccurrences_iff]

theorem rankedTurns_subset : rankedTurns graph keys key ⊆ keys :=
  fun read h => ((mem_rankedTurns_iff graph keys key read).mp h).1

/-- The turns of a key come in the order of their ranks. -/
theorem pairwise_rankedTurns :
    ((rankedTurns graph keys key).filterMap (withRank? keys)).Pairwise
      fun first second => first.1 ≤ second.1 := by
  rw [List.pairwise_filterMap]
  refine ((pairwise_lastOccurrences 0 keys).filter _).imp ?_
  intro read later hBefore first hFirst second hSecond
  obtain ⟨rfl, hPlace⟩ := eq_withRank? hFirst
  obtain ⟨rfl, hPlace'⟩ := eq_withRank? hSecond
  exact Nat.le_of_lt (hBefore _ hPlace _ hPlace')

theorem map_rankedTurns :
    ((rankedTurns graph keys key).filterMap (withRank? keys)).map Prod.snd =
      rankedTurns graph keys key := by
  rw [List.map_filterMap]
  refine (List.filterMap_congr fun read hRead => ?_).trans List.filterMap_some
  obtain ⟨place, hPlace⟩ := exists_lastPlace? 0 (rankedTurns_subset graph keys key hRead)
  simp [withRank?, hPlace]

/-- Taking what the key reads in another order only permutes what has a rank. -/
theorem perm_rankedTurns {taken : List String} (hTaken : taken.Nodup)
    (hReads : ∀ read, read ∈ taken ↔ graph.Reads key read) :
    (taken.filterMap (withRank? keys)).Perm
      ((rankedTurns graph keys key).filterMap (withRank? keys)) := by
  have hKnown : (taken.filter (· ∈ keys)).filterMap (withRank? keys) =
      taken.filterMap (withRank? keys) := by
    rw [List.filterMap_filter]
    refine List.filterMap_congr fun read _ => ?_
    by_cases hRead : read ∈ keys
    · simp [hRead]
    · simp [hRead, withRank?, (lastPlace?_eq_none_iff 0 keys read).mpr hRead]
  have hOnce : (rankedTurns graph keys key).Nodup := (nodup_lastOccurrences keys).filter _
  have hSame : (taken.filter (· ∈ keys)).Perm (rankedTurns graph keys key) := by
    refine (List.perm_ext_iff_of_nodup (hTaken.filter _) hOnce).mpr fun read => ?_
    rw [mem_rankedTurns_iff, List.mem_filter, hReads, decide_eq_true_iff, and_comm]
  rw [← hKnown]
  exact hSame.filterMap _

/-- There is one way to list what a key reads. -/
theorem listed_iff (turns : List String) :
    Listed graph keys key turns ↔ turns = rankedTurns graph keys key := by
  constructor
  · rintro ⟨taken, ranked, hTaken, hReads, hRanked, hSorted, rfl⟩
    have hPerm := hRanked.trans (perm_rankedTurns graph keys key hTaken hReads)
    rw [hPerm.eq_of_pairwise ?_ hSorted (pairwise_rankedTurns graph keys key), map_rankedTurns]
    -- sorting leaves a choice only between equal ranks, and these belong to one key
    intro first second hFirst hSecond hLe hGe
    obtain ⟨read, -, hRead⟩ := List.mem_filterMap.mp (hRanked.mem_iff.mp hFirst)
    obtain ⟨read', -, hRead'⟩ := List.mem_filterMap.mp hSecond
    have hSame : first.1 = second.1 := Nat.le_antisymm hLe hGe
    exact Prod.ext hSame
      (eq_of_lastPlace? (hSame ▸ (eq_withRank? hRead).2) (eq_withRank? hRead').2)
  · rintro rfl
    have hOnce := List.nodup_dedup (graph.precedents key)
    have hReads : ∀ read, read ∈ (graph.precedents key).dedup ↔ graph.Reads key read :=
      fun read => List.mem_dedup
    exact ⟨_, _, hOnce, hReads, (perm_rankedTurns graph keys key hOnce hReads).symm,
      pairwise_rankedTurns graph keys key, (map_rankedTurns graph keys key).symm⟩

end Turns

/-! Searches. -/

/-- A search through some turns, with the keys whose own turn has begun and not ended, the order
that it goes on from and the order that it ends with. A key that is in the order or whose turn has
begun is passed; what any other key reads is searched before the key gets its place. -/
inductive Searches (graph : Graph) (keys : List String) :
    List String → List String → List String → List String → Prop where
  | ended (opened done : List String) : Searches graph keys opened done [] done
  | passed {opened done turns result : List String} {key : String}
      (met : key ∈ done ∨ key ∈ opened) (rest : Searches graph keys opened done turns result) :
      Searches graph keys opened done (key :: turns) result
  | entered {opened done inner middle turns result : List String} {key : String}
      (fresh : key ∉ done ∧ key ∉ opened) (listed : Listed graph keys key inner)
      (search : Searches graph keys (key :: opened) done inner middle)
      (rest : Searches graph keys opened (middle ++ [key]) turns result) :
      Searches graph keys opened done (key :: turns) result

/-- Searches of two graphs go in step when the same keys read the same keys. -/
theorem Searches.congr {graph other : Graph}
    (same : ∀ reader read, graph.Reads reader read ↔ other.Reads reader read)
    {keys opened done turns result : List String}
    (search : Searches graph keys opened done turns result) :
    Searches other keys opened done turns result := by
  induction search with
  | ended => exact .ended _ _
  | passed met _ ih => exact .passed met ih
  | entered fresh listed _ _ ihInner ihRest =>
      obtain ⟨taken, ranked, hTaken, hReads, hRest⟩ := listed
      exact .entered fresh
        ⟨taken, ranked, hTaken, fun read => (hReads read).trans (same _ read), hRest⟩ ihInner ihRest

/-- The free keys are those whose turn has not begun, each once. -/
structure Unopened (keys opened free : List String) : Prop where
  nodup : free.Nodup
  mem_iff : ∀ key, key ∈ free ↔ key ∈ keys ∧ key ∉ opened

section Visit

variable {graph : Graph} {keys opened done free : List String}

theorem Unopened.lastOccurrences (keys : List String) :
    Unopened keys [] (Graph.lastOccurrences keys) where
  nodup := nodup_lastOccurrences keys
  mem_iff := by simp [mem_lastOccurrences_iff]

theorem Unopened.erase (h : Unopened keys opened free) (key : String) :
    Unopened keys (key :: opened) (free.erase key) where
  nodup := h.nodup.erase key
  mem_iff := by
    intro other
    rw [h.nodup.mem_erase_iff, h.mem_iff, List.mem_cons, not_or, and_left_comm]

/-- A search ends where visits to its turns lead. -/
theorem Searches.eq_foldl {turns result : List String}
    (search : Searches graph keys opened done turns result) (hFree : Unopened keys opened free)
    (hKnown : turns ⊆ keys) :
    result = turns.foldl (visit graph (lastOccurrences keys) free) done := by
  induction search generalizing free with
  | ended => rfl
  | @passed opened done turns result key met _ ih =>
      have hTaken : ¬(key ∈ free ∧ key ∉ done) := by
        rintro ⟨hIn, hNot⟩
        exact met.elim hNot ((hFree.mem_iff key).mp hIn).2
      rw [List.foldl_cons, visit_of_taken graph _ free done key hTaken]
      exact ih hFree (List.cons_subset.mp hKnown).2
  | @entered opened done inner middle turns result key fresh listed _ _ ihInner ihRest =>
      obtain ⟨hKey, hTurns⟩ := List.cons_subset.mp hKnown
      obtain rfl := (listed_iff graph keys key inner).mp listed
      have hMiddle := ihInner (hFree.erase key) (rankedTurns_subset graph keys key)
      rw [rankedTurns] at hMiddle
      rw [List.foldl_cons, visit_of_fresh graph _ free done key
        ⟨(hFree.mem_iff key).mpr ⟨hKey, fresh.2⟩, fresh.1⟩, ← hMiddle]
      exact ihRest hFree hTurns

/-- Turns are searched one after the other. -/
theorem searches_foldl {turn : List String → String → List String} {turns : List String}
    (each : ∀ done, ∀ key ∈ turns, ∀ rest result,
      Searches graph keys opened (turn done key) rest result →
        Searches graph keys opened done (key :: rest) result)
    (done : List String) : Searches graph keys opened done turns (turns.foldl turn done) := by
  induction turns generalizing done with
  | nil => exact .ended opened done
  | cons key turns ih =>
      have hRest := ih (fun done other ho => each done other (List.mem_cons_of_mem _ ho))
        (turn done key)
      exact each done key List.mem_cons_self _ _ hRest

/-- Every visit is the beginning of a search. -/
theorem searches_visit (free done : List String) (key : String) (hFree : Unopened keys opened free)
    (hKey : key ∈ keys) (turns result : List String)
    (rest : Searches graph keys opened (visit graph (lastOccurrences keys) free done key) turns
      result) :
    Searches graph keys opened done (key :: turns) result := by
  induction free, done, key using visit.induct graph (lastOccurrences keys)
    generalizing opened turns result with
  | case2 free done key hTaken =>
      rw [visit_of_taken graph _ free done key hTaken] at rest
      refine .passed ?_ rest
      by_cases hDone : key ∈ done
      · exact Or.inl hDone
      · exact Or.inr (not_not.mp fun hNot => hTaken ⟨(hFree.mem_iff key).mpr ⟨hKey, hNot⟩, hDone⟩)
  | case1 free done key hFresh ih =>
      rw [visit_of_fresh graph _ free done key hFresh] at rest
      have hListed := (listed_iff graph keys key _).mpr rfl
      -- what the key reads is visited with one free key less, as it is searched with one more open
      refine .entered ⟨hFresh.2, ((hFree.mem_iff key).mp hFresh.1).2⟩ hListed
        (searches_foldl (fun done other ho turns result rest => ?_) done) rest
      exact ih done other (hFree.erase key) (rankedTurns_subset graph keys key ho) turns result rest

end Visit

/-- A search through all keys ends with the order of calculation, and there is such a search. -/
theorem searches_iff (graph : Graph) (keys result : List String) :
    Searches graph keys [] [] keys result ↔ result = graph.order keys := by
  have hFree := Unopened.lastOccurrences keys
  constructor
  · intro search
    exact search.eq_foldl hFree (List.Subset.refl keys)
  · rintro rfl
    exact searches_foldl (fun done key hKey turns result rest =>
      searches_visit _ done key hFree hKey turns result rest) []

/-- Two graphs with the same references order any keys alike, in whatever sequence and however
often the references have been recorded. A search of one, in whatever order it takes what a key
reads, ends with the order of the other. -/
theorem order_of_same_references {references others : List (String × String)}
    (same : ∀ reference, reference ∈ references ↔ reference ∈ others) (keys : List String) :
    (ofReferences references).order keys = (ofReferences others).order keys ∧
      ∀ result, Searches (ofReferences references) keys [] [] keys result ↔
        result = (ofReferences others).order keys := by
  have hReads : ∀ reader read,
      (ofReferences references).Reads reader read ↔ (ofReferences others).Reads reader read := by
    intro reader read
    rw [reads_ofReferences_iff, reads_ofReferences_iff, same]
  have hOrder : (ofReferences references).order keys = (ofReferences others).order keys :=
    (searches_iff _ keys _).mp (((searches_iff _ keys _).mpr rfl).congr hReads)
  exact ⟨hOrder, fun result => (searches_iff _ keys result).trans (by rw [hOrder])⟩

/-- A cycle with a key that reads it, recorded in two ways, and keys of which one occurs again. -/
theorem order_of_same_references_cycle :
    let references := [("b", "d"), ("a", "c"), ("b", "c"), ("c", "b"), ("c", "d")]
    let others := [("c", "d"), ("c", "b"), ("b", "c"), ("c", "d"), ("b", "d"), ("a", "c")]
    let keys := ["b", "d", "a", "c", "b"]
    (∀ reference, reference ∈ references ↔ reference ∈ others) ∧
      (ofReferences references).order keys = (ofReferences others).order keys ∧
      Searches (ofReferences references) keys [] [] keys ["a", "c", "b", "d"] := by
  intro references others keys
  have same : ∀ reference, reference ∈ references ↔ reference ∈ others := by
    intro reference
    constructor <;> revert reference <;> decide
  obtain ⟨hOrder, hSearch⟩ := order_of_same_references same keys
  exact ⟨same, hOrder, (hSearch _).mpr (by decide +kernel)⟩

end RowFormula.Graph
