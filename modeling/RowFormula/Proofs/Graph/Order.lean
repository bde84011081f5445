import Mathlib.Data.List.Nodup
import RowFormula.Proofs.Graph.Cycle

/-! The order of calculation. A visit puts a key behind everything it reads, unless the way
back to the key is still open; then the key is read by what it reads. -/
namespace RowFormula.Graph

open Relation

theorem mem_lastOccurrences_iff (keys : List String) (key : String) :
    key ∈ lastOccurrences keys ↔ key ∈ keys := by
  induction keys with
  | nil => rfl
  | cons first rest ih =>
      by_cases hAgain : first ∈ rest
      · rw [lastOccurrences, if_pos hAgain, ih, List.mem_cons]
        exact (or_iff_right_of_imp fun h => h ▸ hAgain).symm
      · rw [lastOccurrences, if_neg hAgain, List.mem_cons, List.mem_cons, ih]

theorem nodup_lastOccurrences (keys : List String) : (lastOccurrences keys).Nodup := by
  induction keys with
  | nil => exact List.nodup_nil
  | cons first rest ih =>
      by_cases hAgain : first ∈ rest
      · rwa [lastOccurrences, if_pos hAgain]
      · rw [lastOccurrences, if_neg hAgain]
        exact List.nodup_cons.mpr ⟨fun h => hAgain ((mem_lastOccurrences_iff rest first).mp h), ih⟩

/-- Keys that occur once stay as they are. -/
theorem lastOccurrences_of_nodup {keys : List String} (h : keys.Nodup) :
    lastOccurrences keys = keys := by
  induction keys with
  | nil => rfl
  | cons first rest ih =>
      obtain ⟨hFirst, hRest⟩ := List.nodup_cons.mp h
      rw [lastOccurrences, if_neg hFirst, ih hRest]

/-- An order in which each key of a list stands once, behind the keys of the list that it
reads. A key that reads it back, at once or through others, may stand on either side. -/
inductive Ordered (graph : Graph) (keys : List String) : List String → Prop where
  | nil : Ordered graph keys []
  | snoc {done : List String} {key : String} (prior : Ordered graph keys done)
      (known : key ∈ keys) (fresh : key ∉ done)
      (settled : ∀ read ∈ keys, graph.Reads key read →
        read ∈ done ∨ ReflTransGen (graph.ReadsAmong keys) read key) :
      Ordered graph keys (done ++ [key])

namespace Ordered

variable {graph : Graph} {keys done : List String}

theorem subset (ordered : Ordered graph keys done) : done ⊆ keys := by
  induction ordered with
  | nil => exact List.nil_subset keys
  | snoc prior known fresh settled ih =>
      exact List.append_subset.mpr ⟨ih, List.cons_subset.mpr ⟨known, List.nil_subset keys⟩⟩

theorem nodup (ordered : Ordered graph keys done) : done.Nodup := by
  induction ordered with
  | nil => exact List.nodup_nil
  | @snoc done key prior known fresh settled ih =>
      refine List.nodup_append.mpr ⟨ih, List.nodup_singleton key, ?_⟩
      intro other ho last hl same
      exact fresh (List.mem_singleton.mp hl ▸ same ▸ ho)

/-- At its place each key finds before it what it reads, or is read back. -/
theorem before_or_back (ordered : Ordered graph keys done) {before after : List String}
    {key : String} (split : done = before ++ key :: after) {read : String} (hKnown : read ∈ keys)
    (hRead : graph.Reads key read) :
    read ∈ before ∨ ReflTransGen (graph.ReadsAmong keys) read key := by
  induction ordered generalizing before after with
  | nil => simp at split
  | @snoc done last prior known fresh settled ih =>
      rcases List.eq_nil_or_concat after with rfl | ⟨after, end_, rfl⟩
      · obtain ⟨rfl, hLast⟩ := List.append_inj' split rfl
        obtain rfl : last = key := by simpa using hLast
        exact settled read hKnown hRead
      · have split' : done ++ [last] = (before ++ key :: after) ++ [end_] := by simpa using split
        exact ih (List.append_inj' split' rfl).1

/-- What a key reads comes before it, or reads it back. -/
theorem idxOf_lt_or_back (ordered : Ordered graph keys done) {reader read : String}
    (hReader : reader ∈ done) (hKnown : read ∈ keys) (hRead : graph.Reads reader read) :
    done.idxOf read < done.idxOf reader ∨ ReflTransGen (graph.ReadsAmong keys) read reader := by
  obtain ⟨before, after, rfl⟩ := List.append_of_mem hReader
  refine (ordered.before_or_back rfl hKnown hRead).imp_left fun hBefore => ?_
  have hFresh : reader ∉ before := fun h =>
    (List.nodup_append.mp ordered.nodup).2.2 reader h reader List.mem_cons_self rfl
  rw [List.idxOf_append_of_mem hBefore, List.idxOf_append_of_notMem hFresh, List.idxOf_cons_self]
  exact List.idxOf_lt_length_of_mem hBefore

end Ordered

/-- What a visit makes of the order reached so far: it is kept and only free keys are added. -/
structure Extends (graph : Graph) (keys free done result : List String) : Prop where
  ordered : Ordered graph keys result
  keeps : done ⊆ result
  adds : ∀ key ∈ result, key ∈ done ∨ key ∈ free

namespace Extends

variable {graph : Graph} {keys free done middle result : List String}

theorem refl (ordered : Ordered graph keys done) : Extends graph keys free done done :=
  ⟨ordered, List.Subset.refl _, fun _ h => Or.inl h⟩

/-- One extension after another is an extension. -/
theorem trans (first : Extends graph keys free done middle)
    (second : Extends graph keys free middle result) : Extends graph keys free done result :=
  ⟨second.ordered, List.Subset.trans first.keeps second.keeps,
    fun key h => (second.adds key h).elim (first.adds key) Or.inr⟩

/-- The keys of a list are visited one after another. -/
theorem foldl {visit : List String → String → List String} (turns : List String)
    (each : ∀ done, Ordered graph keys done → ∀ key ∈ turns,
      Extends graph keys free done (visit done key) ∧ (key ∈ free → key ∈ visit done key))
    (ordered : Ordered graph keys done) :
    Extends graph keys free done (turns.foldl visit done) ∧
      ∀ key ∈ turns, key ∈ free → key ∈ turns.foldl visit done := by
  induction turns generalizing done with
  | nil => exact ⟨refl ordered, by simp⟩
  | cons turn turns ih =>
      obtain ⟨hTurn, hPlaced⟩ := each done ordered turn List.mem_cons_self
      obtain ⟨hRest, hAll⟩ :=
        ih (fun done hd key hk => each done hd key (List.mem_cons_of_mem _ hk)) hTurn.ordered
      refine ⟨hTurn.trans hRest, fun key hk hFree => ?_⟩
      rcases List.mem_cons.mp hk with rfl | hk
      · exact hRest.keeps (hPlaced hFree)
      · exact hAll key hk hFree

end Extends

/-- A visit goes to those of the keys that its key reads. -/
theorem mem_turns_iff (graph : Graph) (ranked : List String) (key read : String) :
    read ∈ ranked.filter (· ∈ graph.precedents key) ↔ graph.ReadsAmong ranked key read := by
  simp [ReadsAmong, Reads]

/-- A key that has a place, or whose turn has begun, changes nothing. -/
theorem visit_of_taken (graph : Graph) (ranked free done : List String) (key : String)
    (h : ¬(key ∈ free ∧ key ∉ done)) : visit graph ranked free done key = done := by
  rw [visit, dif_neg h]

/-- A key whose turn begins is placed behind all that it reads. -/
theorem visit_of_fresh (graph : Graph) (ranked free done : List String) (key : String)
    (h : key ∈ free ∧ key ∉ done) :
    visit graph ranked free done key =
      (ranked.filter (· ∈ graph.precedents key)).foldl
        (visit graph ranked (free.erase key)) done ++ [key] := by
  rw [visit, dif_pos h]

/-- A visit keeps the order and gives the key a place if it is free. Each key that is not free
is being visited itself, so it reads the visited one through others. -/
theorem visit_extends (graph : Graph) (keys ranked : List String)
    (sameKeys : ∀ key, key ∈ ranked ↔ key ∈ keys) (free done : List String) (key : String)
    (hNodup : free.Nodup) (hKnown : free ⊆ keys)
    (hOpen : ∀ other ∈ keys, other ∉ free → TransGen (graph.ReadsAmong keys) other key)
    (ordered : Ordered graph keys done) :
    Extends graph keys free done (visit graph ranked free done key) ∧
      (key ∈ free → key ∈ visit graph ranked free done key) := by
  induction free, done, key using visit.induct graph ranked with
  | case2 free done key hTaken =>
      rw [visit_of_taken graph ranked free done key hTaken]
      exact ⟨Extends.refl ordered, fun hFree => not_not.mp fun hNot => hTaken ⟨hFree, hNot⟩⟩
  | case1 free done key hFresh ih =>
      rw [visit_of_fresh graph ranked free done key hFresh]
      have hErase : ∀ other, other ∈ free.erase key ↔ other ≠ key ∧ other ∈ free :=
        fun other => hNodup.mem_erase_iff
      have hReads : ∀ other ∈ ranked.filter (· ∈ graph.precedents key),
          graph.ReadsAmong keys key other := by
        intro other ho
        obtain ⟨hRanked, hRead⟩ := (mem_turns_iff graph ranked key other).mp ho
        exact ⟨(sameKeys other).mp hRanked, hRead⟩
      -- whatever is open while a precedent is visited leads to it through the key
      have hOpen' : ∀ other ∈ keys, other ∉ free.erase key →
          ReflTransGen (graph.ReadsAmong keys) other key := by
        intro other ho hNot
        by_cases hSame : other = key
        · exact hSame ▸ ReflTransGen.refl
        · have hOpened : other ∉ free := fun hFree => hNot ((hErase other).mpr ⟨hSame, hFree⟩)
          exact (hOpen other ho hOpened).to_reflTransGen
      obtain ⟨hFold, hPlaced⟩ := @Extends.foldl graph keys (free.erase key) done _ _
        (fun done hDone other ho => ih done other (hNodup.erase key)
          (List.Subset.trans List.erase_subset hKnown)
          (fun opened hk hNot => TransGen.tail' (hOpen' opened hk hNot) (hReads other ho)) hDone)
        ordered
      have hUnplaced : key ∉ (ranked.filter (· ∈ graph.precedents key)).foldl
          (visit graph ranked (free.erase key)) done := by
        intro hIn
        rcases hFold.adds key hIn with hDone | hErased
        · exact hFresh.2 hDone
        · exact ((hErase key).mp hErased).1 rfl
      refine ⟨⟨Ordered.snoc hFold.ordered (hKnown hFresh.1) hUnplaced ?_, ?_, ?_⟩, ?_⟩
      · intro other ho hRead
        by_cases hFree : other ∈ free.erase key
        · exact Or.inl (hPlaced other ((mem_turns_iff graph ranked key other).mpr
            ⟨(sameKeys other).mpr ho, hRead⟩) hFree)
        · exact Or.inr (hOpen' other ho hFree)
      · exact List.Subset.trans hFold.keeps (List.subset_append_left _ _)
      · intro other ho
        rcases List.mem_append.mp ho with hPrior | hLast
        · exact (hFold.adds other hPrior).imp_right List.mem_of_mem_erase
        · exact Or.inr (List.mem_singleton.mp hLast ▸ hFresh.1)
      · exact fun _ => List.mem_append_right _ (List.mem_singleton_self key)

/-- Nothing is open when the order is begun. -/
theorem order_extends (graph : Graph) (keys : List String) :
    Extends graph keys keys [] (graph.order keys) ∧
      ∀ key ∈ keys, key ∈ graph.order keys := by
  have hSame := mem_lastOccurrences_iff keys
  obtain ⟨hFold, hPlaced⟩ := @Extends.foldl graph keys (lastOccurrences keys) [] _ keys
    (fun done hDone key _ => visit_extends graph keys (lastOccurrences keys) hSame
      (lastOccurrences keys) done key (nodup_lastOccurrences keys)
      (fun other ho => (hSame other).mp ho)
      (fun other ho hNot => absurd ((hSame other).mpr ho) hNot) hDone)
    Ordered.nil
  exact ⟨⟨hFold.ordered, hFold.keeps, fun key h => Or.inr (hFold.ordered.subset h)⟩,
    fun key hk => hPlaced key hk ((hSame key).mpr hk)⟩

/-- Going through all keys puts them all in order. -/
theorem order_ordered (graph : Graph) (keys : List String) :
    Ordered graph keys (graph.order keys) :=
  (order_extends graph keys).1.ordered

/-- The order has the keys it is made for and no others. -/
theorem mem_order_iff (graph : Graph) (keys : List String) (key : String) :
    key ∈ graph.order keys ↔ key ∈ keys :=
  ⟨fun h => (order_ordered graph keys).subset h, (order_extends graph keys).2 key⟩

/-- The order lists each key once. -/
theorem nodup_order (graph : Graph) (keys : List String) : (graph.order keys).Nodup :=
  (order_ordered graph keys).nodup

/-- Keys that have their place already are passed over. -/
theorem foldl_visit_of_subset (graph : Graph) (ranked free : List String) {turns done : List String}
    (h : turns ⊆ done) : turns.foldl (visit graph ranked free) done = done := by
  induction turns with
  | nil => rfl
  | cons key turns ih =>
      obtain ⟨hKey, hTurns⟩ := List.cons_subset.mp h
      rw [List.foldl_cons, visit_of_taken graph ranked free done key fun hFresh => hFresh.2 hKey]
      exact ih hTurns

/-- Keys that read neither themselves nor later ones stay where they are. -/
theorem order_eq_self (graph : Graph) {keys : List String} (hNodup : keys.Nodup)
    (hSelf : ∀ key ∈ keys, ¬graph.Reads key key)
    (hLater : keys.Pairwise fun key later => ¬graph.Reads key later) :
    graph.order keys = keys := by
  have hFold : ∀ before after, keys = before ++ after →
      after.foldl (visit graph keys keys) before = keys := by
    intro before after hSplit
    induction after generalizing before with
    | nil => simpa using hSplit.symm
    | cons key after ih =>
        have hFresh : key ∈ keys ∧ key ∉ before := by
          refine ⟨by rw [hSplit]; simp, fun hBefore => ?_⟩
          exact (List.nodup_append.mp (hSplit ▸ hNodup)).2.2 key hBefore key List.mem_cons_self rfl
        have hRead : keys.filter (· ∈ graph.precedents key) ⊆ before := by
          intro read hr
          obtain ⟨hKnown, hr⟩ := (mem_turns_iff graph keys key read).mp hr
          rw [hSplit, List.mem_append, List.mem_cons] at hKnown
          rcases hKnown with hBefore | rfl | hAfter
          · exact hBefore
          · exact absurd hr (hSelf read hFresh.1)
          · have hTail := (List.pairwise_append.mp (hSplit ▸ hLater)).2.1
            exact absurd hr ((List.pairwise_cons.mp hTail).1 read hAfter)
        rw [List.foldl_cons, visit_of_fresh graph keys keys before key hFresh,
          foldl_visit_of_subset graph keys _ hRead]
        exact ih (before ++ [key]) (by simpa using hSplit)
  rw [order, lastOccurrences_of_nodup hNodup]
  exact hFold [] keys rfl

/-- In the order of some keys each of them stands once and nothing else does. A key that is read
comes before its reader unless it reads the reader too, at once or through others of the keys. -/
theorem order_topological (references : List (String × String)) (keys : List String) :
    let order := (ofReferences references).order keys
    (∀ key, order.count key = if key ∈ keys then 1 else 0) ∧
      ∀ reader ∈ keys, ∀ read ∈ keys, (read, reader) ∈ references → read ≠ reader →
        ¬TransGen (fun reader read => read ∈ keys ∧ (read, reader) ∈ references) read reader →
        order.idxOf read < order.idxOf reader := by
  intro order
  have hOrdered := order_ordered (ofReferences references) keys
  have hMem := mem_order_iff (ofReferences references) keys
  refine ⟨fun key => ?_, fun reader hReader read hKnown hRef hOther hNotBack => ?_⟩
  · rw [hOrdered.nodup.count]
    exact if_congr (hMem key) rfl rfl
  · have hRead := (reads_ofReferences_iff references reader read).mpr hRef
    refine (hOrdered.idxOf_lt_or_back ((hMem reader).mpr hReader) hKnown hRead).resolve_right ?_
    intro hBack
    refine hNotBack (TransGen.mono (fun reader read h => ?_) _ _
      ((reflTransGen_iff_eq_or_transGen.mp hBack).resolve_left (Ne.symm hOther)))
    exact ⟨h.1, (reads_ofReferences_iff references reader read).mp h.2⟩

/-- A key that reads itself and lies on a longer cycle too, with a key below the cycle and one above
it, which is asked for twice. -/
theorem order_topological_cycle :
    let references := [("a", "b"), ("b", "b"), ("b", "c"), ("c", "b"), ("c", "d")]
    let keys := ["d", "c", "b", "a", "d"]
    let order := (ofReferences references).order keys
    order.count "d" = 1 ∧ order.idxOf "a" < order.idxOf "b" ∧
      order.idxOf "c" < order.idxOf "d" := by
  intro references keys order
  obtain ⟨hCount, hBefore⟩ := order_topological references keys
  have hNotBack : ∀ read reader, reader ∉ (ofReferences references).reach keys [read] →
      ¬TransGen (fun reader read => read ∈ keys ∧ (read, reader) ∈ references) read reader := by
    intro read reader hMissed path
    refine hMissed (mem_reach_of_transGen _ keys [read] (List.mem_singleton_self read) ?_)
    exact TransGen.mono (fun reader read h =>
      ⟨h.1, (reads_ofReferences_iff references reader read).mpr h.2⟩) _ _ path
  exact ⟨(hCount "d").trans (if_pos (by decide)),
    hBefore "b" (by decide) "a" (by decide) (by decide) (by decide)
      (hNotBack "a" "b" (by decide +kernel)),
    hBefore "d" (by decide) "c" (by decide) (by decide) (by decide)
      (hNotBack "c" "d" (by decide +kernel))⟩

end RowFormula.Graph
