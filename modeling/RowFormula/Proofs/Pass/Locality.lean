import RowFormula.Proofs.Pass.Consistency

/-! What a computed field depends on. Two tables may share some formula fields together with all
that these read. Then the shared fields are computed alike, whatever else the tables declare,
in whatever order it is planned and whatever the rows store under other names. -/
namespace RowFormula

open Relation

/-- Formula fields that two tables have in common with all the formula fields that they read.
The stored fields that they read hold the same in two rows. -/
structure Shared (fields others : List Field) (row row' : Row) (inside : Field → Prop) : Prop where
  mem_left : ∀ f, inside f → f ∈ fields
  mem_right : ∀ f, inside f → f ∈ others
  isFormula : ∀ f, inside f → f.isFormula = true
  found : ∀ f, inside f → ∀ e, f.expr? = some e → ∀ name ∈ e.fieldReferences,
    Field.find? fields name = Field.find? others name
  closed : ∀ f g, inside f → Field.Reads fields f g → inside g
  stored : ∀ f g, inside f → g ∈ fields → f.Mentions g → g.isFormula = false →
    row.get? g.name = row'.get? g.name

namespace Shared

variable {fields others : List Field} {row row' : Row} {inside : Field → Prop}
  (shared : Shared fields others row row' inside)
  (distinct : Field.Distinct fields) (distinct' : Field.Distinct others)

include shared distinct distinct'

/-- A field that is mentioned stands in both tables or in neither. -/
theorem mem_iff_of_mentions {f g : Field} (hInside : inside f) (h : f.Mentions g) :
    g ∈ fields ↔ g ∈ others := by
  obtain ⟨e, hParsed, name, hRef, hName⟩ := h
  have hFind := congrArg (· = some g) (shared.found f hInside e hParsed name hRef)
  simp only [distinct.find?_eq_some_iff, distinct'.find?_eq_some_iff, hName, and_true] at hFind
  exact Iff.of_eq hFind

/-- Shared fields lie on the same cycles. -/
theorem onCycle_iff {f : Field} (hInside : inside f) :
    f.OnCycle fields ↔ f.OnCycle others := by
  constructor
  · intro hCycle
    refine (Field.transGen_of_closed (fun f g hf hRead => ⟨?_, ?_⟩) hInside hCycle).1
    · have hMem := shared.mem_iff_of_mentions distinct distinct' hf hRead.mentions
      exact ⟨shared.mem_right f hf, hRead.reader_isFormula, hMem.mp hRead.read_mem,
        hRead.read_isFormula, hRead.mentions⟩
    · exact shared.closed f g hf hRead
  · intro hCycle
    refine (Field.transGen_of_closed (fun f g hf hRead => ?_) hInside hCycle).1
    have hMem := shared.mem_iff_of_mentions distinct distinct' hf hRead.mentions
    have hRead' : Field.Reads fields f g := ⟨shared.mem_left f hf, hRead.reader_isFormula,
      hMem.mpr hRead.read_mem, hRead.read_isFormula, hRead.mentions⟩
    exact ⟨hRead', shared.closed f g hf hRead'⟩

/-- The step of a shared field gets the same mark in both plans. -/
theorem mark_eq {f : Field} (hInside : inside f) :
    (Step.ofField f).mark (stepGraph (Step.ofFields fields)) =
      (Step.ofField f).mark (stepGraph (Step.ofFields others)) := by
  have hFormula := shared.isFormula f hInside
  have hLeft := isCircular_stepGraph_iff distinct (shared.mem_left f hInside) hFormula
  have hRight := isCircular_stepGraph_iff distinct' (shared.mem_right f hInside) hFormula
  have hCycle := shared.onCycle_iff distinct distinct' hInside
  simp only [Step.mark, Step.key_ofField]
  rw [Bool.eq_iff_iff.mpr ((hLeft.trans hCycle).trans hRight.symm)]

/-- A shared formula has one outcome on rows that hold the same for what it names. -/
theorem eval_eq (now : Time.Instant) {left right : Row} {f : Field} (hInside : inside f) {e : Expr}
    (hParsed : f.expr? = some e)
    (same : ∀ g ∈ fields, g ∈ others → f.Mentions g → left.get? g.name = right.get? g.name) :
    e.eval ⟨left, fields, now⟩ = e.eval ⟨right, others, now⟩ := by
  refine e.eval_congr (fun _ => rfl) (shared.found f hInside e hParsed) ?_
  intro name hRef g hFind
  obtain ⟨hMem, hName⟩ := (distinct.find?_eq_some_iff name g).mp hFind
  have hMentions : f.Mentions g := ⟨e, hParsed, name, hRef, hName⟩
  have hMem' := (shared.mem_iff_of_mentions distinct distinct' hInside hMentions).mp hMem
  exact same g hMem hMem' hMentions

/-- In dependency order shared fields get the same cells, by induction along the references. -/
theorem dependency_get?_eq (now : Time.Instant) {f : Field} (hInside : inside f) :
    ((Plan.ofFields fields .dependency).compute now row).row.get? f.name =
      ((Plan.ofFields others .dependency).compute now row').row.get? f.name := by
  have hAll : ∀ f ∈ fields, inside f →
      ((Plan.ofFields fields .dependency).compute now row).row.get? f.name =
        ((Plan.ofFields others .dependency).compute now row').row.get? f.name := by
    apply Field.reads_induction
    intro f hf ih hInside
    have hFormula := shared.isFormula f hInside
    rw [Plan.dependency_get? distinct now row hf hFormula,
      Plan.dependency_get? distinct' now row' (shared.mem_right f hInside) hFormula,
      ← shared.mark_eq distinct distinct' hInside]
    refine congrArg some (Step.compute_congr fun hStraight e hCompiled => ?_)
    have hParsed := (Compiled.ofText_eq_parsed_iff f e).mp hCompiled
    apply shared.eval_eq distinct distinct' now hInside hParsed
    intro g hMem hMem' hMentions
    cases hKind : g.isFormula with
    | true =>
        have hRead : Field.Reads fields f g := ⟨hf, hFormula, hMem, hKind, hMentions⟩
        refine ih g hRead ?_ (shared.closed f g hInside hRead)
        intro hCycle
        have hMarked := (isCircular_stepGraph_iff distinct hf hFormula).mpr hCycle
        exact Bool.false_ne_true (hStraight.symm.trans hMarked)
    | false =>
        rw [Plan.compute_get?_of_not_mem now row (Plan.not_mem_names distinct _ hMem hKind),
          Plan.compute_get?_of_not_mem now row' (Plan.not_mem_names distinct' _ hMem' hKind)]
        exact shared.stored f g hInside hMem hMentions hKind
  exact hAll f (shared.mem_left f hInside) hInside

/-- Two rows hold the same for the stored fields and for the shared ones. -/
def Agree (fields : List Field) (inside : Field → Prop) (left right : Row) : Prop :=
  ∀ g ∈ fields, (g.isFormula = true → inside g) → left.get? g.name = right.get? g.name

/-- Steps of one field keep two rows in agreement. They may be different steps unless the field
is shared. -/
theorem Agree.next (now : Time.Instant) {left right : Computed}
    (agree : Agree fields inside left.row right.row) {f : Field} (hf : f ∈ fields)
    (hFormula : f.isFormula = true) {step step' : Step} (hName : step.name = f.name)
    (hName' : step'.name = f.name)
    (hSame : inside f → step = Step.ofField f ∧ step' = Step.ofField f) :
    Agree fields inside (left.next fields now step).row (right.next others now step').row := by
  intro g hg hKind
  rw [Computed.next_get?, Computed.next_get?, hName, hName']
  by_cases hTurn : g.name = f.name
  · obtain rfl := distinct.eq_of_name hg hf hTurn
    have hInside := hKind hFormula
    obtain ⟨rfl, rfl⟩ := hSame hInside
    rw [if_pos rfl, if_pos rfl]
    refine congrArg some (Step.compute_congr fun _ e hCompiled => ?_)
    have hParsed := (Compiled.ofText_eq_parsed_iff g e).mp hCompiled
    apply shared.eval_eq distinct distinct' now hInside hParsed
    intro h hh _ hMentions
    exact agree h hh fun hRead => shared.closed g h hInside ⟨hg, hFormula, hh, hRead, hMentions⟩
  · rw [if_neg hTurn, if_neg hTurn]
    exact agree g hg hKind

/-- The same fields computed one after another keep two rows in agreement. -/
theorem Agree.foldl (now : Time.Instant) {turns : List Field} (hTurns : turns ⊆ fields)
    {left right : Computed} (agree : Agree fields inside left.row right.row) :
    Agree fields inside ((Step.ofFields turns).foldl (Computed.next fields now) left).row
      ((Step.ofFields turns).foldl (Computed.next others now) right).row := by
  induction turns generalizing left right with
  | nil => exact agree
  | cons f turns ih =>
      obtain ⟨hf, hRest⟩ := List.cons_subset.mp hTurns
      cases hFormula : f.isFormula with
      | true =>
          simp only [Step.ofFields, List.filter_cons_of_pos hFormula, List.map_cons,
            List.foldl_cons]
          exact ih hRest (Agree.next shared distinct distinct' now agree hf hFormula rfl rfl
            fun _ => ⟨rfl, rfl⟩)
      | false =>
          simp only [Step.ofFields, List.filter_cons_of_neg (ne_true_of_eq_false hFormula)]
          exact ih hRest agree

end Shared

end RowFormula
