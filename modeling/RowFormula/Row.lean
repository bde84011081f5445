import RowFormula.Cell
import RowFormula.Entries

/-! Rows: cells by field name. Names are told apart by case, and rows with the same cells
are equal. -/
namespace RowFormula

structure Row where
  entries : List (String × Cell)
  sorted : Entries.Sorted entries
  deriving DecidableEq

namespace Row

def empty : Row := ⟨[], .nil⟩

/-- The row with one cell set. A cell stored under the same name is replaced. -/
def insert (row : Row) (name : String) (cell : Cell) : Row :=
  ⟨Entries.insert name cell row.entries, Entries.sorted_insert name cell row.sorted⟩

def get? (row : Row) (name : String) : Option Cell := row.entries.lookup name

def contains (row : Row) (name : String) : Bool := (row.get? name).isSome

/-- The number of names. -/
def size (row : Row) : Nat := row.entries.length

def isEmpty (row : Row) : Bool := row.entries.isEmpty

/-- The row of several cells. Of cells under one name the last counts. -/
def ofList (cells : List (String × Cell)) : Row :=
  cells.foldl (fun row cell => row.insert cell.1 cell.2) empty

/-- Setting one name changes what is stored there and nowhere else. -/
@[simp] theorem get?_insert (row : Row) (name : String) (cell : Cell) (other : String) :
    (row.insert name cell).get? other = if other = name then some cell else row.get? other :=
  Entries.lookup_insert name cell row.entries other

/-- Rows that store the same under every name are equal. -/
theorem eq_of_get? {row other : Row} (h : ∀ name, row.get? name = other.get? name) :
    row = other := by
  obtain ⟨entries, sorted⟩ := row
  obtain ⟨others, sorted'⟩ := other
  have same : entries = others := Entries.eq_of_lookup sorted sorted' h
  subst same
  rfl

end Row

end RowFormula
