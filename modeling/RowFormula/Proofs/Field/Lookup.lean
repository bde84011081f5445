import RowFormula.Proofs.Field.Names

/-! The index of a catalog. It is filled field by field and stops at the first field whose name is
blank or repeats an earlier one. What is found in a full index is what a search through the fields
finds. -/
namespace RowFormula.Catalog

end RowFormula.Catalog
