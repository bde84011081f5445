import RowFormula.Field
import Std.Data.HashMap

/-! Catalogs: the fields of one table, found by name. No name is blank, and no two names
differ only in case. -/
namespace RowFormula

/-- Why a list of fields is no catalog, or why a field is not found in one. -/
inductive CatalogError where
  | emptyName
  | duplicate (name : String)
  | unknown (name : String)
  deriving DecidableEq

def CatalogError.message : CatalogError → String
  | .emptyName => "Field name must not be empty"
  | .duplicate name => "Duplicate field name: " ++ name
  | .unknown name => "Field not found: " ++ name

/-- Fields in the order of their declaration, with an index by key. -/
structure Catalog where
  fields : List Field
  index : Std.HashMap String Field

namespace Catalog

/-- The index of some fields, those indexed before it included. The first field with a blank
or repeated name is the one that is reported. -/
def indexFrom (index : Std.HashMap String Field) :
    List Field → Except CatalogError (Std.HashMap String Field)
  | [] => .ok index
  | field :: rest =>
    if Text.isAllBlank field.name then .error .emptyName
    else if index.contains (Field.key field.name) then .error (.duplicate field.name)
    else indexFrom (index.insert (Field.key field.name) field) rest

def ofFields (fields : List Field) : Except CatalogError Catalog :=
  (indexFrom ∅ fields).map fun index => ⟨fields, index⟩

/-- The field with a name, in any case. -/
def find? (catalog : Catalog) (name : String) : Option Field :=
  catalog.index[Field.key name]?

/-- The field with a name, or the error that there is none. -/
def require (catalog : Catalog) (name : String) : Except CatalogError Field :=
  match catalog.find? name with
  | some field => .ok field
  | none => .error (.unknown name)

/-- The fields that are computed, in the order of their declaration. -/
def formulaFields (catalog : Catalog) : List Field := catalog.fields.filter Field.isFormula

end Catalog

end RowFormula
