import RowFormula.Json.Reader
import RowFormula.Field

/-! Schemas: the fields of a table as a JSON document. A record is an object or the list of
its values in order; members that are not known are skipped, whatever they hold. -/
namespace RowFormula

/-- The values of all members with a name. -/
def Json.membersNamed (name : String) (members : List (String × Json)) : List Json :=
  (members.filter (·.1 = name)).map (·.2)

namespace Field

/-- Optional text: null stands for none. -/
def formulaOfJson? : Json → Option (Option String)
  | .null => some none
  | .string s => some (some s)
  | _ => none

/-- The field with these values: a name, a type and at most one formula. -/
def ofValues? : List Json → List Json → List Json → Option Field
  | [.string name], [.string type], [] => some ⟨name, .ofText type, none⟩
  | [.string name], [.string type], [formula] =>
    (formulaOfJson? formula).map fun formula => ⟨name, .ofText type, formula⟩
  | _, _, _ => none

/-- The field that a record describes. A repeated member is refused. -/
def ofJson? : Json → Option Field
  | .object members =>
    ofValues? (Json.membersNamed "name" members) (Json.membersNamed "type" members)
      (Json.membersNamed "formula" members)
  | .array (name :: type :: formula) => ofValues? [name] [type] formula
  | _ => none

/-- The fields in a list of records. -/
def listOfJson? : Json → Option (List Field)
  | .array items => items.mapM ofJson?
  | _ => none

/-- The fields that a schema declares. -/
def ofSchema? : Json → Option (List Field)
  | .object members =>
    match Json.membersNamed "fields" members with
    | [fields] => listOfJson? fields
    | _ => none
  | .array [fields] => listOfJson? fields
  | _ => none

/-- The fields that the text of a schema declares. -/
def readSchema? (text : String) : Option (List Field) := (Json.read? text).bind ofSchema?

/-- The record of a field. -/
def toJson (field : Field) : Json :=
  let declared := [("name", .string field.name), ("type", .string field.type.name)]
  .object <| match field.formula with
    | some formula => declared ++ [("formula", .string formula)]
    | none => declared

/-- The list of the records. -/
def listToJson (fields : List Field) : Json := .array (fields.map toJson)

end Field

end RowFormula
