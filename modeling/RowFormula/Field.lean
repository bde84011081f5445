import RowFormula.Text.Case

/-! Fields: the declared columns of a table. The type of a field says how its cells are
read; a field of type formula is computed. -/
namespace RowFormula

/-- The declared type of a field. -/
inductive FieldType where
  | text | longText
  | number | percent | currency | rating | duration | autonumber
  | boolean
  | date | datetime | createdTime | lastModifiedTime
  | email | url | phone | singleSelect
  | formula
  /-- A type without rules of its own. -/
  | other (name : String)
  deriving DecidableEq

namespace FieldType

/-- The canonical name. -/
def name : FieldType → String
  | text => "text"
  | longText => "long_text"
  | number => "number"
  | percent => "percent"
  | currency => "currency"
  | rating => "rating"
  | duration => "duration"
  | autonumber => "autonumber"
  | boolean => "boolean"
  | date => "date"
  | datetime => "datetime"
  | createdTime => "created_time"
  | lastModifiedTime => "last_modified_time"
  | email => "email"
  | url => "url"
  | phone => "phone"
  | singleSelect => "single_select"
  | formula => "formula"
  | other name => name

/-- The types that have rules of their own. -/
def known : List FieldType :=
  [text, longText, number, percent, currency, rating, duration, autonumber, boolean, date,
   datetime, createdTime, lastModifiedTime, email, url, phone, singleSelect, formula]

/-- Further names of known types. -/
def aliases : List (String × FieldType) :=
  [("single_line_text", text), ("longtext", longText), ("multiline_text", longText),
   ("auto_number", autonumber), ("checkbox", boolean), ("date_time", datetime),
   ("phone_number", phone), ("select", singleSelect)]

/-- The form in which names are compared: dashes and spaces are underscores and ASCII
capitals are lowered. -/
def normalize (name : String) : String :=
  String.ofList ((Text.lowerASCII name).toList.map fun c => if c = '-' ∨ c = ' ' then '_' else c)

/-- The known type of a normalized name. -/
def ofNormalized? (name : String) : Option FieldType :=
  (known.find? (·.name = name)).or (aliases.lookup name)

/-- The type that text names. A type that is not known keeps its name without the blanks
around it. -/
def ofText (s : String) : FieldType :=
  let name := Text.trim s
  (ofNormalized? (normalize name)).getD (other name)

/-- Cells are read as numbers. -/
def isNumeric (t : FieldType) : Bool :=
  t ∈ [number, percent, currency, rating, duration, autonumber]

/-- Cells are read as truth values. -/
def isBoolean (t : FieldType) : Bool := t = boolean

/-- Cells are read as instants. -/
def isDate (t : FieldType) : Bool := t ∈ [date, datetime, createdTime, lastModifiedTime]

def isOther : FieldType → Bool
  | other _ => true
  | _ => false

end FieldType

/-- A declared field. Any field may carry formula text; only fields of type formula are
computed from it. -/
structure Field where
  name : String
  type : FieldType
  formula : Option String := none
  deriving DecidableEq

namespace Field

def isFormula (field : Field) : Bool := field.type = .formula

/-- The form of a name that decides which names are the same. -/
def key (name : String) : String := Text.lower name

/-- Names match when they differ at most in case. -/
def hasName (field : Field) (name : String) : Bool := key field.name = key name

/-- The first field with a name. -/
def find? (fields : List Field) (name : String) : Option Field :=
  fields.find? (·.hasName name)

end Field

end RowFormula
