import RowFormula.Json.Token

/-! JSON values of text. The tokens are read once from left to right; the lists and objects
that are not closed yet are kept on a stack. -/
namespace RowFormula.Json

/-- An open list or object with what has been read of it, the last first. -/
inductive Frame where
  | list (items : List Json)
  /-- An object in which a value has to come for a name. A name without a value of its own
  makes the object unreadable. -/
  | object (members : List (String × Json)) (readable : Bool) (name : String)

/-- What has to come next, inside the open frames, the innermost first. -/
inductive Phase where
  | value (stack : List Frame)
  /-- A value, or the end of the list that has just begun. -/
  | firstItem (stack : List Frame)
  /-- A name, or the end of the object that has just begun. -/
  | firstName (stack : List Frame)
  | member (members : List (String × Json)) (readable : Bool) (stack : List Frame)
  | colon (members : List (String × Json)) (readable : Bool) (name : String)
    (stack : List Frame)
  /-- A comma or a closing bracket, or the end of the text. -/
  | after (j : Json) (stack : List Frame)

/-- The greatest number of lists and objects around a value. -/
def maxDepth : Nat := 127

/-- A closed list or object, with the frames around it. -/
def closed (j : Json) (stack : List Frame) : Phase :=
  .after (if stack.length < maxDepth then j else .unreadable) stack

/-- The object of some members, the last first. -/
def objectOf (members : List (String × Json)) (readable : Bool) : Json :=
  if readable then .object members.reverse else .unreadable

namespace Phase

/-- The phase after a token that begins a value. -/
def startValue (token : Token) (stack : List Frame) : Option Phase :=
  match token with
  | .scalar j => some (.after j stack)
  | .string (some s) => some (.after (.string s) stack)
  | .string none => some (.after .unreadable stack)
  | .openList => some (.firstItem stack)
  | .openObject => some (.firstName stack)
  | _ => none

/-- The phase after the name of a member. -/
def startMember (token : Token) (members : List (String × Json)) (readable : Bool)
    (stack : List Frame) : Option Phase :=
  match token with
  | .string (some s) => some (.colon members readable s stack)
  | .string none => some (.colon members false "" stack)
  | _ => none

/-- The phase after one more token, none when the token is wrong there. -/
def step (token : Token) : Phase → Option Phase
  | value stack => startValue token stack
  | firstItem stack =>
    match token with
    | .closeList => some (closed (.array []) stack)
    | token => startValue token (.list [] :: stack)
  | firstName stack =>
    match token with
    | .closeObject => some (closed (.object []) stack)
    | token => startMember token [] true stack
  | member members readable stack => startMember token members readable stack
  | colon members readable name stack =>
    match token with
    | .colon => some (.value (.object members readable name :: stack))
    | _ => none
  | after j stack =>
    match stack, token with
    | .list items :: rest, .comma => some (.value (.list (j :: items) :: rest))
    | .list items :: rest, .closeList => some (closed (.array (j :: items).reverse) rest)
    | .object members readable name :: rest, .comma =>
      some (.member ((name, j) :: members) readable rest)
    | .object members readable name :: rest, .closeObject =>
      some (closed (objectOf ((name, j) :: members) readable) rest)
    | _, _ => none

def run (phase : Phase) : List Token → Option Json
  | [] =>
    match phase with
    | .after j [] => some j
    | _ => none
  | token :: tokens =>
    match step token phase with
    | some next => run next tokens
    | none => none

end Phase

/-- The value of text, none when the text is not JSON. Parts of the value may be
unreadable. -/
def read? (text : String) : Option Json := do
  let cs := text.toList
  let tokens ← tokens? cs.length cs
  Phase.run (.value []) tokens

/-- The value of text when all of it is readable. -/
def readStrict? (text : String) : Option Json := (read? text).filter isReadable

end RowFormula.Json
