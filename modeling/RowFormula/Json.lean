import RowFormula.Number.Text
import RowFormula.Entries

/-! JSON values and their compact text. -/
namespace RowFormula

/-- A number. Integers of up to 64 bits are kept apart, since they are written without
a fraction. -/
inductive JsonNumber where
  | integer (n : Int)
  | double (x : Float)
  deriving DecidableEq

def JsonNumber.toFloat : JsonNumber → Float
  | integer n => Number.ofInt n
  | double x => x

inductive Json where
  | null
  | bool (b : Bool)
  | number (n : JsonNumber)
  | string (s : String)
  | array (items : List Json)
  /-- The members in the order of the text, repeated names included. -/
  | object (members : List (String × Json))
  /-- Well-formed text without a value: a number beyond all doubles, a string with half a
  surrogate pair, or a list or object at a depth of 128. -/
  | unreadable

namespace Json

/-- The digits of a control character after `\u`. -/
def controlDigits (n : Nat) : List Char :=
  ['0', '0'] ++ (if n < 16 then ['0'] else []) ++ Nat.toDigits 16 n

/-- One character inside the quotes of a string. -/
def escapeChar (c : Char) : List Char :=
  if c = '"' ∨ c = '\\' then ['\\', c]
  else if c = '\x08' then ['\\', 'b']
  else if c = '\x0c' then ['\\', 'f']
  else if c = '\n' then ['\\', 'n']
  else if c = '\r' then ['\\', 'r']
  else if c = '\t' then ['\\', 't']
  else if c.toNat < 0x20 then ['\\', 'u'] ++ controlDigits c.toNat
  else [c]

def stringChars (s : String) : List Char := '"' :: s.toList.flatMap escapeChar ++ ['"']

def numberChars : JsonNumber → List Char
  | .integer n => Number.paddedInt 0 n
  | .double x => (Number.json.write x).toList

/-- Texts with commas between them. -/
def separated (texts : List (List Char)) : List Char := [','].intercalate texts

/-- A member of an object. -/
def memberChars (name : String) (value : List Char) : List Char :=
  stringChars name ++ ':' :: value

mutual

/-- The compact text. Members keep their order. -/
def chars : Json → List Char
  | .null | .unreadable => "null".toList
  | .bool b => (if b then "true" else "false").toList
  | .number n => numberChars n
  | .string s => stringChars s
  | .array items => '[' :: separated (itemTexts items) ++ [']']
  | .object members => '\x7b' :: separated (memberTexts members) ++ ['\x7d']

def itemTexts : List Json → List (List Char)
  | [] => []
  | item :: items => item.chars :: itemTexts items

def memberTexts : List (String × Json) → List (List Char)
  | [] => []
  | (name, value) :: members => memberChars name value.chars :: memberTexts members

end

def write (j : Json) : String := String.ofList j.chars

mutual

/-- The same value with the members of every object in the order of their names. Of several
members with one name the last counts. -/
def normalize : Json → Json
  | .array items => .array (normalizeItems items)
  | .object members => .object (Entries.ofList (normalizeMembers members))
  | other => other

def normalizeItems : List Json → List Json
  | [] => []
  | item :: items => item.normalize :: normalizeItems items

def normalizeMembers : List (String × Json) → List (String × Json)
  | [] => []
  | (name, value) :: members => (name, value.normalize) :: normalizeMembers members

end

mutual

/-- Nothing in the value is unreadable. -/
def isReadable : Json → Bool
  | .unreadable => false
  | .array items => itemsReadable items
  | .object members => membersReadable members
  | _ => true

def itemsReadable : List Json → Bool
  | [] => true
  | item :: items => item.isReadable && itemsReadable items

def membersReadable : List (String × Json) → Bool
  | [] => true
  | (_, value) :: members => value.isReadable && membersReadable members

end

end Json

end RowFormula
