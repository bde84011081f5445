import RowFormula.Formula.Function
import RowFormula.Formula.Function.Argument
import RowFormula.Text.Search

/-! The text functions. Lengths and places count characters; places begin at one. -/
namespace RowFormula.TextFunction

open RowFormula.Text (replaceAll replaceNth indexOf?)

/-- The last characters. -/
def takeRight (n : Nat) (cs : List Char) : List Char := cs.drop (cs.length - n)

/-- Some characters from a place on. -/
def takeMid (place n : Nat) (cs : List Char) : List Char := (cs.drop (place - 1)).take n

/-- The first place from a given one on where a word occurs, zero when there is none. The
empty word occurs everywhere, also directly after the last character. -/
def findFrom (word cs : List Char) (place : Nat) : Nat :=
  let skipped := place - 1
  if cs.length < skipped then 0
  else
    match indexOf? word (cs.drop skipped) with
    | some n => skipped + n + 1
    | none => 0

/-- The greatest number of characters that repetition makes. -/
def maxRepeated : Nat := 32767

def repeated (times : Nat) (cs : List Char) : Outcome (List Char) :=
  if maxRepeated < cs.length * times then .error .wrongType
  else if cs = [] then .ok []
  else .ok (List.replicate times cs).flatten

/-- Text as a value. -/
def textOf (cs : List Char) : Value := .text (String.ofList cs)

/-- A number of characters or a place as a value. -/
def countOf (n : Nat) : Value := .number (Number.ofInt n)

/-- The value of a text function. -/
def apply (f : TextFunction) (args : List Value) : Outcome Value :=
  match f with
  | concat => .ok (.text (String.join (args.map Value.toText)))
  | upper => .ok (.text (Text.upper (Argument.text args 0)))
  | lower => .ok (.text (Text.lower (Argument.text args 0)))
  | left => do
    let n ← Argument.toCount (← Argument.numberOr 1 args 1)
    return textOf ((Argument.chars args 0).take n)
  | right => do
    let n ← Argument.toCount (← Argument.numberOr 1 args 1)
    return textOf (takeRight n (Argument.chars args 0))
  | mid => do
    let place ← Argument.number args 1
    let count ← Argument.number args 2
    let place ← Argument.toPlace place
    let count ← Argument.toCount count
    return textOf (takeMid place count (Argument.chars args 0))
  | len => .ok (countOf (Argument.chars args 0).length)
  | trim => .ok (.text (Text.trim (Argument.text args 0)))
  | find => do
    let place ← Argument.toPlace (← Argument.numberOr 1 args 2)
    return countOf (findFrom (Argument.chars args 0) (Argument.chars args 1) place)
  | substitute =>
    let cs := Argument.chars args 0
    let old := Argument.chars args 1
    let new := Argument.chars args 2
    if old = [] then .ok (textOf cs)
    else if args.length < 4 then .ok (textOf (replaceAll old new cs))
    else do
      let n ← Argument.toPlace (← Argument.number args 3)
      return textOf (replaceNth old new n cs)
  | rept => do
    let times ← Argument.toCount (← Argument.numberOr 0 args 1)
    return textOf (← repeated times (Argument.chars args 0))

end RowFormula.TextFunction
