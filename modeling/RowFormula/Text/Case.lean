import RowFormula.Text.CaseRuns
import RowFormula.Text.Cased

/-! Upper and lower case of text. The mappings are the full ones: one character may
become several, and a capital sigma at the end of a word becomes the final form. -/
namespace RowFormula.Text

/-- The image of a code point under the first run that lists it. -/
def runImage (runs : List (Nat × Nat × Nat × Nat)) (n : Nat) : Option Nat :=
  runs.findSome? fun (first, last, step, image) =>
    if first ≤ n ∧ n ≤ last ∧ (n - first) % step = 0 then some (image + (n - first)) else none

/-- The image of a character beyond the ASCII range. -/
def mapWide (expansions : List (Nat × List Nat)) (runs : List (Nat × Nat × Nat × Nat))
    (c : Char) : List Char :=
  match expansions.lookup c.toNat with
  | some images => images.map Char.ofNat
  | none =>
    match runImage runs c.toNat with
    | some image => [Char.ofNat image]
    | none => [c]

/-- The upper case of one character. -/
def upperChar (c : Char) : List Char :=
  if c.toNat < 0x80 then [c.toUpper] else mapWide upperExpansions upperRuns c

/-- The lower case of one character, its neighbours left aside. -/
def lowerChar (c : Char) : List Char :=
  if c.toNat < 0x80 then [c.toLower] else mapWide lowerExpansions lowerRuns c

/-- Whether the nearest character that is not case ignorable is cased. -/
def meetsCased (cs : List Char) : Bool :=
  match cs.dropWhile isCaseIgnorable with
  | [] => false
  | c :: _ => isCased c

/-- The lower case of text, given the characters before it, the nearest first.
A capital sigma after a cased character and before none takes its final form. -/
def lowerAfter (before : List Char) : List Char → List Char
  | [] => []
  | c :: rest =>
    let image :=
      if c = 'Σ' then (if meetsCased before && !meetsCased rest then ['ς'] else ['σ'])
      else lowerChar c
    image ++ lowerAfter (c :: before) rest

/-- The text in upper case. -/
def upper (s : String) : String := String.ofList (s.toList.flatMap upperChar)

/-- The text in lower case. Two names are the same name when these agree. -/
def lower (s : String) : String := String.ofList (lowerAfter [] s.toList)

/-- The text with its ASCII capitals lowered and all else kept. -/
def lowerASCII (s : String) : String := String.ofList (s.toList.map Char.toLower)

theorem upperChar_of_ascii (c : Char) (h : c.toNat < 0x80) : upperChar c = [c.toUpper] := by
  simp [upperChar, h]

/-- Among ASCII characters the full mapping is the simple one. -/
theorem upper_of_ascii {s : String} (h : ∀ c ∈ s.toList, c.toNat < 0x80) :
    upper s = s.toUpper := by
  rw [upper, List.flatMap_def, List.map_congr_left fun c hc => upperChar_of_ascii c (h c hc),
    ← List.flatMap_def, ← List.map_eq_flatMap, String.toUpper, ← String.toList_map,
    String.ofList_toList]

end RowFormula.Text
