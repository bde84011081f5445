/-! Blank characters and the trimming of text. A blank is a character of the
White_Space property; the zero width space and the byte order mark are not. -/
namespace RowFormula.Text

/-- Membership in one of several closed ranges of code points. -/
def inRanges (ranges : List (Nat × Nat)) (c : Char) : Bool :=
  ranges.any fun range => range.1 ≤ c.toNat && c.toNat ≤ range.2

/-- The White_Space property. -/
def isBlank (c : Char) : Bool :=
  inRanges [(0x9, 0xD), (0x20, 0x20), (0x85, 0x85), (0xA0, 0xA0), (0x1680, 0x1680),
    (0x2000, 0x200A), (0x2028, 0x2029), (0x202F, 0x202F), (0x205F, 0x205F), (0x3000, 0x3000)] c

/-- Everything from the first character that is not blank. -/
def dropBlanks (cs : List Char) : List Char := cs.dropWhile isBlank

/-- The characters without the blanks at both ends. -/
def trimChars (cs : List Char) : List Char :=
  (dropBlanks (dropBlanks cs).reverse).reverse

/-- The text without the blanks at both ends. Blanks inside stay. -/
def trim (s : String) : String := String.ofList (trimChars s.toList)

/-- The text without the blanks in front. -/
def trimStart (s : String) : String := String.ofList (dropBlanks s.toList)

/-- Empty text is blank too. -/
def isAllBlank (s : String) : Bool := s.toList.all isBlank

/-- Nothing is left exactly of blanks. -/
theorem dropBlanks_eq_nil_iff (cs : List Char) :
    dropBlanks cs = [] ↔ ∀ c ∈ cs, isBlank c = true := by
  induction cs with
  | nil => simp [dropBlanks]
  | cons c rest ih =>
    by_cases h : isBlank c = true
    · rw [dropBlanks, List.dropWhile_cons_of_pos h]
      exact ih.trans (by simp [h])
    · simp [dropBlanks, h]

/-- Nothing is dropped where no blank comes first. -/
theorem dropBlanks_eq_self {cs : List Char} (h : ∀ c ∈ cs.head?, isBlank c = false) :
    dropBlanks cs = cs := by
  cases cs with
  | nil => rfl
  | cons c rest => rw [dropBlanks, List.dropWhile_cons_of_neg (by simp [h c rfl])]

/-- There is nothing to trim from text that has no blanks at its ends. -/
theorem trimChars_eq_self {cs : List Char} (hFirst : ∀ c ∈ cs.head?, isBlank c = false)
    (hLast : ∀ c ∈ cs.getLast?, isBlank c = false) : trimChars cs = cs := by
  have hReverse : ∀ c ∈ cs.reverse.head?, isBlank c = false := by rwa [List.head?_reverse]
  rw [trimChars, dropBlanks_eq_self hFirst, dropBlanks_eq_self hReverse, List.reverse_reverse]

end RowFormula.Text
